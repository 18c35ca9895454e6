import Phrasebook.Exchange.Export
import Phrasebook.Exchange.Import
import Phrasebook.Proofs.Outcome

/-!
# What an import does not see

A void tag is written without its children, and a tag counts as void by its
name in lower case alone.  Importing a document is therefore importing it
without the children of all such tags, components among them.
-/

namespace Phrasebook.Exchange

mutual

/-- A node without the children of void tags. -/
def Node.pruned : Node → Node
  | .text value => .text value
  | .code source => .code source
  | .tag name attributes children =>
    .tag name attributes (if isVoid name then [] else prunedAll children)

/-- Nodes without the children of void tags. -/
def prunedAll : List Node → List Node
  | [] => []
  | node :: nodes => node.pruned :: prunedAll nodes

end

mutual

/-- The children of void tags are not written. -/
theorem markup_pruned (indent : String) (node : Node) :
    node.pruned.markup indent = node.markup indent := by
  cases node with
  | text | code => rw [Node.pruned]
  | tag name attributes children =>
      rw [Node.pruned, Node.markup, Node.markup]
      split
      · rfl
      · rw [nodesMarkup_prunedAll indent children]

theorem nodesMarkup_prunedAll (indent : String) (nodes : List Node) :
    nodesMarkup indent (prunedAll nodes) = nodesMarkup indent nodes := by
  cases nodes with
  | nil => rw [prunedAll]
  | cons node nodes =>
      rw [prunedAll, nodesMarkup, nodesMarkup, markup_pruned indent node,
        nodesMarkup_prunedAll indent nodes]

end

def Wording.pruned (wording : Wording) : Wording :=
  { wording with slots := wording.slots.map prunedAll }

def Item.pruned (item : Item) : Item :=
  { item with wordings := item.wordings.map Wording.pruned }

/-- A document without the children of void tags. -/
def Document.pruned (document : Document) : Document :=
  ⟨document.items.map Item.pruned⟩

/-! ## Other nodes in the slots -/

def Wording.withSlots (change : List Node → List Node) (wording : Wording) : Wording :=
  { wording with slots := wording.slots.map change }

def Item.withSlots (change : List Node → List Node) (item : Item) : Item :=
  { item with wordings := item.wordings.map (Wording.withSlots change) }

/-- A document with other nodes in its slots. -/
def Document.withSlots (change : List Node → List Node) (document : Document) : Document :=
  ⟨document.items.map (Item.withSlots change)⟩

theorem item?_withSlots (change : List Node → List Node) (document : Document) (key : String) :
    (document.withSlots change).item? key = (document.item? key).map (Item.withSlots change) := by
  rw [Document.item?, Document.withSlots, ← List.map_reverse, List.find?_map]
  rfl

section Import

variable {indent other : String} {change : List Node → List Node}
  (same : ∀ nodes, nodesMarkup indent (change nodes) = nodesMarkup other nodes) (marker : String)

include same

theorem fillFrom_map (key : String) (expected : Nat) (rendering : Rendering) (index : Nat)
    (slots : List (List Node)) (body : String) :
    fillFrom indent key marker expected rendering index (slots.map change) body =
      fillFrom other key marker expected rendering index slots body := by
  induction slots generalizing index body with
  | nil => rfl
  | cons nodes slots ih =>
      simp only [List.map_cons, fillFrom, fillSlot, same, ih]

theorem fillWording_withSlots (filling : Filling) (wording : Wording) :
    fillWording indent marker filling (wording.withSlots change) =
      fillWording other marker filling wording := by
  simp only [fillWording, Wording.withSlots, fill, List.length_map, fillFrom_map same]

theorem fillEntry_withSlots (entry : Entry) (item : Item) :
    fillEntry indent marker entry (item.withSlots change) = fillEntry other marker entry item := by
  simp only [fillEntry, Item.withSlots, List.foldl_map, fillWording_withSlots same]

theorem fillEntries_withSlots (document : Document) (imported : Imported) (entries : List Entry) :
    fillEntries indent marker (document.withSlots change) imported entries =
      fillEntries other marker document imported entries := by
  induction entries generalizing imported with
  | nil => rfl
  | cons entry entries ih =>
      simp only [fillEntries, item?_withSlots, ih]
      cases imported.fault? with
      | some fault => rfl
      | none =>
          cases document.item? entry.key with
          | none => rfl
          | some item => simp only [Option.map_some, fillEntry_withSlots same]

/-- Importing a document with other nodes in its slots is importing it with another indentation,
if the nodes are written alike. -/
theorem importDocument_withSlots (document : Document) (book : Book) :
    importDocument indent marker (document.withSlots change) book =
      importDocument other marker document book :=
  fillEntries_withSlots same marker document _ book.entries

end Import

/-- Importing a document is importing it without the children of all void tags. -/
theorem importDocument_pruned (indent marker : String) (document : Document) (book : Book) :
    importDocument indent marker document.pruned book =
      importDocument indent marker document book :=
  importDocument_withSlots (nodesMarkup_prunedAll indent) marker document book

/-! ## What is lost -/

mutual

/-- The texts in a node, in their order. -/
def Node.texts : Node → List String
  | .text value => [value]
  | .code _ => []
  | .tag _ _ children => textsAll children

/-- The texts in nodes, in their order. -/
def textsAll : List Node → List String
  | [] => []
  | node :: nodes => node.texts ++ textsAll nodes

end

/-- The texts that a document shows. -/
def Document.texts (document : Document) : List String :=
  document.items.flatMap fun item =>
    item.wordings.flatMap fun wording => wording.slots.flatMap textsAll

/-- The text in a component whose name is that of a void tag but for its capital is gone once the
exported document has been imported. -/
theorem texts_of_component_lost :
    let book : Book := {
      preamble := ""
      entries := [{
        key := "k"
        dependencies := ["Link"]
        renderings := [{
          language := "en"
          body := "<O>See <Link href=\"/x\">the page</Link></O>" }] }] }
    ∃ document second, Document.ofBook "O" book = .ok document ∧
      (importDocument "\t" "O" document book).fault? = none ∧
      Document.ofBook "O" (importDocument "\t" "O" document book).book = .ok second ∧
      document.texts = ["See ", "the page"] ∧ second.texts = ["See "] := by
  intro book
  have run : ((do
      let document ← (Document.ofBook "O" book).toOption
      let imported := importDocument "\t" "O" document book
      let second ← (Document.ofBook "O" imported.book).toOption
      return (imported.fault?, document.texts, second.texts)) :
        Option (Option SlotFault × List String × List String)) =
      some (none, ["See ", "the page"], ["See "]) := by decide +kernel
  obtain ⟨document, isFirst, run⟩ := Option.bind_eq_some_iff.mp run
  obtain ⟨second, isSecond, run⟩ := Option.bind_eq_some_iff.mp run
  obtain ⟨noFault, texts⟩ := Prod.mk.inj (Option.some.inj run)
  obtain ⟨firstTexts, secondTexts⟩ := Prod.mk.inj texts
  exact ⟨document, second, toOption_eq_some_iff.mp isFirst, noFault,
    toOption_eq_some_iff.mp isSecond, firstTexts, secondTexts⟩

end Phrasebook.Exchange
