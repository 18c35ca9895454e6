import Phrasebook.Proofs.Pruning
import Mathlib.Logic.Function.Iterate

/-!
# What an import puts in

An import puts an indentation after every line break in a text, and an export
takes none away.  So what has been exported and imported a number of times is
written with its lines indented as many times over, and only texts of a single
line stay.
-/

namespace Phrasebook.Exchange

/-- No line ends in a text. -/
def IsSingleLine (text : List Char) : Prop :=
  ∀ character ∈ text, character ≠ '\n' ∧ character ≠ '\r'

section Lines

variable {front inner : List Char}

theorem indentLines_append (indentation : List Char) (isSingle : IsSingleLine front)
    (text : List Char) :
    indentLines indentation (front ++ text) = front ++ indentLines indentation text := by
  induction front with
  | nil => rfl
  | cons first front ih =>
      obtain ⟨⟨notFeed, notReturn⟩, areOthers⟩ := List.forall_mem_cons.mp isSingle
      have isOther : (first == '\n' || first == '\r') = false := by simp [notFeed, notReturn]
      rw [List.cons_append, indentLines, isOther, ih areOthers]
      · rfl
      · rintro rest rfl
        contradiction

theorem indentLines_eq_self (indentation : List Char) (isSingle : IsSingleLine front) :
    indentLines indentation front = front := by
  have whole := indentLines_append indentation isSingle []
  rwa [indentLines, List.append_nil] at whole

theorem indentLines_lineFeed (indentation text : List Char) :
    indentLines indentation ('\n' :: text) =
      '\n' :: indentation ++ indentLines indentation text := by
  rw [indentLines.eq_def]
  rfl

/-- To indent lines twice is to indent them by both indentations. -/
theorem indentLines_indentLines (outer : List Char) (isSingle : IsSingleLine inner)
    (text : List Char) :
    indentLines outer (indentLines inner text) = indentLines (outer ++ inner) text := by
  have afterFeed (rest : List Char)
      (ih : indentLines outer (indentLines inner rest) = indentLines (outer ++ inner) rest) :
      indentLines outer ('\n' :: inner ++ indentLines inner rest) =
        '\n' :: (outer ++ inner) ++ indentLines (outer ++ inner) rest := by
    rw [List.cons_append, indentLines_lineFeed, indentLines_append outer isSingle, ih,
      List.cons_append, List.cons_append, List.append_assoc]
  fun_induction indentLines inner text with
  | case1 => rfl
  | case2 text ih =>
      rw [afterFeed text ih]
      rfl
  | case3 first text notPair ih =>
      rw [indentLines.eq_3 _ _ _ notPair]
      split_ifs with isBreak
      · exact afterFeed text ih
      · have isOther : IsSingleLine [first] := by simpa [IsSingleLine] using isBreak
        rw [indentLines_append outer isOther, ih]

end Lines

/-! ## Documents with their lines indented -/

/-- Characters a number of times over. -/
def repeated (count : Nat) (indent : String) : String :=
  String.ofList (List.replicate count indent.toList).flatten

mutual

/-- A node with the lines of its texts indented as an import does. -/
def Node.shifted (indent : String) : Node → Node
  | .text value =>
    .text (String.ofList (indentLines (repeated 4 indent).toList value.toList))
  | .code source => .code source
  | .tag name attributes children => .tag name attributes (shiftedAll indent children)

/-- Nodes with the lines of their texts indented as an import does. -/
def shiftedAll (indent : String) : List Node → List Node
  | [] => []
  | node :: nodes => node.shifted indent :: shiftedAll indent nodes

end

/-- A document with the lines of its texts indented as an import does. -/
def Document.shifted (indent : String) (document : Document) : Document :=
  document.withSlots (shiftedAll indent)

section Shifted

variable {indent : String}

theorem toList_repeated (count : Nat) (indent : String) :
    (repeated count indent).toList = (List.replicate count indent.toList).flatten :=
  String.toList_ofList

theorem toList_repeated_append (first second : Nat) (indent : String) :
    (repeated first indent).toList ++ (repeated second indent).toList =
      (repeated (first + second) indent).toList := by
  rw [toList_repeated, toList_repeated, toList_repeated, ← List.flatten_append,
    List.replicate_append_replicate]

theorem toList_fourfold (count : Nat) (indent : String) :
    (repeated count indent ++ repeated count indent ++ repeated count indent ++
      repeated count indent).toList = (repeated (4 * count) indent).toList := by
  have isSum : 4 * count = count + count + count + count := by omega
  rw [String.toList_append, String.toList_append, String.toList_append, toList_repeated_append,
    toList_repeated_append, toList_repeated_append, isSum]

theorem isSingleLine_repeated (isSingle : IsSingleLine indent.toList) (count : Nat) :
    IsSingleLine (repeated count indent).toList := by
  intro character characterMem
  rw [toList_repeated, List.mem_flatten] at characterMem
  obtain ⟨part, partMem, characterMem⟩ := characterMem
  obtain rfl := List.eq_of_mem_replicate partMem
  exact isSingle character characterMem

mutual

/-- A node with its lines indented is written as with one indentation more. -/
theorem markup_shifted (isSingle : IsSingleLine indent.toList) (count : Nat) (node : Node) :
    (node.shifted indent).markup (repeated count indent) =
      node.markup (repeated (count + 1) indent) := by
  cases node with
  | text value =>
      rw [Node.shifted, Node.markup, Node.markup, String.toList_ofList,
        indentLines_indentLines _ (isSingleLine_repeated isSingle 4), toList_fourfold,
        toList_fourfold, toList_repeated_append, Nat.mul_succ]
  | code source => rw [Node.shifted, Node.markup, Node.markup]
  | tag name attributes children =>
      rw [Node.shifted, Node.markup, Node.markup, nodesMarkup_shiftedAll isSingle count children]

theorem nodesMarkup_shiftedAll (isSingle : IsSingleLine indent.toList) (count : Nat)
    (nodes : List Node) :
    nodesMarkup (repeated count indent) (shiftedAll indent nodes) =
      nodesMarkup (repeated (count + 1) indent) nodes := by
  cases nodes with
  | nil => rw [shiftedAll, nodesMarkup, nodesMarkup]
  | cons node nodes =>
      rw [shiftedAll, nodesMarkup, nodesMarkup, markup_shifted isSingle count node,
        nodesMarkup_shiftedAll isSingle count nodes]

end

theorem importDocument_shifted (isSingle : IsSingleLine indent.toList) (count : Nat)
    (marker : String) (document : Document) (book : Book) :
    importDocument (repeated count indent) marker (document.shifted indent) book =
      importDocument (repeated (count + 1) indent) marker document book :=
  importDocument_withSlots (nodesMarkup_shiftedAll isSingle count) marker document book

theorem importDocument_repeated (isSingle : IsSingleLine indent.toList) (count rounds : Nat)
    (marker : String) (document : Document) (book : Book) :
    importDocument (repeated count indent) marker ((Document.shifted indent)^[rounds] document)
        book =
      importDocument (repeated (count + rounds) indent) marker document book := by
  induction rounds generalizing document with
  | zero => rfl
  | succ rounds ih =>
      rw [Function.iterate_succ_apply, ih, importDocument_shifted isSingle]
      rfl

/-- A document whose lines have been indented in a number of rounds is imported as the first one
with that many indentations more. -/
theorem importDocument_iterate_shifted (isSingle : IsSingleLine indent.toList) (rounds : Nat)
    (marker : String) (document : Document) (book : Book) :
    importDocument indent marker ((Document.shifted indent)^[rounds] document) book =
      importDocument (repeated (1 + rounds) indent) marker document book := by
  have isOnce : repeated 1 indent = indent := by
    rw [repeated, List.replicate_one, List.flatten_singleton, String.ofList_toList]
  rw [← importDocument_repeated isSingle 1, isOnce]

mutual

/-- A node whose texts are single lines stays as it is. -/
theorem shifted_eq_self {node : Node} (areSingle : ∀ text ∈ node.texts, IsSingleLine text.toList) :
    node.shifted indent = node := by
  cases node with
  | text value =>
      rw [Node.texts] at areSingle
      have isSingle : IsSingleLine value.toList := areSingle value (List.mem_singleton.mpr rfl)
      rw [Node.shifted, indentLines_eq_self _ isSingle, String.ofList_toList]
  | code source => rw [Node.shifted]
  | tag name attributes children =>
      rw [Node.texts] at areSingle
      rw [Node.shifted, shiftedAll_eq_self areSingle]

theorem shiftedAll_eq_self {nodes : List Node}
    (areSingle : ∀ text ∈ textsAll nodes, IsSingleLine text.toList) :
    shiftedAll indent nodes = nodes := by
  cases nodes with
  | nil => rw [shiftedAll]
  | cons node nodes =>
      rw [textsAll] at areSingle
      obtain ⟨isFirst, areOthers⟩ := List.forall_mem_append.mp areSingle
      rw [shiftedAll, shifted_eq_self isFirst, shiftedAll_eq_self areOthers]

end

/-- A document whose texts are single lines stays as it is. -/
theorem Document.shifted_eq_self {document : Document}
    (areSingle : ∀ text ∈ document.texts, IsSingleLine text.toList) :
    document.shifted indent = document := by
  have sameWording {item : Item} (itemMem : item ∈ document.items) {wording : Wording}
      (wordingMem : wording ∈ item.wordings) :
      wording.withSlots (shiftedAll indent) = wording := by
    have sameSlots : wording.slots.map (shiftedAll indent) = wording.slots.map id := by
      refine List.map_congr_left fun nodes nodesMem => shiftedAll_eq_self fun text textMem => ?_
      refine areSingle text (List.mem_flatMap.mpr ⟨item, itemMem, ?_⟩)
      exact List.mem_flatMap.mpr
        ⟨wording, wordingMem, List.mem_flatMap.mpr ⟨nodes, nodesMem, textMem⟩⟩
    rw [Wording.withSlots, sameSlots, List.map_id]
  have sameItem {item : Item} (itemMem : item ∈ document.items) :
      item.withSlots (shiftedAll indent) = item := by
    rw [Item.withSlots, List.map_congr_left fun _ => sameWording itemMem, List.map_id']
  rw [shifted, withSlots, List.map_congr_left fun _ => sameItem, List.map_id']

end Shifted

/-- The second line of a text is indented once more each time it is exported and imported. -/
theorem body_of_second_line :
    let book : Book := {
      preamble := ""
      entries := [{ key := "k", renderings := [{ language := "en", body := "<O>a\nb</O>" }] }] }
    let bodies := fun (book : Book) =>
      book.entries.flatMap fun entry => entry.renderings.map (·.body)
    ∃ document second, Document.ofBook "O" book = .ok document ∧
      bodies (importDocument "\t" "O" document book).book = ["<O>a\n\t\t\t\tb</O>"] ∧
      Document.ofBook "O" (importDocument "\t" "O" document book).book = .ok second ∧
      bodies (importDocument "\t" "O" second (importDocument "\t" "O" document book).book).book =
        ["<O>a\n\t\t\t\t\t\t\t\tb</O>"] := by
  intro book bodies
  have run : ((do
      let document ← (Document.ofBook "O" book).toOption
      let first := (importDocument "\t" "O" document book).book
      let second ← (Document.ofBook "O" first).toOption
      return (bodies first, bodies (importDocument "\t" "O" second first).book)) :
        Option (List String × List String)) =
      some (["<O>a\n\t\t\t\tb</O>"], ["<O>a\n\t\t\t\t\t\t\t\tb</O>"]) := by decide +kernel
  obtain ⟨document, isFirst, run⟩ := Option.bind_eq_some_iff.mp run
  obtain ⟨second, isSecond, run⟩ := Option.bind_eq_some_iff.mp run
  obtain ⟨firstBodies, secondBodies⟩ := Prod.mk.inj (Option.some.inj run)
  exact ⟨document, second, toOption_eq_some_iff.mp isFirst, firstBodies,
    toOption_eq_some_iff.mp isSecond, secondBodies⟩

end Phrasebook.Exchange
