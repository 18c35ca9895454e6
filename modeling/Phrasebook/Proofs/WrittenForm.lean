import Phrasebook.Exchange.Export
import Phrasebook.Proofs.Filling
import Phrasebook.Proofs.Indentation
import Phrasebook.Proofs.SlotSpans

/-!
# Markup in written form

An import writes tags in one form: with a blank before each attribute, with a
closing tag exactly where the name is none of a tag without content, and with
no line break in a text.  Markup that stands in this form is written as it
stands, so that a book with such slots comes back from an export as it was.
-/

namespace Phrasebook.Exchange

open Markup
open Markup.Tree (textAll)
open Text (encoded)

/-! ## Trees -/

/-- The name of an element with its attributes, as an import writes them. -/
def openingText? (element : Tree) : Option String :=
  ((attributesOf element).mapM exportAttribute).toOption.map fun entries =>
    String.ofList (element.elementName?.getD []) ++ String.join (entries.map Attribute.code)

/-- Whether an element is written with an opening and a closing tag around its body. -/
def isPaired (element : Tree) : Bool :=
  let name := String.ofList (element.elementName?.getD [])
  !isVoid name && (openingText? element).any fun opening =>
    element.text == ("<" ++ opening ++ ">").toList ++ element.body ++ ("</" ++ name ++ ">").toList

/-- Whether an element is written as a tag without content. -/
def isSingle (element : Tree) : Bool :=
  isVoid (String.ofList (element.elementName?.getD [])) &&
    (openingText? element).any fun opening => element.text == ("<" ++ opening ++ "/>").toList

/-- Whether a tree is one of the tags of an element. -/
def isOwnTag (tree : Tree) : Bool :=
  tree.kind == .openingTag || tree.kind == .closingTag

mutual

/-- Whether a tree inside an element stands as an import writes what is exported for it. -/
def isWritten (tree : Tree) : Bool :=
  match tree with
  | .node .element children => isPaired tree && areWritten children
  | .node .selfClosingElement _ => isSingle tree
  | .node .container _ => true
  | _ => tree.text.all fun character => character != '\n' && character != '\r'

/-- Whether the trees of an element stand as an import writes what is exported for them. -/
def areWritten : List Tree → Bool
  | [] => true
  | tree :: trees => (isOwnTag tree || isWritten tree) && areWritten trees

end

section Trees

theorem openingText?_eq_some {element : Tree} {opening : String}
    (isOpening : openingText? element = some opening) :
    ∃ entries, (attributesOf element).mapM exportAttribute = .ok entries ∧
      opening = String.ofList (element.elementName?.getD []) ++
        String.join (entries.map Attribute.code) := by
  obtain ⟨entries, areEntries, rfl⟩ := Option.map_eq_some_iff.mp isOpening
  exact ⟨entries, toOption_eq_some_iff.mp areEntries, rfl⟩

/-- Text in front of nodes is written in front of them. -/
theorem toList_nodesMarkup_consText (indent : String) {text : List Char}
    (isSingle : IsSingleLine text) (nodes : List Node) :
    (nodesMarkup indent (consText text nodes)).toList =
      text ++ (nodesMarkup indent nodes).toList := by
  unfold consText
  split
  · rfl
  · simp [nodesMarkup, Node.markup, indentLines_append _ isSingle]
  · simp [nodesMarkup, Node.markup, indentLines_eq_self _ isSingle]

theorem isSingleLine_of_all {text : List Char}
    (single : (text.all fun character => character != '\n' && character != '\r') = true) :
    IsSingleLine text := by
  simpa [IsSingleLine] using single

theorem textAll_inner (children : List Tree) :
    (Markup.Tree.node .element children).body =
      textAll (children.filter fun child => !isOwnTag child) := by
  simp only [Markup.Tree.body, Markup.Tree.inner, isOwnTag, Bool.not_or, bne]

/-- An element that is written with two tags stands as it is written around its body. -/
theorem text_of_isPaired (indent : String) {element : Tree} (paired : isPaired element = true) :
    ∃ entries, (attributesOf element).mapM exportAttribute = .ok entries ∧
      ∀ inner, (nodesMarkup indent inner).toList = element.body →
        ((Node.tag (String.ofList (element.elementName?.getD [])) entries inner).markup
          indent).toList = element.text := by
  simp only [isPaired, Bool.and_eq_true, Bool.not_eq_true'] at paired
  obtain ⟨notVoid, paired⟩ := paired
  obtain ⟨opening, isOpening, isText⟩ := (Option.any_eq_true _ _).mp paired
  obtain ⟨entries, areEntries, rfl⟩ := openingText?_eq_some isOpening
  refine ⟨entries, areEntries, fun inner isInner => ?_⟩
  rw [Node.markup, notVoid, beq_iff_eq.mp isText, ← isInner]
  simp

theorem text_of_isSingle (indent : String) {element : Tree} (single : isSingle element = true) :
    ∃ entries, (attributesOf element).mapM exportAttribute = .ok entries ∧
      ((Node.tag (String.ofList (element.elementName?.getD [])) entries []).markup
        indent).toList = element.text := by
  simp only [isSingle, Bool.and_eq_true] at single
  obtain ⟨isVoidName, single⟩ := single
  obtain ⟨opening, isOpening, isText⟩ := (Option.any_eq_true _ _).mp single
  obtain ⟨entries, areEntries, rfl⟩ := openingText?_eq_some isOpening
  refine ⟨entries, areEntries, ?_⟩
  rw [Node.markup, isVoidName, beq_iff_eq.mp isText]
  simp

/-- What is exported for a tree is written as the tree stands, which is a single line if it is
text. -/
def WritesAs (indent : String) (tree : Tree) : Option Node → Prop
  | some node => (node.markup indent).toList = tree.text
  | none => IsSingleLine tree.text

/-- The case of a tree with children, of which the same is known. -/
theorem writesAs_exportTree_node {indent : String} {kind : Kind} {children : List Tree}
    (written : isWritten (.node kind children) = true)
    (below : areWritten children = true → ∃ nodes, exportTrees children = .ok nodes ∧
      (nodesMarkup indent nodes).toList =
        textAll (children.filter fun child => !isOwnTag child)) :
    ∃ node?, exportTree (.node kind children) = .ok node? ∧
      WritesAs indent (.node kind children) node? := by
  unfold isWritten at written
  split at written
  · rename_i isNode
    cases isNode
    obtain ⟨paired, areInner⟩ := (Bool.and_eq_true _ _).mp written
    obtain ⟨entries, areEntries, isText⟩ := text_of_isPaired indent paired
    obtain ⟨nodes, areNodes, isBody⟩ := below areInner
    rw [← textAll_inner] at isBody
    refine ⟨some _, ?_, isText nodes isBody⟩
    rw [exportTree, areEntries, areNodes]
    rfl
  · rename_i isNode
    cases isNode
    obtain ⟨entries, areEntries, isText⟩ := text_of_isSingle indent written
    refine ⟨some _, ?_, isText⟩
    rw [exportTree, areEntries]
    rfl
  · rename_i isNode
    cases isNode
    refine ⟨some (.code (String.ofList _)), by rw [exportTree], ?_⟩
    rw [WritesAs, Node.markup, String.toList_ofList]
  · rename_i notElement notSingle notContainer
    refine ⟨none, ?_, isSingleLine_of_all written⟩
    rw [exportTree.eq_4 _ notElement notSingle notContainer]

mutual

theorem writesAs_exportTree (indent : String) (tree : Tree) (written : isWritten tree = true) :
    ∃ node?, exportTree tree = .ok node? ∧ WritesAs indent tree node? := by
  cases tree with
  | leaf kind text =>
      rw [isWritten] at written
      · exact ⟨none, by rw [exportTree] <;> simp, isSingleLine_of_all written⟩
      all_goals simp
  | node kind children =>
      have below := nodesMarkup_exportTrees indent children
      exact writesAs_exportTree_node written below

theorem nodesMarkup_exportTrees (indent : String) (trees : List Tree)
    (written : areWritten trees = true) :
    ∃ nodes, exportTrees trees = .ok nodes ∧
      (nodesMarkup indent nodes).toList = textAll (trees.filter fun tree => !isOwnTag tree) := by
  cases trees with
  | nil => exact ⟨[], by rw [exportTrees], by simp [nodesMarkup]⟩
  | cons tree trees =>
      rw [areWritten, Bool.and_eq_true, Bool.or_eq_true] at written
      obtain ⟨nodes, areNodes, isMarkup⟩ := nodesMarkup_exportTrees indent trees written.2
      rw [exportTrees, ← isOwnTag]
      cases isOwn : isOwnTag tree with
      | true => exact ⟨nodes, areNodes, by simpa [isOwn] using isMarkup⟩
      | false =>
          obtain ⟨node?, isNode, isTree⟩ :=
            writesAs_exportTree indent tree (written.1.resolve_left (by simp [isOwn]))
          rw [isNode, areNodes]
          cases node? with
          | some node =>
              refine ⟨node :: nodes, rfl, ?_⟩
              rw [WritesAs] at isTree
              rw [nodesMarkup, String.toList_append, isTree, isMarkup]
              simp [isOwn]
          | none =>
              refine ⟨consText tree.text nodes, rfl, ?_⟩
              rw [toList_nodesMarkup_consText indent isTree, isMarkup]
              simp [isOwn]

end

end Trees

/-! ## Slots -/

/-- Whether a slot stands as an import fills it with what is exported for it. -/
def isWrittenSlot (marker : String) (slot : Tree) : Bool :=
  match slot with
  | .node .element children =>
    slot.text == ("<" ++ marker ++ ">").toList ++ slot.body ++ ("</" ++ marker ++ ">").toList &&
      areWritten children
  | _ => false

/-- Whether all slots of a rendering stand as an import fills them, and an import accepts their
number. -/
def isWrittenRendering (marker : String) (rendering : Rendering) : Bool :=
  (slots? marker rendering.body).any fun slots =>
    (rendering.form != .expression || slots.length == 1) &&
      slots.all fun slot => isWrittenSlot marker slot.tree

section Slots

variable {indent key marker : String} {rendering : Rendering}

theorem exists_exportSlot (indent : String) {slot : Tree}
    (written : isWrittenSlot marker slot = true) :
    ∃ nodes, exportSlot slot = .ok nodes ∧
      ("<" ++ marker ++ ">" ++ nodesMarkup indent nodes ++ "</" ++ marker ++ ">").toList =
        slot.text := by
  unfold isWrittenSlot at written
  split at written
  · rename_i children
    obtain ⟨isText, areInner⟩ := (Bool.and_eq_true _ _).mp written
    obtain ⟨nodes, areNodes, isBody⟩ := nodesMarkup_exportTrees indent children areInner
    refine ⟨nodes, by rw [exportSlot, areNodes], ?_⟩
    rw [beq_iff_eq.mp isText, textAll_inner, ← isBody]
    simp
  · contradiction

/-- A body is left alone by a slot that is filled with what it holds. -/
theorem fillSlot_eq_self {body : List Char} {slot : Site} {span : Nat × Nat} {nodes : List Node}
    (isSpan : IsSpanOf body slot span)
    (isText : ("<" ++ marker ++ ">" ++ nodesMarkup indent nodes ++ "</" ++ marker ++ ">").toList =
      slot.text) : fillSlot indent marker body span nodes = body := by
  have isPart : (body.drop span.1).take (span.2 - span.1) = slot.text := by
    rw [← List.extract_eq_take_drop]
    exact isSpan.text
  have isStop : span.1 + (span.2 - span.1) = span.2 := Nat.add_sub_cancel' isSpan.present.le
  rw [fillSlot, isText, ← isPart, List.append_assoc, ← isStop, ← List.drop_drop,
    Nat.add_sub_cancel_left, List.take_append_drop, List.take_append_drop]

/-- A body is left alone if every one of its slots is. -/
theorem fillFrom_eq_self {expected index : Nat} {body : String} {spans : List (Nat × Nat)}
    {bytes : List UInt8} {slots : List Site} {contents : List (List Node)}
    (isLocated : locate key marker expected rendering body = .ok spans)
    (areHere : spans.drop index = slots.map (span bytes))
    (same : List.Forall₂ (fun slot nodes =>
      fillSlot indent marker body.toList (span bytes slot) nodes = body.toList) slots contents) :
    fillFrom indent key marker expected rendering index contents body = .ok body := by
  induction same generalizing index with
  | nil =>
      rw [fillFrom, isLocated]
      rfl
  | @cons slot nodes slots contents isSame _ ih =>
      have isFirst := congrArg List.head? areHere
      have areOthers := congrArg List.tail areHere
      rw [List.head?_drop] at isFirst
      rw [List.tail_drop] at areOthers
      rw [fillFrom, isLocated]
      change fillFrom indent key marker expected rendering (index + 1) contents
        (String.ofList (fillSlot indent marker body.toList (spans[index]?.getD (0, 0)) nodes)) = _
      rw [isFirst]
      change fillFrom indent key marker expected rendering (index + 1) contents
        (String.ofList (fillSlot indent marker body.toList (span bytes slot) nodes)) = _
      rw [isSame, String.ofList_toList]
      exact ih areOthers

theorem locate_eq_ok (key : String) {body : String} {slots : List Site}
    (areSlots : slots? marker body = some slots)
    (accepted : (rendering.form != .expression || slots.length == 1) = true) :
    locate key marker slots.length rendering body =
      .ok (slots.map (span (encoded (functionHead ++ body.toList)))) := by
  have single : (rendering.form == .expression && slots.length != 1) = false := by
    rw [← Bool.not_eq_true', Bool.not_and]
    simpa [bne] using accepted
  unfold locate slotSpans
  rw [areSlots]
  simp only [bind, Except.bind, List.length_map, bne_self_eq_false, single]
  rfl

theorem fillSlot_exportSlot {body : String} {slots : List Site} {slot : Site} {nodes : List Node}
    (areSlots : slots? marker body = some slots) (slotMem : slot ∈ slots)
    (written : isWrittenSlot marker slot.tree = true)
    (areNodes : exportSlot slot.tree = .ok nodes) :
    fillSlot indent marker body.toList (span (encoded (functionHead ++ body.toList)) slot) nodes =
      body.toList := by
  unfold slots? at areSlots
  cases isRead : Script.read (functionHead ++ body.toList) with
  | error =>
      rw [isRead] at areSlots
      contradiction
  | ok script =>
      rw [isRead] at areSlots
      obtain rfl := Option.some.inj areSlots
      have isSpan := isSpanOf_span (isElementIn_of_mem_slotsIn isRead slotMem) isRead
      obtain ⟨found, isFound, isText⟩ := exists_exportSlot indent written
      obtain rfl := Except.ok.inj (areNodes.symm.trans isFound)
      exact fillSlot_eq_self isSpan isText

theorem exists_exportRendering (written : isWrittenRendering marker rendering = true) :
    ∃ wording, exportRendering marker rendering = .ok wording ∧
      wording.language = rendering.language ∧
      ∀ indent key, fill indent key marker rendering wording.slots = .ok rendering := by
  obtain ⟨slots, areSlots, accepted⟩ := (Option.any_eq_true _ _).mp written
  obtain ⟨isCount, areWritten⟩ := (Bool.and_eq_true _ _).mp accepted
  obtain ⟨contents, areContents⟩ : ∃ contents,
      slots.mapM (fun slot => exportSlot slot.tree) = .ok contents := by
    refine exists_mapM_eq_ok fun slot slotMem => ?_
    obtain ⟨nodes, areNodes, -⟩ :=
      exists_exportSlot "" (List.all_eq_true.mp areWritten slot slotMem)
    exact ⟨nodes, areNodes⟩
  refine ⟨⟨rendering.language, contents⟩, ?_, rfl, fun indent key => ?_⟩
  · unfold exportRendering
    rw [areSlots, Option.getD_some]
    dsimp only
    rw [areContents]
    rfl
  · have pairs := mapM_eq_ok_iff.mp areContents
    have isLocated := locate_eq_ok key areSlots isCount
    rw [pairs.length_eq] at isLocated
    have each {slot : Site} {nodes : List Node} (pairMem : (slot, nodes) ∈ slots.zip contents) :
        fillSlot indent marker rendering.body.toList
          (span (encoded (functionHead ++ rendering.body.toList)) slot) nodes =
            rendering.body.toList := by
      have slotMem := (List.of_mem_zip pairMem).1
      exact fillSlot_exportSlot areSlots slotMem (List.all_eq_true.mp areWritten slot slotMem)
        (List.forall₂_zip pairs pairMem)
    have isFilled : fillFrom indent key marker contents.length rendering 0 contents
        rendering.body = .ok rendering.body :=
      fillFrom_eq_self isLocated rfl (List.forall₂_iff_zip.mpr ⟨pairs.length_eq, each⟩)
    unfold fill
    dsimp only
    rw [isFilled]
    rfl

/-- A slot with a link, a line break and a number. -/
example : isWrittenRendering "O"
    { language := "en"
      body := "<O>See <a href=\"/x\" hidden>it</a><br/>\x7bn\x7d times</O>" } = true := by
  decide +kernel

end Slots

/-! ## Entries and books -/

/-- Whether an entry has one rendering for each of its languages, all of them in written form. -/
def isWrittenEntry (marker : String) (entry : Entry) : Bool :=
  decide (entry.renderings.map (·.language)).Nodup &&
    entry.renderings.all (isWrittenRendering marker)

/-- A book has one entry for each of its keys, all of them in written form. -/
structure IsWrittenBook (marker : String) (book : Book) : Prop where
  distinct : book.keys.Nodup
  written : ∀ entry ∈ book.entries, isWrittenEntry marker entry = true

section Book

variable {indent marker : String} {entry : Entry} {book : Book}

/-- A rendering that takes its own place leaves the renderings alone. -/
theorem replaceRendering_eq_self {renderings : List Rendering} {rendering : Rendering}
    (isFound : renderings.find? (·.language == rendering.language) = some rendering) :
    replaceRendering rendering renderings = renderings := by
  induction renderings with
  | nil => rfl
  | cons first others ih =>
      rw [replaceRendering]
      rw [List.find?_cons] at isFound
      split
      · rename_i isSame
        rw [isSame] at isFound
        rw [Option.some.inj isFound]
      · rename_i isOther
        rw [Bool.eq_false_iff.mpr isOther] at isFound
        rw [ih isFound]

theorem exists_exportEntry (written : isWrittenEntry marker entry = true) :
    ∃ item, exportEntry marker entry = .ok item ∧ item.key = entry.key ∧
      ∀ indent, fillEntry indent marker entry item = { entry } := by
  obtain ⟨distinct, areWritten⟩ := (Bool.and_eq_true _ _).mp written
  have distinct := of_decide_eq_true distinct
  have each (rendering : Rendering) (renderingMem : rendering ∈ entry.renderings) :=
    exists_exportRendering (List.all_eq_true.mp areWritten rendering renderingMem)
  obtain ⟨wordings, areWordings⟩ := exists_mapM_eq_ok fun rendering renderingMem =>
    (each rendering renderingMem).imp fun _ => And.left
  refine ⟨⟨entry.key, some entry.isNew, entry.isDeleted, wordings⟩, ?_, rfl, fun indent => ?_⟩
  · unfold exportEntry
    rw [areWordings]
    rfl
  · have pairs := mapM_eq_ok_iff.mp areWordings
    have leavesAlone (wording : Wording) (wordingMem : wording ∈ wordings) :
        fillWording indent marker { entry } wording = { entry } := by
      obtain ⟨rendering, renderingMem, -, isExported⟩ := exists_mem_zip_right pairs wordingMem
      obtain ⟨found, isFound, sameLanguage, isFilled⟩ := each rendering renderingMem
      obtain rfl := Except.ok.inj (isExported.symm.trans isFound)
      have isThere := Book.find?_name_of_mem distinct renderingMem
      have isRendering : entry.rendering? wording.language = some rendering := by
        rw [sameLanguage]
        exact isThere
      unfold fillWording
      dsimp only
      rw [isRendering]
      dsimp only
      rw [isFilled]
      dsimp only
      rw [replaceRendering_eq_self isThere]
    have allAlone : wordings.foldl (fillWording indent marker) { entry } = { entry } := by
      refine List.foldlRecOn (motive := fun filling : Filling => filling = ⟨entry, [], none⟩)
        wordings _ rfl ?_
      rintro _ rfl wording wordingMem
      exact leavesAlone wording wordingMem
    exact allAlone

/-- Entries are left alone by a document that leaves each of them alone. -/
theorem fillEntries_eq_self {document : Document} {imported : Imported} {entries : List Entry}
    (goesOn : imported.fault? = none)
    (leavesAlone : ∀ entry ∈ entries, ∃ item, document.item? entry.key = some item ∧
      fillEntry indent marker entry item = { entry }) :
    fillEntries indent marker document imported entries =
      { imported with
        book := { imported.book with entries := imported.book.entries ++ entries }
        keys := imported.keys ++ entries.map (·.key) } := by
  induction entries generalizing imported with
  | nil => simp [fillEntries]
  | cons entry entries ih =>
      obtain ⟨⟨item, isItem, isSame⟩, others⟩ := List.forall_mem_cons.mp leavesAlone
      rw [fillEntries, goesOn, isItem]
      dsimp only
      rw [isSame, ih rfl others]
      simp

theorem exists_item?_eq_some {items : List Item} (distinct : book.keys.Nodup)
    (pairs : List.Forall₂ (fun entry item => exportEntry marker entry = .ok item ∧
      item.key = entry.key) book.entries items) (entryMem : entry ∈ book.entries) :
    ∃ item, Document.item? ⟨items⟩ entry.key = some item ∧ exportEntry marker entry = .ok item := by
  obtain ⟨item, itemMem, -, isExported, sameKey⟩ := exists_mem_zip_left pairs entryMem
  have sameKeys : items.map (·.key) = book.keys :=
    (map_eq_map_of_forall₂ (pairs.imp fun _ _ related => related.2.symm)).symm
  have distinctItems : (items.reverse.map (·.key)).Nodup := by
    rwa [List.map_reverse, List.nodup_reverse, sameKeys]
  have isFound := Book.find?_name_of_mem distinctItems (List.mem_reverse.mpr itemMem)
  rw [sameKey] at isFound
  exact ⟨item, isFound, isExported⟩

/-- A book in written form can be exported, and importing what was exported leaves it as it was. -/
theorem importDocument_ofBook (isWritten : IsWrittenBook marker book) :
    ∃ document, Document.ofBook marker book = .ok document ∧
      ∀ indent, importDocument indent marker document book = { book, keys := book.keys } := by
  have each (entry : Entry) (entryMem : entry ∈ book.entries) :=
    exists_exportEntry (isWritten.written entry entryMem)
  obtain ⟨items, areItems⟩ := exists_mapM_eq_ok fun entry entryMem =>
    (each entry entryMem).imp fun _ => And.left
  have pairs : List.Forall₂ (fun entry item => exportEntry marker entry = .ok item ∧
      item.key = entry.key) book.entries items := by
    refine List.forall₂_iff_zip.mpr ⟨(mapM_eq_ok_iff.mp areItems).length_eq, fun pairMem => ?_⟩
    have isExported := List.forall₂_zip (mapM_eq_ok_iff.mp areItems) pairMem
    obtain ⟨found, isFound, sameKey, -⟩ := each _ (List.of_mem_zip pairMem).1
    obtain rfl := Except.ok.inj (isExported.symm.trans isFound)
    exact ⟨isExported, sameKey⟩
  refine ⟨⟨items⟩, ?_, fun indent => ?_⟩
  · unfold Document.ofBook
    rw [areItems]
    rfl
  · unfold importDocument
    rw [fillEntries_eq_self rfl fun entry entryMem => ?_]
    · rfl
    · obtain ⟨item, isItem, isExported⟩ := exists_item?_eq_some isWritten.distinct pairs entryMem
      obtain ⟨found, isFound, -, isSame⟩ := each entry entryMem
      obtain rfl := Except.ok.inj (isExported.symm.trans isFound)
      exact ⟨item, isItem, isSame indent⟩

end Book

end Phrasebook.Exchange
