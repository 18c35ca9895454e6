import Phrasebook.Proofs.Brackets
import Phrasebook.Proofs.Encoding
import Mathlib.Data.List.Chain

/-!
# Children tile an element

The children of an element take the bytes between its two tags, without gaps and
without overlaps.  Elements and containers keep their places in the source, and
text is what is left between them, each time as much of it as there is.  A cursor
that passes over the sites of an element finds these children and their places.
-/

namespace Phrasebook.Markup

open Text (encoded extract_encoded)

/-! ## Tilings -/

/-- Whether pieces take the bytes between two offsets, each of them at least one and each from
where the piece before it stops. -/
def Tiles : Nat → List Piece → Nat → Prop
  | start, [], stop => start = stop
  | start, piece :: pieces, stop =>
    piece.start = start ∧ piece.start < piece.stop ∧ Tiles piece.stop pieces stop

def Child.isText : Child → Bool
  | .text _ => true
  | .tag _ | .container _ => false

/-- Two children of which at most one is text. -/
def Child.Apart (first second : Child) : Prop :=
  first.isText = true → second.isText = false

theorem Child.apart_of_isText {first : Child} (notText : first.isText = false) (second : Child) :
    first.Apart second := by
  intro isText
  rw [notText] at isText
  contradiction

/-- Children from an offset on, each behind the one before it. -/
def pieces : Nat → List Child → List Piece
  | _, [] => []
  | start, child :: children =>
    let stop := start + byteCount child.source
    ⟨child, start, stop⟩ :: pieces stop children

/-- The place of a part of an element that is code. -/
def Site.asPiece (part : Site) : Piece :=
  ⟨if part.tree.kind.isElement then .tag part.tree else .container part.tree, part.start, part.stop⟩

section Pieces

variable {children : List Child}

@[simp] theorem map_child_pieces (start : Nat) (children : List Child) :
    (pieces start children).map Piece.child = children := by
  induction children generalizing start with
  | nil => rfl
  | cons child children ih => rw [pieces, List.map_cons, ih]

theorem tiles_pieces (start : Nat) (present : ∀ child ∈ children, child.source ≠ []) :
    Tiles start (pieces start children) (start + byteCount (children.flatMap Child.source)) := by
  induction children generalizing start with
  | nil => rfl
  | cons child children ih =>
      obtain ⟨childPresent, othersPresent⟩ := List.forall_mem_cons.mp present
      have positive := byteCount_pos childPresent
      rw [List.flatMap_cons, byteCount_append, ← Nat.add_assoc]
      exact ⟨rfl, by dsimp only; omega, ih _ othersPresent⟩

/-- Children that make up a part of a text are each found in their place. -/
theorem extract_of_mem_pieces {front back : List Char} {piece : Piece}
    (pieceMem : piece ∈ pieces (byteCount front) children) :
    (encoded (front ++ children.flatMap Child.source ++ back)).extract piece.start piece.stop =
      encoded piece.child.source := by
  induction children generalizing front with
  | nil => cases pieceMem
  | cons child children ih =>
      rw [List.flatMap_cons]
      rcases List.mem_cons.mp pieceMem with rfl | isLater
      · rw [← List.append_assoc, List.append_assoc _ _ back]
        exact extract_encoded front child.source _
      · rw [← byteCount_append] at isLater
        rw [← List.append_assoc]
        exact ih isLater

end Pieces

/-! ## Children of trees -/

section Children

variable {children : List Child} {trees : List Tree}

theorem flatMap_source_consText (text : List Char) (children : List Child) :
    (Tree.consText text children).flatMap Child.source =
      text ++ children.flatMap Child.source := by
  unfold Tree.consText
  split <;> simp [Child.source]

/-- Nothing of what the trees cover is lost. -/
theorem flatMap_source_childrenOf (trees : List Tree) :
    (Tree.childrenOf trees).flatMap Child.source = Tree.textAll trees := by
  induction trees with
  | nil => rfl
  | cons tree trees ih =>
      rw [Tree.childrenOf, Tree.textAll_cons, ← ih]
      split_ifs
      · rfl
      · rfl
      · exact flatMap_source_consText _ _

theorem source_ne_nil_consText (text : List Char)
    (present : ∀ child ∈ children, child.source ≠ []) :
    ∀ child ∈ Tree.consText text children, child.source ≠ [] := by
  unfold Tree.consText
  split
  · exact present
  · obtain ⟨_, others⟩ := List.forall_mem_cons.mp present
    exact List.forall_mem_cons.mpr ⟨by simp_all [Child.source], others⟩
  · exact List.forall_mem_cons.mpr ⟨by simp_all [Child.source], present⟩

theorem source_ne_nil_childrenOf (present : ∀ tree ∈ trees, tree.text ≠ []) :
    ∀ child ∈ Tree.childrenOf trees, child.source ≠ [] := by
  induction trees with
  | nil => nofun
  | cons tree trees ih =>
      obtain ⟨treePresent, othersPresent⟩ := List.forall_mem_cons.mp present
      rw [Tree.childrenOf]
      split_ifs
      · exact List.forall_mem_cons.mpr ⟨treePresent, ih othersPresent⟩
      · exact List.forall_mem_cons.mpr ⟨treePresent, ih othersPresent⟩
      · exact source_ne_nil_consText tree.text (ih othersPresent)

/-- Text in front of children joins text that they begin with. -/
theorem isChain_consText (text : List Char) (apart : children.IsChain Child.Apart) :
    (Tree.consText text children).IsChain Child.Apart := by
  unfold Tree.consText
  split
  · exact apart
  · rw [List.isChain_cons] at apart ⊢
    exact apart
  · rename_i notText
    refine List.isChain_cons.mpr ⟨fun child isFirst _ => ?_, apart⟩
    obtain ⟨others, rfl⟩ := List.head?_eq_some_iff.mp isFirst
    cases child with
    | text => exact (notText _ _ rfl).elim
    | tag | container => rfl

theorem isChain_childrenOf (trees : List Tree) :
    (Tree.childrenOf trees).IsChain Child.Apart := by
  induction trees with
  | nil => exact .nil
  | cons tree trees ih =>
      rw [Tree.childrenOf]
      split_ifs
      · exact List.isChain_cons.mpr ⟨fun second _ => Child.apart_of_isText rfl second, ih⟩
      · exact List.isChain_cons.mpr ⟨fun second _ => Child.apart_of_isText rfl second, ih⟩
      · exact isChain_consText tree.text ih

/-- Text in front of children moves them behind it. -/
theorem filter_pieces_consText (start : Nat) (text : List Char) (children : List Child) :
    (pieces start (Tree.consText text children)).filter (!·.child.isText) =
      (pieces (start + byteCount text) children).filter (!·.child.isText) := by
  unfold Tree.consText
  split <;> simp [pieces, Child.isText, Child.source, Nat.add_assoc]

/-- The children that neighbouring trees make other than text are those that are code, each in its
place. -/
theorem filter_pieces_childrenOf (before : List Char) (around trees : List Tree) :
    (pieces (byteCount before) (Tree.childrenOf trees)).filter (!·.child.isText) =
      ((Site.neighbours before around trees).filter Site.isCode).map Site.asPiece := by
  induction trees generalizing before with
  | nil => rfl
  | cons tree trees ih =>
      have moved : byteCount (tree.text.reverse ++ before) =
          byteCount before + byteCount tree.text := by
        rw [byteCount_append, byteCount_reverse, Nat.add_comm]
      have others := moved ▸ ih (tree.text.reverse ++ before)
      rw [Tree.childrenOf, Site.neighbours, List.filter_cons]
      unfold Site.isCode at others ⊢
      by_cases isElement : tree.kind.isElement = true
      · rw [if_pos isElement, if_pos (by simp [isElement]), List.map_cons, ← others]
        simp [pieces, Child.isText, Child.source, Site.asPiece, Site.start, Site.stop, isElement]
      · rw [if_neg isElement]
        split_ifs with isContainer isCode isCode
        · rw [List.map_cons, ← others]
          simp [pieces, Child.isText, Child.source, Site.asPiece, Site.start, Site.stop, isElement]
        · simp_all
        · simp_all
        · rw [filter_pieces_consText, others]

theorem consText_append (first second : List Char) (children : List Child) :
    Tree.consText (first ++ second) children =
      Tree.consText first (Tree.consText second children) := by
  obtain _ | ⟨character, first⟩ := first
  · rfl
  obtain _ | ⟨other, second⟩ := second
  · rw [List.append_nil]
    rfl
  obtain _ | ⟨child, children⟩ := children
  · rfl
  cases child <;> simp [Tree.consText]

end Children

/-! ## Elements -/

/-- Whether pieces divide what stands between the two tags of an element of a text. -/
structure Divides (text : List Char) (element closing : Site) (pieces : List Piece) : Prop where
  /-- The tags are the first and the last child, and no other child is a tag. -/
  tags : ∃ between, element.children = element.opening :: (between ++ [closing]) ∧
    element.opening.tree.kind = .openingTag ∧ closing.tree.kind = .closingTag ∧
    ∀ part ∈ between, part.tree.kind.isTag = false
  children : pieces.map Piece.child = element.tree.elementChildren
  tiles : Tiles element.opening.stop pieces closing.start
  sources : ∀ piece ∈ pieces,
    (encoded text).extract piece.start piece.stop = encoded piece.child.source
  whole : (encoded text).extract element.opening.stop closing.start =
    encoded (element.tree.elementChildren.flatMap Child.source)
  present : ∀ child ∈ element.tree.elementChildren, child.source ≠ []
  apart : element.tree.elementChildren.IsChain Child.Apart
  /-- Children other than text are the elements and containers among all children. -/
  code : pieces.filter (!·.child.isText) = (element.children.filter Site.isCode).map Site.asPiece

section Elements

variable {element : Site} {text : List Char} {script : Tree}

theorem Tree.inner_of_isEnclosed {tree opening closing : Tree} {between : List Tree}
    (isElement : tree.kind = .element)
    (areChildren : tree.children = opening :: (between ++ [closing]))
    (isOpening : opening.kind = .openingTag) (isClosing : closing.kind = .closingTag)
    (others : ∀ part ∈ between, part.kind.isTag = false) : tree.inner = between := by
  cases tree with
  | leaf => contradiction
  | node kind children =>
      obtain rfl : kind = .element := isElement
      obtain rfl : children = _ := areChildren
      exact (filter_isEnclosed isOpening isClosing others [] []).1

theorem Site.opening_eq_of_children {first : Site} {others : List Site}
    (isElement : element.tree.kind = .element) (areChildren : element.children = first :: others)
    (isOpening : first.tree.kind = .openingTag) : element.opening = first := by
  unfold opening
  rw [isElement, areChildren, List.find?_cons_of_pos (by simp [isOpening])]
  rfl

/-- The trees between the two tags of an element, and what is before and behind them. -/
structure StandsBetween (element : Site) (between : List Tree) (closing : Site) : Prop where
  trees : element.tree.children = element.opening.tree :: (between ++ [closing.tree])
  sites : element.children = element.opening :: (Site.neighbours element.opening.upTo.reverse
    (element.tree :: element.around) between ++ [closing])
  isOpening : element.opening.tree.kind = .openingTag
  isClosing : closing.tree.kind = .closingTag
  others : ∀ part ∈ between, part.kind.isTag = false
  before : closing.before = (element.opening.upTo ++ Tree.textAll between).reverse
  upTo : element.upTo = element.opening.upTo ++ Tree.textAll between ++ closing.text
  children : element.tree.elementChildren = Tree.childrenOf between

theorem exists_standsBetween (bracketed : element.tree.Bracketed) (paired : element.tree.Paired)
    (isElement : element.tree.kind = .element) :
    ∃ between closing, StandsBetween element between closing := by
  obtain ⟨opening, between, closing, areChildren, isOpening, isClosing, others⟩ :=
    bracketed.isEnclosed paired isElement
  let around := element.tree :: element.around
  let first : Site := ⟨element.before, around, opening⟩
  let last : Site := ⟨(first.upTo ++ Tree.textAll between).reverse, around, closing⟩
  have areSites : element.children =
      first :: (Site.neighbours first.upTo.reverse around between ++ [last]) := by
    rw [Site.children, areChildren, Site.neighbours, Site.neighbours_append]
    simp [first, last, around, Site.upTo, Site.text, Site.neighbours]
  have isFirst : element.opening = first :=
    Site.opening_eq_of_children isElement areSites isOpening
  refine ⟨between, last, ?_⟩
  constructor
  case trees => rw [isFirst, areChildren]
  case sites => rw [isFirst, areSites]
  case isOpening => rw [isFirst, isOpening]
  case isClosing => exact isClosing
  case others => exact others
  case before => rw [isFirst]
  case upTo =>
    rw [isFirst, Site.upTo, Site.text, Tree.text_of_children_ne_nil (by simp [areChildren]),
      areChildren]
    simp [first, last, Site.upTo, Site.text]
  case children =>
    rw [Tree.elementChildren,
      Tree.inner_of_isEnclosed isElement areChildren isOpening isClosing others]

end Elements

/-! ## The cursor -/

section Cursor

variable {front pending back : List Char} {trees : List Tree} {closing : Site}

theorem textBetween_encoded (front pending back : List Char) :
    Site.textBetween (encoded (front ++ pending ++ back)) (byteCount front)
      (byteCount front + byteCount pending) =
        pieces (byteCount front) (Tree.consText pending []) := by
  have isPart : ((encoded (front ++ pending ++ back)).take
      (byteCount front + byteCount pending)).drop (byteCount front) = encoded pending := by
    rw [List.drop_take, ← extract_encoded front pending back]
  unfold Site.textBetween
  rw [isPart, Text.Source.ofBytes_encoded]
  obtain _ | ⟨character, pending⟩ := pending
  · exact if_neg (Nat.lt_irrefl _)
  · exact if_pos (Nat.lt_add_of_pos_right (byteCount_pos (List.cons_ne_nil _ _)))

theorem pieces_consText_cons (start : Nat) (text : List Char) {child : Child}
    (notText : child.isText = false) (others : List Child) :
    pieces start (Tree.consText text (child :: others)) =
      pieces start (Tree.consText text []) ++
        pieces (start + byteCount text) (child :: others) := by
  obtain _ | ⟨character, text⟩ := text
  · rfl
  · cases child with
    | text => contradiction
    | tag | container => rfl

/-- A cursor over neighbouring trees finds the children that they make, where the text that it has
passed since the last child belongs to the next one. -/
theorem piecesFrom_neighbours {text : List Char} {start stop : Nat} (around : List Tree)
    (isClosing : closing.child? = none)
    (isText : text = front ++ pending ++ (Tree.textAll trees ++ back))
    (isStop : stop = byteCount (front ++ pending ++ Tree.textAll trees))
    (startsBefore : start ≤ byteCount front) :
    Site.piecesFrom (encoded text) start stop (byteCount front)
      (Site.neighbours (front ++ pending).reverse around trees ++ [closing]) =
        pieces (byteCount front) (Tree.consText pending (Tree.childrenOf trees)) := by
  induction trees generalizing front pending with
  | nil =>
      rw [Site.neighbours, List.nil_append, Site.piecesFrom, isClosing, isText, isStop,
        Tree.textAll_nil, List.append_nil, byteCount_append]
      exact (ite_self _).trans (textBetween_encoded front pending back)
  | cons tree trees ih =>
      have startsAt : (Site.mk (front ++ pending).reverse around tree).start =
          byteCount front + byteCount pending := by
        rw [Site.start, byteCount_reverse, byteCount_append]
      have inside : ¬(decide (byteCount front + byteCount pending < start) ||
          decide (stop < byteCount front + byteCount pending + byteCount tree.text)) = true := by
        simp only [isStop, Tree.textAll_cons, byteCount_append, Bool.or_eq_true, decide_eq_true_eq]
        omega
      have between := textBetween_encoded front pending (Tree.textAll (tree :: trees) ++ back)
      rw [← isText] at between
      -- The cursor is moved behind code, but not behind text.
      have behind := @ih (front ++ pending ++ tree.text) [] (by simp [isText]) (by simp [isStop])
        (by simp only [byteCount_append]; omega)
      have onwards := @ih front (pending ++ tree.text) (by simp [isText]) (by simp [isStop])
        startsBefore
      rw [List.append_nil, byteCount_append, byteCount_append] at behind
      rw [← List.append_assoc front] at onwards
      rw [Site.neighbours, ← List.reverse_append, List.cons_append, Site.piecesFrom, Site.stop,
        startsAt, if_neg inside, Tree.childrenOf]
      unfold Site.child?
      dsimp only
      split_ifs
      · rw [between, behind, pieces_consText_cons _ _ rfl]
        rfl
      · rw [between, behind, pieces_consText_cons _ _ rfl]
        rfl
      · rw [onwards, consText_append]

theorem StandsBetween.start_eq {element : Site} {between : List Tree}
    (stands : StandsBetween element between closing) :
    closing.start = element.opening.stop + byteCount (Tree.textAll between) := by
  rw [Site.start, stands.before, byteCount_reverse, byteCount_append, Site.stop_eq]

/-- A cursor over an element finds its children, one behind the other. -/
theorem StandsBetween.pieces_eq {element : Site} {between : List Tree}
    (stands : StandsBetween element between closing) (isElement : element.tree.kind = .element)
    (back : List Char) :
    element.pieces (encoded (element.upTo ++ back)) =
      pieces element.opening.stop element.tree.elementChildren := by
  have isClosed : element.closing? = some closing := by
    unfold Site.closing?
    rw [isElement, stands.sites, ← List.cons_append, List.reverse_append]
    exact List.find?_cons_of_pos (by simp [stands.isClosing])
  have notCode {tag : Site} (isTag : tag.tree.kind.isTag = true) : tag.child? = none := by
    unfold Site.child?
    cases isKind : tag.tree.kind <;> simp_all [Kind.isTag, Kind.isElement]
  have isOpening : element.opening.child? = none := notCode (by rw [stands.isOpening]; rfl)
  have isClosing : closing.child? = none := notCode (by rw [stands.isClosing]; rfl)
  have isText : element.upTo ++ back = element.opening.upTo ++ [] ++
      (Tree.textAll between ++ (closing.text ++ back)) := by
    simp [stands.upTo]
  have isStop : closing.start = byteCount (element.opening.upTo ++ [] ++ Tree.textAll between) := by
    rw [stands.start_eq, Site.stop_eq, List.append_nil, byteCount_append]
  have found := piecesFrom_neighbours (element.tree :: element.around) isClosing isText isStop
    (Nat.le_refl _)
  unfold Site.pieces
  rw [isClosed, Option.map_some, stands.sites, Site.piecesFrom, isOpening, stands.children,
    Site.stop_eq]
  simpa [Tree.consText] using found

end Cursor

/-! ## Divided elements -/

section Divided

variable {element : Site} {text : List Char} {script : Tree}

theorem StandsBetween.divides {between : List Tree} {closing : Site}
    (stands : StandsBetween element between closing) (isElement : element.tree.kind = .element)
    (solid : element.tree.Solid) {back : List Char} (isText : text = element.upTo ++ back) :
    Divides text element closing (element.pieces (encoded text)) := by
  have noTags : ∀ part ∈ Site.neighbours element.opening.upTo.reverse
      (element.tree :: element.around) between, part.tree.kind.isTag = false :=
    fun part partMem => stands.others _ (Site.neighbours_facts partMem).2.1
  have sources : element.tree.elementChildren.flatMap Child.source = Tree.textAll between := by
    rw [stands.children, flatMap_source_childrenOf]
  have present : ∀ child ∈ element.tree.elementChildren, child.source ≠ [] := by
    rw [stands.children]
    refine source_ne_nil_childrenOf fun tree treeMem => ?_
    exact (solid.of_mem_children (by simp [stands.trees, treeMem])).text_ne_nil
  have stopsAt := stands.start_eq
  rw [isText, stands.pieces_eq isElement back, ← isText]
  rw [stands.upTo, List.append_assoc _ closing.text] at isText
  constructor
  case tags => exact ⟨_, stands.sites, stands.isOpening, stands.isClosing, noTags⟩
  case children => exact map_child_pieces _ _
  case tiles =>
    rw [stopsAt, ← sources]
    exact tiles_pieces _ present
  case sources =>
    intro piece pieceMem
    rw [Site.stop_eq] at pieceMem
    rw [isText, ← sources]
    exact extract_of_mem_pieces pieceMem
  case whole =>
    rw [stopsAt, isText, sources, Site.stop_eq]
    exact extract_encoded _ _ _
  case present => exact present
  case apart => exact stands.children ▸ isChain_childrenOf between
  case code =>
    have areCode := filter_pieces_childrenOf element.opening.upTo.reverse
      (element.tree :: element.around) between
    rw [byteCount_reverse, ← Site.stop_eq, ← stands.children] at areCode
    rw [areCode, stands.sites]
    simp [Site.isCode, stands.isOpening, stands.isClosing, Kind.isElement]

theorem piecesFrom_of_forall_start_lt {sites : List Site} {start : Nat}
    (areBefore : ∀ site ∈ sites, site.start < start) (bytes : List UInt8) (stop cursor : Nat) :
    Site.piecesFrom bytes start stop cursor sites = Site.textBetween bytes cursor stop := by
  induction sites with
  | nil => rfl
  | cons site sites ih =>
      obtain ⟨isBefore, othersBefore⟩ := List.forall_mem_cons.mp areBefore
      rw [Site.piecesFrom, if_pos (by simp [isBefore]), ih othersBefore]

/-- What an element that closes itself has stands in its tag. -/
theorem pieces_eq_nil (isSelfClosing : element.tree.kind = .selfClosingElement)
    (solid : element.tree.Solid) (bytes : List UInt8) : element.pieces bytes = [] := by
  have isOpening : element.opening = element := by
    unfold Site.opening
    rw [isSelfClosing]
  have isOpen : element.closing? = none := by
    unfold Site.closing?
    rw [isSelfClosing]
  have areBefore : ∀ part ∈ element.children, part.start < element.stop := by
    intro part partMem
    have present := (solid.of_mem_children (Site.tree_mem_children partMem)).text_ne_nil
    exact Nat.lt_of_lt_of_le (Nat.lt_add_of_pos_right (byteCount_pos present))
      (Site.liesIn_of_mem_children partMem).stop_le
  unfold Site.pieces
  rw [isOpening, isOpen]
  exact (piecesFrom_of_forall_start_lt areBefore _ _ _).trans (if_neg (Nat.lt_irrefl _))

/-- The children of an element divide what stands between its two tags. -/
theorem divides_of_read (done : Script.read text = .ok script)
    (elementMem : element ∈ (Site.root script).walk)
    (isElement : element.tree.kind.isElement = true) :
    element.tree.kind = .element ∧
        (∃ closing, Divides text element closing (element.pieces (encoded text))) ∨
      element.tree.kind = .selfClosingElement ∧ element.tree.elementChildren = [] ∧
        element.pieces (encoded text) = [] := by
  have known := isElementIn_of_read done elementMem isElement
  by_cases hasTags : element.tree.kind = .element
  · obtain ⟨between, closing, stands⟩ :=
      exists_standsBetween known.bracketed known.paired hasTags
    obtain ⟨back, isText⟩ := Site.text_eq_of_mem_walk_root elementMem
    rw [(Script.isScriptOf_of_read done).text] at isText
    exact .inl ⟨hasTags, closing, stands.divides hasTags known.solid isText⟩
  · have isSelfClosing := Kind.eq_selfClosingElement isElement hasTags
    exact .inr ⟨isSelfClosing, (Site.inner_eq_nil hasTags).2,
      pieces_eq_nil isSelfClosing known.solid _⟩

/-- Text of several lengths and a reference around a comment, an element and an expression. -/
theorem divides_five_children :
    let text := "ä(<p id=\x7b0\x7d>é\x7b/*☃*/\x7d&nbsp;☃\n<b/>\x7bx\x7d</p>);".toList
    ∃ script element closing, Script.read text = .ok script ∧
      element ∈ (Site.root script).walk ∧ element.tree.kind = .element ∧
      element.opening.stop = 13 ∧
      (element.pieces (encoded text)).map (fun piece =>
          (piece.child.isText, String.ofList piece.child.source, piece.start, piece.stop)) =
        [(true, "é", 13, 15), (false, "\x7b/*☃*/\x7d", 15, 24), (true, "&nbsp;☃\n", 24, 34),
          (false, "<b/>", 34, 38), (false, "\x7bx\x7d", 38, 41)] ∧
      Divides text element closing (element.pieces (encoded text)) := by
  intro text
  have run : ((Script.read text).toOption.bind fun script =>
      ((Site.root script).walk.find? (·.tree.kind == .element)).map fun element =>
        (element.opening.stop, (element.pieces (encoded text)).map fun piece =>
          (piece.child.isText, String.ofList piece.child.source, piece.start, piece.stop))) =
      some (13, [(true, "é", 13, 15), (false, "\x7b/*☃*/\x7d", 15, 24),
        (true, "&nbsp;☃\n", 24, 34), (false, "<b/>", 34, 38), (false, "\x7bx\x7d", 38, 41)]) := by
    decide +kernel
  obtain ⟨script, isScript, run⟩ := Option.bind_eq_some_iff.mp run
  obtain ⟨element, isFound, run⟩ := Option.map_eq_some_iff.mp run
  obtain ⟨startsAt, arePieces⟩ := Prod.mk.inj run
  have isRead := toOption_eq_some_iff.mp isScript
  have elementMem := List.mem_of_find?_eq_some isFound
  have isElement : element.tree.kind = .element := by simpa using List.find?_some isFound
  have notLeaf : ¬(element.tree.kind = .selfClosingElement ∧ element.tree.elementChildren = [] ∧
      element.pieces (encoded text) = []) :=
    fun ⟨isLeaf, _⟩ => nomatch isElement.symm.trans isLeaf
  obtain ⟨_, closing, divides⟩ :=
    (divides_of_read isRead elementMem (by rw [isElement]; rfl)).resolve_right notLeaf
  exact ⟨script, element, closing, isRead, elementMem, isElement, startsAt, arePieces, divides⟩

end Divided

end Phrasebook.Markup
