import Phrasebook.Proofs.Between

/-!
# The two tags of an element

An element begins with its opening tag and ends with its closing tag, and no
other tag stands between its parts.  As with what stands between the tags, this
is a property of the grammar as a value: `stageAfter` follows which tags a frame
has collected, and `pairsTags` checks rule by rule that an element is made where
the frame holds both.  So the children of an element stand in a row behind its
opening tag.
-/

namespace Phrasebook.Markup.Grammar

/-! ## Stages -/

/-- What is known of the tags among the trees of a frame. -/
inductive Stage where
  | unknown
  | untagged
  /-- An opening tag and other trees after it. -/
  | opened
  /-- A closing tag alone. -/
  | closing
  /-- An opening tag, other trees and a closing tag. -/
  | closed
deriving DecidableEq, Repr

namespace Stage

/-- What a stage says about the trees of a frame, the newest first. -/
def Holds : Stage → List Tree → Prop
  | unknown, _ => True
  | untagged, done => ∀ tree ∈ done, tree.kind.isTag = false
  | opened, done => ∃ inner opening, done = inner ++ [opening] ∧ opening.kind = .openingTag ∧
      ∀ tree ∈ inner, tree.kind.isTag = false
  | closing, done => ∃ tag : Tree, done = [tag] ∧ tag.kind = .closingTag
  | closed, done => Tree.IsEnclosed done.reverse

/-- The stage when more trees come that are no tags. -/
def grown : Stage → Stage
  | untagged => untagged
  | opened => opened
  | _ => unknown

/-- The stage when the trees of an inner frame come. -/
def joined : Stage → Stage → Stage
  | stage, untagged => stage.grown
  | opened, closing => closed
  | _, _ => unknown

/-- The stage when all trees become one node. -/
def wrapped : Kind → Stage
  | .openingTag => opened
  | .closingTag => closing
  | _ => untagged

section Holds

variable {stage inner : Stage} {done trees : List Tree}

theorem holds_grown (holds : stage.Holds done) (noTags : ∀ tree ∈ trees, tree.kind.isTag = false) :
    stage.grown.Holds (trees ++ done) := by
  cases stage with
  | unknown | closing | closed => trivial
  | untagged => exact List.forall_mem_append.mpr ⟨noTags, holds⟩
  | opened =>
      obtain ⟨between, opening, rfl, isOpening, others⟩ := holds
      exact ⟨trees ++ between, opening, (List.append_assoc _ _ _).symm, isOpening,
        List.forall_mem_append.mpr ⟨noTags, others⟩⟩

theorem holds_joined (holds : stage.Holds done) (isInner : inner.Holds trees) {gap : List Tree}
    (noTags : ∀ tree ∈ gap, tree.kind.isTag = false) :
    (stage.joined inner).Holds (trees ++ (gap ++ done)) := by
  have behindGap := holds_grown holds noTags
  cases inner with
  | untagged =>
      rw [← List.append_assoc]
      exact holds_grown holds (List.forall_mem_append.mpr ⟨isInner, noTags⟩)
  | closing =>
      cases stage with
      | opened =>
          obtain ⟨tag, rfl, isClosing⟩ := isInner
          obtain ⟨between, opening, isFrame, isOpening, others⟩ := behindGap
          refine ⟨opening, between.reverse, tag, ?_, isOpening, isClosing, fun tree treeMem => ?_⟩
          · rw [isFrame]
            simp
          · exact others tree (List.mem_reverse.mp treeMem)
      | unknown | untagged | closing | closed => trivial
  | unknown | opened | closed => cases stage <;> trivial

theorem holds_wrapped (kind : Kind) (children : List Tree) :
    (wrapped kind).Holds [.node kind children] := by
  unfold wrapped
  split
  · exact ⟨[], _, rfl, rfl, nofun⟩
  · exact ⟨_, rfl, rfl⟩
  · rename_i notOpening notClosing
    refine List.forall_mem_singleton.mpr ?_
    rw [Tree.kind, Kind.isTag]
    · exact notOpening
    · exact notClosing

end Holds

end Stage

/-! ## Grammars -/

variable {Rule : Type}

/-- What is known of a frame after a grammar has been read in it, given what is before and which
rules add no tags. -/
def stageAfter (adding : Rule → Bool) : Stage → Grammar Rule → Stage
  | stage, empty | stage, require _ => stage
  | stage, token kind _ | stage, raw kind _ => if kind.isTag then .unknown else stage.grown
  | stage, sequence first second => second.stageAfter adding (first.stageAfter adding stage)
  | stage, choice _ first second =>
    if first.stageAfter adding stage = second.stageAfter adding stage then
      first.stageAfter adding stage
    else .unknown
  | stage, many _ body => if body.stageAfter adding stage = stage then stage else .unknown
  | stage, frame body => stage.joined (body.stageAfter adding .untagged)
  | _, wrap kind => .wrapped kind
  | _, reread _ => .unknown
  | stage, rule name => if adding name then stage.grown else .unknown

/-- Whether elements are made where a frame holds their two tags. -/
def pairsTags (adding : Rule → Bool) : Stage → Grammar Rule → Bool
  | _, empty | _, token _ _ | _, raw _ _ | _, require _ | _, reread _ | _, rule _ => true
  | stage, sequence first second =>
    first.pairsTags adding stage && second.pairsTags adding (first.stageAfter adding stage)
  | stage, choice _ first second => first.pairsTags adding stage && second.pairsTags adding stage
  | _, many _ body => body.pairsTags adding .unknown
  | _, frame body => body.pairsTags adding .untagged
  | stage, wrap kind => stage == .closed || kind != .element

section Reads

variable {rules : Rule → Grammar Rule} {adding : Rule → Bool} {grammar : Grammar Rule}
  {cursor next : Cursor} {stage : Stage}

/-- What is in a gap is no tag. -/
theorem isTag_eq_false_of_isPlain {tree : Tree} (plain : tree.IsPlain) :
    tree.kind.isTag = false := by
  obtain ⟨kind, text, isPlain, rfl⟩ := plain
  cases kind <;> first | rfl | contradiction

theorem Stage.holds_of_step {kind : Kind} {lexeme : Lexeme} (holds : stage.Holds cursor.done)
    (gap : cursor.HasPlainGap)
    (step : cursor.token? kind lexeme = some next ∨ cursor.raw? kind lexeme = some next) :
    (if kind.isTag then Stage.unknown else stage.grown).Holds next.done := by
  obtain ⟨token, _, _, isDone, _⟩ := Cursor.done_of_step step
  split
  · trivial
  · rename_i notTag
    rw [isDone, Cursor.covered, ← List.cons_append]
    refine holds_grown holds (List.forall_mem_cons.mpr ⟨(Bool.not_eq_true _).mp notTag, ?_⟩)
    exact fun tree treeMem => isTag_eq_false_of_isPlain (gap tree (List.mem_reverse.mp treeMem))

/-- What is said to be known of a frame after a grammar holds of it. -/
theorem Reads.holds
    (sound : ∀ name stage, adding name = true → stage.grown = stage →
      (rules name).stageAfter adding stage = stage)
    (reads : Reads rules grammar cursor next) (gap : cursor.HasPlainGap)
    (holds : stage.Holds cursor.done) : (grammar.stageAfter adding stage).Holds next.done := by
  induction reads generalizing stage with
  | empty | require => exact holds
  | token step => exact Stage.holds_of_step holds gap (.inl step)
  | raw step => exact Stage.holds_of_step holds gap (.inr step)
  | sequence firstReads _ firstHolds secondHolds =>
      exact secondHolds (firstReads.hasPlainGap gap) (firstHolds gap holds)
  | first _ branchHolds =>
      rw [stageAfter]
      split
      · exact branchHolds gap holds
      · trivial
  | second _ branchHolds =>
      rw [stageAfter]
      split
      · rename_i same
        rw [same]
        exact branchHolds gap holds
      · trivial
  | @more guard body _ _ _ bodyReads _ bodyHolds restHolds =>
      by_cases isStable : body.stageAfter adding stage = stage
      · exact restHolds (bodyReads.hasPlainGap gap) (isStable ▸ bodyHolds gap holds)
      · rw [stageAfter, if_neg isStable]
        trivial
  | enough =>
      rw [stageAfter]
      split
      · exact holds
      · trivial
  | frame _ innerHolds =>
      refine Stage.holds_joined holds (innerHolds nofun ?_) fun tree treeMem => ?_
      · exact List.forall_mem_nil _
      · exact isTag_eq_false_of_isPlain (gap tree (List.mem_reverse.mp treeMem))
  | wrap => exact Stage.holds_wrapped _ _
  | reread => trivial
  | @rule name _ _ _ bodyHolds =>
      rw [stageAfter]
      split
      · rename_i isAdding
        have grown : stage.grown.grown = stage.grown := by cases stage <;> rfl
        have before : stage.grown.Holds _ := Stage.holds_grown holds (List.forall_mem_nil _)
        exact sound name stage.grown isAdding grown ▸ bodyHolds gap before
      · trivial

/-- Where elements are made between their two tags, every element that is read has them. -/
theorem Reads.paired
    (sound : ∀ name stage, adding name = true → stage.grown = stage →
      (rules name).stageAfter adding stage = stage)
    (wrapping : ∀ name, (rules name).pairsTags adding .unknown = true)
    (reads : Reads rules grammar cursor next) (pairs : grammar.pairsTags adding stage = true)
    (gap : cursor.HasPlainGap) (holds : stage.Holds cursor.done)
    (paired : ∀ tree ∈ cursor.done, tree.Paired) : ∀ tree ∈ next.done, tree.Paired := by
  induction reads generalizing stage with
  | empty | require | enough => exact paired
  | token step =>
      exact Cursor.forall_mem_done_of_step gap (fun _ => Tree.IsPlain.paired) (fun _ => .leaf)
        paired (.inl step)
  | raw step =>
      exact Cursor.forall_mem_done_of_step gap (fun _ => Tree.IsPlain.paired) (fun _ => .leaf)
        paired (.inr step)
  | sequence firstReads _ firstPaired secondPaired =>
      obtain ⟨firstPairs, secondPairs⟩ := Bool.and_eq_true_iff.mp pairs
      exact secondPaired secondPairs (firstReads.hasPlainGap gap)
        (firstReads.holds sound gap holds) (firstPaired firstPairs gap holds paired)
  | first _ branchPaired =>
      exact branchPaired (Bool.and_eq_true_iff.mp pairs).1 gap holds paired
  | second _ branchPaired =>
      exact branchPaired (Bool.and_eq_true_iff.mp pairs).2 gap holds paired
  | @more guard body _ _ _ bodyReads _ bodyPaired restPaired =>
      -- Nothing is known of what a repetition follows.
      have bodyPairs : body.pairsTags adding .unknown = true := pairs
      have restPairs : (many guard body).pairsTags adding .unknown = true := pairs
      exact restPaired restPairs (bodyReads.hasPlainGap gap) trivial
        (bodyPaired bodyPairs gap trivial paired)
  | frame _ innerPaired =>
      refine List.forall_mem_append.mpr
        ⟨?_, Cursor.forall_mem_covered gap (fun _ => Tree.IsPlain.paired) paired⟩
      exact innerPaired pairs nofun (List.forall_mem_nil _) nofun
  | @wrap kind cursor =>
      refine List.forall_mem_singleton.mpr (.node (fun isElement => ?_) fun child childMem => ?_)
      · rw [isElement] at pairs
        obtain rfl : stage = .closed := by simpa [pairsTags] using pairs
        exact holds
      · exact paired child (List.mem_reverse.mp childMem)
  | reread isDone converted =>
      rw [isDone] at paired
      obtain ⟨newestPaired, others⟩ := List.forall_mem_cons.mp paired
      exact List.forall_mem_cons.mpr ⟨(Reading.keeps_apply converted).paired newestPaired, others⟩
  | rule _ bodyPaired => exact bodyPaired (wrapping _) gap trivial paired

end Reads

end Phrasebook.Markup.Grammar

namespace Phrasebook.Markup.Script

/-! ## Scripts -/

theorem stageAfter_rules (rule : Rule) (stage : Grammar.Stage) (adding : addsMarkup rule = true)
    (grown : stage.grown = stage) : (rules rule).stageAfter addsMarkup stage = stage := by
  cases rule <;> first | contradiction | (cases stage <;> first | contradiction | rfl)

theorem pairsTags_rules (rule : Rule) : (rules rule).pairsTags addsMarkup .unknown = true := by
  cases rule <;> rfl

theorem paired_start (text : List Char) : ∀ tree ∈ (start text).done, tree.Paired := by
  unfold start
  split
  · exact List.forall_mem_singleton.mpr .leaf
  · exact nofun

theorem paired_of_read {text : List Char} {script : Tree} (done : read text = .ok script) :
    script.Paired := by
  have preserves (cursor next : Cursor) (reads : Grammar.Reads rules settledItem cursor next)
      (kept : cursor.HasPlainGap ∧ ∀ tree ∈ cursor.done, tree.Paired) :
      next.HasPlainGap ∧ ∀ tree ∈ next.done, tree.Paired := by
    have pairs : settledItem.pairsTags addsMarkup .unknown = true := rfl
    exact ⟨reads.hasPlainGap kept.1,
      reads.paired stageAfter_rules pairsTags_rules pairs kept.1 trivial kept.2⟩
  obtain ⟨last, ⟨gap, paired⟩, _, rfl⟩ :=
    exists_last_of_read preserves ⟨(tidy_start text).1, paired_start text⟩ done
  refine .node nofun fun tree treeMem => ?_
  exact Cursor.forall_mem_covered gap (fun _ => Tree.IsPlain.paired) paired tree
    (List.mem_reverse.mp treeMem)

end Phrasebook.Markup.Script

/-! ## Elements -/

namespace Phrasebook.Markup

section Parts

variable {element : Site}

theorem Tree.Paired.of_mem_walk {site : Site} (paired : site.tree.Paired) :
    ∀ inner ∈ site.walk, inner.tree.Paired :=
  Site.forall_mem_walk Tree.Paired.of_mem_children paired

theorem Site.neighbours_append (before : List Char) (around left right : List Tree) :
    neighbours before around (left ++ right) =
      neighbours before around left ++
        neighbours ((Tree.textAll left).reverse ++ before) around right := by
  induction left generalizing before with
  | nil => simp [neighbours]
  | cons tree trees ih => simp [neighbours, ih]

/-- Of trees between two tags, those that are no tags stand in a row behind the first tag. -/
theorem filter_isEnclosed {opening closing : Tree} {inner : List Tree}
    (isOpening : opening.kind = .openingTag) (isClosing : closing.kind = .closingTag)
    (others : ∀ tree ∈ inner, tree.kind.isTag = false) (before : List Char) (around : List Tree) :
    (opening :: (inner ++ [closing])).filter
        (fun tree => tree.kind != .openingTag && tree.kind != .closingTag) = inner ∧
      (Site.neighbours before around (opening :: (inner ++ [closing]))).filter
        (fun site => site.tree.kind != .openingTag && site.tree.kind != .closingTag) =
        Site.neighbours (opening.text.reverse ++ before) around inner := by
  have areInner (tree : Tree) (treeMem : tree ∈ inner) :
      (tree.kind != .openingTag && tree.kind != .closingTag) = true := by
    have notTag := others tree treeMem
    generalize tree.kind = kind at notTag ⊢
    cases kind <;> first | rfl | contradiction
  constructor
  · rw [List.filter_cons_of_neg (by simp [isOpening]), List.filter_append,
      List.filter_eq_self.mpr areInner, List.filter_cons_of_neg (by simp [isClosing]),
      List.filter_nil, List.append_nil]
  · have areSites : ∀ site ∈ Site.neighbours (opening.text.reverse ++ before) around inner,
        (site.tree.kind != .openingTag && site.tree.kind != .closingTag) = true :=
      fun site siteMem => areInner _ (Site.neighbours_facts siteMem).2.1
    rw [Site.neighbours, List.filter_cons_of_neg (by simp [isOpening]), Site.neighbours_append,
      List.filter_append, List.filter_eq_self.mpr areSites, Site.neighbours,
      List.filter_cons_of_neg (by simp [isClosing]), Site.neighbours, List.filter_nil,
      List.append_nil]

/-- What stands between the tags of an element stands in a row behind its opening tag, which is
where the element starts. -/
theorem Tree.Paired.inner_eq (paired : element.tree.Paired)
    (isElement : element.tree.kind = .element) :
    element.opening.before = element.before ∧
      element.inner = Site.neighbours (element.opening.text.reverse ++ element.before)
        (element.tree :: element.around) element.tree.inner := by
  obtain ⟨before, around, tree⟩ := element
  cases paired with
  | @leaf kind text =>
      obtain rfl : kind = .element := isElement
      exact ⟨rfl, rfl⟩
  | @node kind children enclosed _ =>
      obtain rfl : kind = .element := isElement
      obtain ⟨opening, inner, closing, rfl, isOpening, isClosing, others⟩ := enclosed rfl
      let whole := Tree.node .element (opening :: (inner ++ [closing]))
      have isFirst : Site.opening ⟨before, around, whole⟩ = ⟨before, whole :: around, opening⟩ := by
        have isFound : (Site.children ⟨before, around, whole⟩).find?
            (·.tree.kind == .openingTag) = some ⟨before, whole :: around, opening⟩ :=
          List.find?_cons_of_pos (by simpa using isOpening)
        exact congrArg (fun found? => found?.getD ⟨before, around, whole⟩) isFound
      obtain ⟨areTrees, areSites⟩ :=
        filter_isEnclosed isOpening isClosing others before (whole :: around)
      rw [isFirst]
      exact ⟨rfl, areSites.trans (congrArg _ areTrees.symm)⟩

end Parts

/-! ## Rows of children -/

/-- The tree of a child that is no text. -/
def Child.tree? : Child → Option Tree
  | .text _ => none
  | .tag tree | .container tree => some tree

namespace Site

/-- The sites of children that stand in a row after a text; those that are text have none. -/
def standing (before : List Char) (around : List Tree) : List Child → List Site
  | [] => []
  | child :: children =>
    (child.tree?.map fun tree => ⟨before, around, tree⟩).toList ++
      standing (child.source.reverse ++ before) around children

/-- Whether a site is an element or a container. -/
def isCode (site : Site) : Bool :=
  site.tree.kind.isElement || site.tree.kind == .container

section Rows

variable {children : List Child} {tree : Tree}

theorem mem_standing_iff (before : List Char) (around : List Tree) :
    (∃ part ∈ standing before around children, part.tree = tree) ↔
      ∃ child ∈ children, child.tree? = some tree := by
  induction children generalizing before with
  | nil => simp [standing]
  | cons child children ih =>
      rw [standing, List.exists_mem_cons_iff, ← ih (child.source.reverse ++ before)]
      cases child.tree? <;> simp [or_and_right, exists_or]

/-- Text in front of children moves them behind it. -/
theorem standing_consText (before text : List Char) (around : List Tree) (children : List Child) :
    standing before around (Tree.consText text children) =
      standing (text.reverse ++ before) around children := by
  unfold Tree.consText
  split <;> simp [standing, Child.tree?, Child.source]

/-- The children that neighbouring trees make are those that are code, each in its place. -/
theorem standing_childrenOf (before : List Char) (around trees : List Tree) :
    standing before around (Tree.childrenOf trees) =
      (neighbours before around trees).filter isCode := by
  induction trees generalizing before with
  | nil => rfl
  | cons tree trees ih =>
      rw [Tree.childrenOf, neighbours, List.filter_cons, ← ih]
      unfold isCode
      dsimp only
      by_cases isElement : tree.kind.isElement = true
      · rw [if_pos isElement, isElement, Bool.true_or, if_pos rfl]
        rfl
      · rw [if_neg isElement, (Bool.not_eq_true _).mp isElement, Bool.false_or]
        split
        · rfl
        · exact standing_consText before tree.text around _

theorem mem_children_of_mem_elementChildren {element : Tree} {child : Child}
    (childMem : child ∈ element.elementChildren) (isTree : child.tree? = some tree) :
    element.kind = .element ∧ tree ∈ element.children := by
  obtain ⟨part, partMem, rfl⟩ :=
    (mem_standing_iff [] []).mpr ⟨child, childMem, isTree⟩
  rw [Tree.elementChildren, standing_childrenOf] at partMem
  have treeMem := (neighbours_facts (List.mem_filter.mp partMem).1).2.1
  unfold Tree.inner at treeMem
  split at treeMem
  · exact ⟨rfl, (List.mem_filter.mp treeMem).1⟩
  · cases treeMem

/-- What is no element with two tags has nothing between them. -/
theorem inner_eq_nil {site : Site} (notElement : site.tree.kind ≠ .element) :
    site.inner = [] ∧ site.tree.elementChildren = [] := by
  constructor
  · unfold inner
    split
    · contradiction
    · rfl
  · unfold Tree.elementChildren Tree.inner
    split
    · rename_i isNode
      exact absurd (congrArg Tree.kind isNode) notElement
    · rfl

/-- The children of an element stand in a row behind its opening tag. -/
theorem standing_elementChildren {element : Site} (paired : element.tree.Paired)
    (isElement : element.tree.kind = .element) :
    element.inner.filter isCode =
      standing (element.opening.text.reverse ++ element.before)
        (element.tree :: element.around) element.tree.elementChildren := by
  rw [(paired.inner_eq isElement).2, Tree.elementChildren, standing_childrenOf]

end Rows

end Site

end Phrasebook.Markup
