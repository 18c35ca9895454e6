import Phrasebook.Proofs.Elements
import Phrasebook.Proofs.Substitution

/-!
# The signs of tags

Every tag begins with a sign that has `<` in front and ends with one that has
`>` at its end, whatever stands between.  This is a property of the grammar as a
value: `bracketAfter` follows which signs a frame has collected, and
`bracketsTags` checks rule by rule that a tag is made where the frame holds both.
So an element begins with `<`, and an element within another one has signs of
the outer one on either side.
-/

namespace Phrasebook.Markup

/-! ## Signs -/

theorem Measure.take_literal {word text : List Char} (present : literal word text ≠ 0) :
    text.take (literal word text) = word := by
  unfold literal at present ⊢
  split
  · rename_i isFront
    exact (List.prefix_iff_eq_take.mp (List.isPrefixOf_iff_prefix.mp isFront)).symm
  · simp_all

namespace Lexeme

/-- The signs that a tag begins with. -/
def opensTag : Lexeme → Bool
  | literal text => text.toList.head? == some '<'
  | closing => true
  | _ => false

/-- The signs that a tag ends with. -/
def closesTag : Lexeme → Bool
  | literal text => text.toList.getLast? == some '>'
  | _ => false

section Signs

variable {lexeme : Lexeme} {text token rest : List Char}

theorem eq_take_of_split? (cut : lexeme.split? text = some (token, rest)) :
    lexeme.measure text ≠ 0 ∧ token = text.take (lexeme.measure text) := by
  unfold split? at cut
  split at cut
  · contradiction
  · rename_i present
    exact ⟨present, (Prod.mk.inj (Option.some.inj cut)).1.symm⟩

theorem head?_of_opensTag (opens : lexeme.opensTag = true)
    (cut : lexeme.split? text = some (token, rest)) : token.head? = some '<' := by
  obtain ⟨present, rfl⟩ := eq_take_of_split? cut
  cases lexeme with
  | literal word =>
      rw [measure, Measure.take_literal present]
      exact beq_iff_eq.mp opens
  | closing =>
      rw [measure, Measure.take_literal present]
      rfl
  | _ => contradiction

theorem getLast?_of_closesTag (closes : lexeme.closesTag = true)
    (cut : lexeme.split? text = some (token, rest)) : token.getLast? = some '>' := by
  obtain ⟨present, rfl⟩ := eq_take_of_split? cut
  cases lexeme with
  | literal word =>
      rw [measure, Measure.take_literal present]
      exact beq_iff_eq.mp closes
  | _ => contradiction

end Signs

end Lexeme

end Phrasebook.Markup

namespace Phrasebook.Markup.Grammar

/-! ## Brackets -/

/-- What is known of the signs at the two ends of a frame. -/
inductive Bracket where
  | unknown
  /-- Nothing has been read. -/
  | fresh
  /-- The first tree is a sign that a tag begins with. -/
  | opened
  /-- The last tree is also one that a tag ends with. -/
  | closed
deriving DecidableEq, Repr

namespace Bracket

def Holds : Bracket → Cursor → Prop
  | unknown, _ => True
  | fresh, cursor => cursor.covered = []
  | opened, cursor => ∃ inner sign, cursor.done = inner ++ [.leaf .symbol sign] ∧
      sign.head? = some '<'
  | closed, cursor => Tree.AreBracketed cursor.done.reverse

/-- The brackets when more trees may have come. -/
def grown : Bracket → Bracket
  | opened | closed => opened
  | _ => unknown

/-- The brackets when a token comes. -/
def afterToken (kind : Kind) (lexeme : Lexeme) : Bracket → Bracket
  | unknown => unknown
  | fresh => if kind == .symbol && lexeme.opensTag then opened else unknown
  | opened | closed => if kind == .symbol && lexeme.closesTag then closed else opened

section Holds

variable {bracket : Bracket} {cursor next : Cursor} {kind : Kind} {lexeme : Lexeme}

@[simp] theorem grown_grown (bracket : Bracket) : bracket.grown.grown = bracket.grown := by
  cases bracket <;> rfl

theorem holds_grown (holds : bracket.Holds cursor) : bracket.grown.Holds cursor := by
  cases bracket with
  | unknown | fresh => trivial
  | opened => exact holds
  | closed =>
      obtain ⟨opening, inner, closing, isDone, isOpening, _⟩ := holds
      refine ⟨.leaf .symbol closing :: inner.reverse, opening, ?_, isOpening⟩
      rw [← cursor.done.reverse_reverse, isDone]
      simp

theorem holds_grown_append (holds : bracket.Holds cursor) (trees : List Tree)
    (isDone : next.done = trees ++ cursor.covered) : bracket.grown.Holds next := by
  have remains := holds_grown holds
  cases bracket with
  | unknown | fresh => trivial
  | opened | closed =>
      obtain ⟨inner, sign, wasDone, isOpening⟩ := remains
      refine ⟨trees ++ (cursor.gap.reverse ++ inner), sign, ?_, isOpening⟩
      simp [isDone, Cursor.covered, wasDone]

theorem holds_of_step (holds : bracket.Holds cursor)
    (step : cursor.token? kind lexeme = some next ∨ cursor.raw? kind lexeme = some next) :
    (bracket.afterToken kind lexeme).Holds next := by
  obtain ⟨token, _, cut, isDone, _⟩ := Cursor.done_of_step step
  have remains : bracket.grown.Holds next := holds_grown_append holds [_] isDone
  cases bracket with
  | unknown => trivial
  | fresh =>
      rw [afterToken]
      split
      · rename_i isSign
        obtain ⟨isSymbol, opens⟩ := Bool.and_eq_true_iff.mp isSign
        obtain rfl := beq_iff_eq.mp isSymbol
        rw [Holds] at holds
        rw [holds] at isDone
        exact ⟨[], token, isDone, Lexeme.head?_of_opensTag opens cut⟩
      · trivial
  | opened | closed =>
      rw [afterToken]
      split
      · rename_i isSign
        obtain ⟨isSymbol, closes⟩ := Bool.and_eq_true_iff.mp isSign
        obtain rfl := beq_iff_eq.mp isSymbol
        obtain ⟨inner, sign, wasDone, isOpening⟩ := holds_grown holds
        refine ⟨sign, (cursor.gap.reverse ++ inner).reverse, token, ?_, isOpening,
          Lexeme.getLast?_of_closesTag closes cut⟩
        simp [isDone, Cursor.covered, wasDone]
      · exact remains

end Holds

end Bracket

/-! ## Grammars -/

variable {Rule : Type}

/-- What is known of the signs in a frame after a grammar has been read in it, given what is before
and which rules only add trees. -/
def bracketAfter (adding : Rule → Bool) : Bracket → Grammar Rule → Bracket
  | bracket, empty | bracket, require _ => bracket
  | bracket, token kind lexeme | bracket, raw kind lexeme => bracket.afterToken kind lexeme
  | bracket, sequence first second =>
    second.bracketAfter adding (first.bracketAfter adding bracket)
  | bracket, choice _ first second =>
    if first.bracketAfter adding bracket = second.bracketAfter adding bracket then
      first.bracketAfter adding bracket
    else .unknown
  | bracket, many _ body =>
    if body.bracketAfter adding bracket.grown = bracket.grown then bracket.grown else .unknown
  | bracket, frame _ => bracket.grown
  | _, wrap _ | _, reread _ => .unknown
  | bracket, rule name => if adding name then bracket.grown else .unknown

/-- Whether tags are made where a frame holds their two signs, and neither tags nor elements are
read as tokens. -/
def bracketsTags (adding : Rule → Bool) : Bracket → Grammar Rule → Bool
  | _, empty | _, require _ | _, reread _ | _, rule _ => true
  | _, token kind _ | _, raw kind _ => !(kind.isBracketed || kind.isElement)
  | bracket, sequence first second =>
    first.bracketsTags adding bracket &&
      second.bracketsTags adding (first.bracketAfter adding bracket)
  | bracket, choice _ first second =>
    first.bracketsTags adding bracket && second.bracketsTags adding bracket
  | _, many _ body => body.bracketsTags adding .unknown
  | _, frame body => body.bracketsTags adding .fresh
  | bracket, wrap kind => bracket == .closed || !kind.isBracketed

section Reads

variable {rules : Rule → Grammar Rule} {adding : Rule → Bool} {grammar : Grammar Rule}
  {cursor next : Cursor} {bracket : Bracket}

/-- What is said to be known of the signs in a frame after a grammar is the case. -/
theorem Reads.holdsBracket
    (sound : ∀ name, adding name = true → (rules name).bracketAfter adding .opened = .opened)
    (reads : Reads rules grammar cursor next) (holds : bracket.Holds cursor) :
    (grammar.bracketAfter adding bracket).Holds next := by
  induction reads generalizing bracket with
  | empty | require => exact holds
  | token step => exact Bracket.holds_of_step holds (.inl step)
  | raw step => exact Bracket.holds_of_step holds (.inr step)
  | sequence _ _ firstHolds secondHolds => exact secondHolds (firstHolds holds)
  | first _ branchHolds =>
      rw [bracketAfter]
      split
      · exact branchHolds holds
      · trivial
  | second _ branchHolds =>
      rw [bracketAfter]
      split
      · rename_i same
        rw [same]
        exact branchHolds holds
      · trivial
  | @more guard body _ _ _ _ _ bodyHolds restHolds =>
      by_cases isStable : body.bracketAfter adding bracket.grown = bracket.grown
      · have remains := restHolds (isStable ▸ bodyHolds (Bracket.holds_grown holds))
        rw [bracketAfter, Bracket.grown_grown] at remains
        exact remains
      · rw [bracketAfter, if_neg isStable]
        trivial
  | enough =>
      rw [bracketAfter]
      split
      · exact Bracket.holds_grown holds
      · trivial
  | frame => exact Bracket.holds_grown_append holds _ rfl
  | wrap | reread => trivial
  | @rule name _ _ _ bodyHolds =>
      rw [bracketAfter]
      split
      · rename_i isAdding
        cases bracket with
        | unknown | fresh => trivial
        | opened | closed =>
            have remains : Bracket.opened.Holds _ := Bracket.holds_grown holds
            rw [Bracket.grown, ← sound name isAdding]
            exact bodyHolds remains
      · trivial

/-- Where tags are made between their two signs, every tag that is read has them. -/
theorem Reads.bracketed
    (sound : ∀ name, adding name = true → (rules name).bracketAfter adding .opened = .opened)
    (wrapping : ∀ name, (rules name).bracketsTags adding .unknown = true)
    (reads : Reads rules grammar cursor next)
    (brackets : grammar.bracketsTags adding bracket = true) (gap : cursor.HasPlainGap)
    (holds : bracket.Holds cursor)
    (bracketed : ∀ tree ∈ cursor.done, tree.Bracketed) : ∀ tree ∈ next.done, tree.Bracketed := by
  induction reads generalizing bracket with
  | empty | require | enough => exact bracketed
  | token step =>
      exact Cursor.forall_mem_done_of_step gap (fun _ => Tree.IsPlain.bracketed)
        (fun _ => .leaf (by simpa [bracketsTags] using brackets)) bracketed (.inl step)
  | raw step =>
      exact Cursor.forall_mem_done_of_step gap (fun _ => Tree.IsPlain.bracketed)
        (fun _ => .leaf (by simpa [bracketsTags] using brackets)) bracketed (.inr step)
  | sequence firstReads _ firstBracketed secondBracketed =>
      obtain ⟨firstBrackets, secondBrackets⟩ := Bool.and_eq_true_iff.mp brackets
      exact secondBracketed secondBrackets (firstReads.hasPlainGap gap)
        (firstReads.holdsBracket sound holds) (firstBracketed firstBrackets gap holds bracketed)
  | first _ branchBracketed =>
      exact branchBracketed (Bool.and_eq_true_iff.mp brackets).1 gap holds bracketed
  | second _ branchBracketed =>
      exact branchBracketed (Bool.and_eq_true_iff.mp brackets).2 gap holds bracketed
  | @more guard body _ _ _ bodyReads _ bodyBracketed restBracketed =>
      -- Nothing is known of what a repetition follows.
      have bodyBrackets : body.bracketsTags adding .unknown = true := brackets
      have restBrackets : (many guard body).bracketsTags adding .unknown = true := brackets
      exact restBracketed restBrackets (bodyReads.hasPlainGap gap) trivial
        (bodyBracketed bodyBrackets gap trivial bracketed)
  | frame _ innerBracketed =>
      refine List.forall_mem_append.mpr
        ⟨?_, Cursor.forall_mem_covered gap (fun _ => Tree.IsPlain.bracketed) bracketed⟩
      exact innerBracketed brackets nofun rfl nofun
  | @wrap kind cursor =>
      refine List.forall_mem_singleton.mpr (.node (fun isTag => ?_) fun child childMem => ?_)
      · rw [bracketsTags, isTag, Bool.not_true, Bool.or_false, beq_iff_eq] at brackets
        subst brackets
        exact holds
      · exact bracketed child (List.mem_reverse.mp childMem)
  | reread isDone converted =>
      rw [isDone] at bracketed
      obtain ⟨newestBracketed, others⟩ := List.forall_mem_cons.mp bracketed
      exact List.forall_mem_cons.mpr
        ⟨(Reading.keeps_apply converted).bracketed newestBracketed, others⟩
  | rule _ bodyBracketed => exact bodyBracketed (wrapping _) gap trivial bracketed

end Reads

end Phrasebook.Markup.Grammar

namespace Phrasebook.Markup.Script

/-! ## Scripts -/

/-- The rules of the parts of a tag. -/
def addsToTag : Rule → Bool
  | .elementName | .attribute | .container => true
  | _ => false

theorem bracketAfter_rules (rule : Rule) (adding : addsToTag rule = true) :
    (rules rule).bracketAfter addsToTag .opened = .opened := by
  cases rule <;> first | rfl | contradiction

theorem bracketsTags_rules (rule : Rule) :
    (rules rule).bracketsTags addsToTag .unknown = true := by
  cases rule <;> rfl

theorem bracketed_start (text : List Char) : ∀ tree ∈ (start text).done, tree.Bracketed := by
  unfold start
  split
  · exact List.forall_mem_singleton.mpr (.leaf rfl)
  · exact nofun

theorem bracketed_of_read {text : List Char} {script : Tree} (done : read text = .ok script) :
    script.Bracketed := by
  have preserves (cursor next : Cursor) (reads : Grammar.Reads rules settledItem cursor next)
      (kept : cursor.HasPlainGap ∧ ∀ tree ∈ cursor.done, tree.Bracketed) :
      next.HasPlainGap ∧ ∀ tree ∈ next.done, tree.Bracketed := by
    have brackets : settledItem.bracketsTags addsToTag .unknown = true := rfl
    exact ⟨reads.hasPlainGap kept.1,
      reads.bracketed bracketAfter_rules bracketsTags_rules brackets kept.1 trivial kept.2⟩
  obtain ⟨last, ⟨gap, bracketed⟩, _, rfl⟩ :=
    exists_last_of_read preserves ⟨(tidy_start text).1, bracketed_start text⟩ done
  refine .node nofun fun tree treeMem => ?_
  exact Cursor.forall_mem_covered gap (fun _ => Tree.IsPlain.bracketed) bracketed tree
    (List.mem_reverse.mp treeMem)

end Phrasebook.Markup.Script

/-! ## Elements -/

namespace Phrasebook.Markup

section Kinds

variable {kind : Kind}

theorem Kind.eq_selfClosingElement (isElement : kind.isElement = true) (noTags : kind ≠ .element) :
    kind = .selfClosingElement := by
  cases kind <;> first | rfl | contradiction

theorem Kind.isBracketed_of_isTag (isTag : kind.isTag = true) : kind.isBracketed = true := by
  cases kind <;> first | rfl | contradiction

theorem Kind.isElement_of_isTag (isTag : kind.isTag = true) : kind.isElement = false := by
  cases kind <;> first | rfl | contradiction

end Kinds

section Trees

variable {tree : Tree}

theorem Tree.Bracketed.of_mem_walk {site : Site} (bracketed : site.tree.Bracketed) :
    ∀ inner ∈ site.walk, inner.tree.Bracketed :=
  Site.forall_mem_walk Tree.Bracketed.of_mem_children bracketed

theorem Tree.Bracketed.areBracketed (bracketed : tree.Bracketed)
    (isBracketed : tree.kind.isBracketed = true) : AreBracketed tree.children := by
  cases bracketed with
  | leaf noMarkup =>
      rw [kind] at isBracketed
      simp [isBracketed] at noMarkup
  | node brackets _ => exact brackets isBracketed

theorem Tree.Bracketed.isEnclosed (bracketed : tree.Bracketed) (paired : tree.Paired)
    (isElement : tree.kind = .element) : IsEnclosed tree.children := by
  cases paired with
  | leaf =>
      rw [kind] at isElement
      subst isElement
      cases bracketed
      contradiction
  | node enclosed _ => exact enclosed isElement

theorem Tree.text_of_children_ne_nil (present : tree.children ≠ []) :
    tree.text = textAll tree.children := by
  cases tree with
  | leaf => contradiction
  | node => rw [text_node, children]

theorem Tree.Bracketed.head?_text (bracketed : tree.Bracketed)
    (isBracketed : tree.kind.isBracketed = true) : tree.text.head? = some '<' := by
  obtain ⟨opening, inner, closing, areChildren, isOpening, _⟩ :=
    bracketed.areBracketed isBracketed
  rw [text_of_children_ne_nil (by simp [areChildren]), areChildren, textAll_cons, text_leaf,
    List.head?_append, isOpening]
  rfl

/-- Every element begins with `<`. -/
theorem Tree.Bracketed.head?_text_of_isElement (bracketed : tree.Bracketed) (paired : tree.Paired)
    (isElement : tree.kind.isElement = true) : tree.text.head? = some '<' := by
  by_cases hasTags : tree.kind = .element
  · obtain ⟨opening, inner, closing, areChildren, isOpening, _, _⟩ :=
      bracketed.isEnclosed paired hasTags
    have openingBracketed : opening.Bracketed :=
      bracketed.of_mem_children (by simp [areChildren])
    rw [text_of_children_ne_nil (by simp [areChildren]), areChildren, textAll_cons,
      List.head?_append, openingBracketed.head?_text (by rw [isOpening]; rfl)]
    rfl
  · apply bracketed.head?_text
    rw [Kind.eq_selfClosingElement isElement hasTags]
    rfl

end Trees

namespace Site

/-- Whether a site starts after the start of another one and stops before its end. -/
structure LiesInside (site outer : Site) : Prop where
  start : outer.before.length < site.before.length
  stop : site.upTo.length < outer.upTo.length

section Inside

variable {outer site inner child : Site}

theorem LiesInside.of_liesIn (inside : site.LiesInside outer) (within : inner.LiesIn site) :
    inner.LiesInside outer :=
  ⟨Nat.lt_of_lt_of_le inside.start within.before.length_le,
    Nat.lt_of_le_of_lt within.upTo.length_le inside.stop⟩

theorem LiesIn.liesInside (within : site.LiesIn outer) (inside : inner.LiesInside site) :
    inner.LiesInside outer :=
  ⟨Nat.lt_of_le_of_lt within.before.length_le inside.start,
    Nat.lt_of_lt_of_le inside.stop within.upTo.length_le⟩

/-- The children of a site between the first and the last one lie inside it. -/
theorem eq_or_liesInside {first last : Tree} {middle : List Tree}
    (areChildren : site.tree.children = first :: (middle ++ [last])) (solid : site.tree.Solid)
    (childMem : child ∈ site.children) :
    child.tree = first ∨ child.tree = last ∨ child.LiesInside site := by
  have firstPresent : 0 < first.text.length := List.length_pos_iff.mpr
    (solid.of_mem_children (by simp [areChildren])).text_ne_nil
  have lastPresent : 0 < last.text.length := List.length_pos_iff.mpr
    (solid.of_mem_children (by simp [areChildren])).text_ne_nil
  have isText : site.text = first.text ++ (Tree.textAll middle ++ last.text) := by
    rw [text, Tree.text_of_children_ne_nil (by simp [areChildren]), areChildren]
    simp
  rw [children, areChildren, neighbours, neighbours_append, List.mem_cons, List.mem_append]
    at childMem
  rcases childMem with rfl | isBetween | isLast
  · exact .inl rfl
  · obtain ⟨_, _, isAfter, isBefore⟩ := neighbours_facts isBetween
    have startsAfter := isAfter.length_le
    have stopsBefore := isBefore.length_le
    refine .inr (.inr ⟨?_, ?_⟩)
    · simp at startsAfter
      omega
    · simp [length_upTo, isText] at stopsBefore ⊢
      omega
  · obtain rfl := List.mem_singleton.mp isLast
    exact .inr (.inl rfl)

/-- What is below a tag but not one of its two signs lies inside the tag. -/
theorem liesInside_of_isBracketed (bracketed : site.tree.Bracketed) (solid : site.tree.Solid)
    (isBracketed : site.tree.kind.isBracketed = true) (childMem : child ∈ site.children)
    (innerMem : inner ∈ child.walk) (notSign : inner.tree.kind ≠ .symbol) :
    inner.LiesInside site := by
  obtain ⟨opening, middle, closing, areChildren, _, _⟩ := bracketed.areBracketed isBracketed
  have notLeaf (sign : List Char) (isLeaf : child.tree = .leaf .symbol sign) : False := by
    rw [walk_eq, children, isLeaf] at innerMem
    obtain rfl := List.mem_singleton.mp innerMem
    rw [isLeaf] at notSign
    exact notSign rfl
  rcases eq_or_liesInside areChildren solid childMem with isFirst | isLast | inside
  · exact (notLeaf opening isFirst).elim
  · exact (notLeaf closing isLast).elim
  · exact inside.of_liesIn (liesIn_of_mem_walk innerMem)

theorem liesInside_of_isElement (bracketed : outer.tree.Bracketed) (paired : outer.tree.Paired)
    (solid : outer.tree.Solid) (outerElement : outer.tree.kind.isElement = true)
    (childMem : child ∈ outer.children) (innerMem : inner ∈ child.walk)
    (innerElement : inner.tree.kind.isElement = true) : inner.LiesInside outer := by
  have notSign : inner.tree.kind ≠ .symbol := by
    intro isSign
    rw [isSign] at innerElement
    contradiction
  by_cases hasTags : outer.tree.kind = .element
  · obtain ⟨opening, middle, closing, areChildren, isOpening, isClosing, _⟩ :=
      bracketed.isEnclosed paired hasTags
    have treeMem := tree_mem_children childMem
    -- What is in one of the two tags lies inside that tag.
    have inTag (isTag : child.tree.kind.isTag = true) : inner.LiesInside outer := by
      rcases mem_walk.mp innerMem with rfl | ⟨part, partMem, isBelow⟩
      · rw [Kind.isElement_of_isTag isTag] at innerElement
        contradiction
      · apply (liesIn_of_mem_children childMem).liesInside
        exact liesInside_of_isBracketed (bracketed.of_mem_children treeMem)
          (solid.of_mem_children treeMem) (Kind.isBracketed_of_isTag isTag) partMem isBelow notSign
    rcases eq_or_liesInside areChildren solid childMem with isFirst | isLast | inside
    · exact inTag (by rw [isFirst, isOpening]; rfl)
    · exact inTag (by rw [isLast, isClosing]; rfl)
    · exact inside.of_liesIn (liesIn_of_mem_walk innerMem)
  · refine liesInside_of_isBracketed bracketed solid ?_ childMem innerMem notSign
    rw [Kind.eq_selfClosingElement outerElement hasTags]
    rfl

end Inside

end Site

/-- What is known of an element of a script. -/
structure IsElementIn (script : Tree) (element : Site) : Prop where
  inWalk : element ∈ (Site.root script).walk
  isElement : element.tree.kind.isElement = true
  solid : element.tree.Solid
  paired : element.tree.Paired
  bracketed : element.tree.Bracketed

theorem isElementIn_of_read {text : List Char} {script : Tree} {element : Site}
    (isRead : Script.read text = .ok script) (inWalk : element ∈ (Site.root script).walk)
    (isElement : element.tree.kind.isElement = true) : IsElementIn script element := by
  have notProgram : element.tree.kind ≠ .program := by
    intro isProgram
    rw [isProgram] at isElement
    exact Bool.false_ne_true isElement
  constructor
  case inWalk => exact inWalk
  case isElement => exact isElement
  case solid =>
    exact Build.solid_of_mem_walk_root (Script.isScriptOf_of_read isRead) inWalk notProgram
  case paired => exact Tree.Paired.of_mem_walk (Script.paired_of_read isRead) element inWalk
  case bracketed =>
    exact Tree.Bracketed.of_mem_walk (Script.bracketed_of_read isRead) element inWalk

end Phrasebook.Markup
