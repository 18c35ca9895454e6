import Phrasebook.Markup.Element
import Phrasebook.Proofs.Reading
import Phrasebook.Proofs.Walk

/-!
# What stands between two tags

Between the tags of an element stand elements, containers and plain text, and
no other code.  This is a property of the grammar as a value: `onlyMarkup`
follows what a frame has collected, and `tidyWraps` checks rule by rule that an
element is made where the frame holds markup only.
-/

namespace Phrasebook.Markup

/-! ## Gaps -/

/-- A tree that holds no code. -/
def Tree.IsPlain (tree : Tree) : Prop :=
  ∃ kind text, kind.isPlain = true ∧ tree = .leaf kind text

section Plain

variable {tree : Tree}

theorem Kind.isMarkup_of_isPlain {kind : Kind} (plain : kind.isPlain = true) :
    kind.isMarkup = true := by
  cases kind <;> first | rfl | contradiction

theorem Tree.IsPlain.isMarkup (plain : tree.IsPlain) : tree.kind.isMarkup = true := by
  obtain ⟨kind, text, isPlain, rfl⟩ := plain
  exact Kind.isMarkup_of_isPlain isPlain

theorem Tree.IsPlain.tidy (plain : tree.IsPlain) : tree.Tidy := by
  obtain ⟨kind, text, _, rfl⟩ := plain
  exact .leaf

theorem Tree.IsPlain.paired (plain : tree.IsPlain) : tree.Paired := by
  obtain ⟨kind, text, _, rfl⟩ := plain
  exact .leaf

theorem Tree.IsPlain.bracketed (plain : tree.IsPlain) : tree.Bracketed := by
  obtain ⟨kind, text, isPlain, rfl⟩ := plain
  cases kind <;> first | exact .leaf rfl | contradiction

theorem isPlain_of_mem_gapWithin {fuel : Nat} {text : List Char} :
    ∀ tree ∈ (gapWithin fuel text).1, tree.IsPlain := by
  induction fuel generalizing text with
  | zero => exact nofun
  | succ fuel ih =>
      unfold gapWithin
      split
      · exact nofun
      · refine List.forall_mem_cons.mpr ⟨⟨triviaKind text, _, ?_, rfl⟩, ih⟩
        unfold triviaKind
        split <;> rfl

end Plain

/-! ## Positions -/

namespace Cursor

/-- Only blanks and comments are in the gap. -/
def HasPlainGap (cursor : Cursor) : Prop :=
  ∀ tree ∈ cursor.gap, tree.IsPlain

/-- Only what an element consists of has been read. -/
def IsMarkup (cursor : Cursor) : Prop :=
  ∀ tree ∈ cursor.done, tree.kind.isMarkup = true

/-- Every element that has been read consists of markup. -/
def Tidy (cursor : Cursor) : Prop :=
  ∀ tree ∈ cursor.done, tree.Tidy

section Steps

variable {cursor next : Cursor} {kind : Kind} {lexeme : Lexeme}

theorem forall_mem_covered {holds : Tree → Prop} (gap : cursor.HasPlainGap)
    (plain : ∀ tree : Tree, tree.IsPlain → holds tree) (done : ∀ tree ∈ cursor.done, holds tree) :
    ∀ tree ∈ cursor.covered, holds tree := by
  intro tree treeMem
  rcases List.mem_append.mp treeMem with inGap | isDone
  · exact plain tree (gap tree (List.mem_reverse.mp inGap))
  · exact done tree isDone

/-- What also holds of a new leaf holds of all that has been read when it comes. -/
theorem forall_mem_done_of_step {holds : Tree → Prop} (gap : cursor.HasPlainGap)
    (plain : ∀ tree : Tree, tree.IsPlain → holds tree) (leaf : ∀ text, holds (.leaf kind text))
    (done : ∀ tree ∈ cursor.done, holds tree)
    (step : cursor.token? kind lexeme = some next ∨ cursor.raw? kind lexeme = some next) :
    ∀ tree ∈ next.done, holds tree := by
  obtain ⟨token, _, _, isDone, _⟩ := done_of_step step
  rw [isDone]
  exact List.forall_mem_cons.mpr ⟨leaf token, forall_mem_covered gap plain done⟩

theorem IsMarkup.covered (markup : cursor.IsMarkup) (gap : cursor.HasPlainGap) :
    ∀ tree ∈ cursor.covered, tree.kind.isMarkup = true :=
  forall_mem_covered gap (fun _ => Tree.IsPlain.isMarkup) markup

theorem Tidy.covered (tidy : cursor.Tidy) (gap : cursor.HasPlainGap) :
    ∀ tree ∈ cursor.covered, tree.Tidy :=
  forall_mem_covered gap (fun _ => Tree.IsPlain.tidy) tidy

theorem hasPlainGap_of_step
    (step : cursor.token? kind lexeme = some next ∨ cursor.raw? kind lexeme = some next) :
    next.HasPlainGap := by
  obtain ⟨_, _, _, _, inGap⟩ := done_of_step step
  exact fun tree treeMem => isPlain_of_mem_gapWithin tree (inGap treeMem)

theorem IsMarkup.of_step (markup : cursor.IsMarkup) (gap : cursor.HasPlainGap)
    (isMarkup : kind.isMarkup = true)
    (step : cursor.token? kind lexeme = some next ∨ cursor.raw? kind lexeme = some next) :
    next.IsMarkup :=
  forall_mem_done_of_step gap (fun _ => Tree.IsPlain.isMarkup) (fun _ => isMarkup) markup step

theorem Tidy.of_step (tidy : cursor.Tidy) (gap : cursor.HasPlainGap)
    (step : cursor.token? kind lexeme = some next ∨ cursor.raw? kind lexeme = some next) :
    next.Tidy :=
  forall_mem_done_of_step gap (fun _ => Tree.IsPlain.tidy) (fun _ => .leaf) tidy step

end Steps

end Cursor

end Phrasebook.Markup

namespace Phrasebook.Markup.Grammar

/-! ## Grammars -/

variable {Rule : Type}

/-- Whether a frame holds markup only after a grammar has been read, given whether it does before
and which rules add nothing else. -/
def onlyMarkup (adding : Rule → Bool) : Bool → Grammar Rule → Bool
  | only, empty | only, require _ => only
  | only, token kind _ | only, raw kind _ => only && kind.isMarkup
  | only, sequence first second => second.onlyMarkup adding (first.onlyMarkup adding only)
  | only, choice _ first second => first.onlyMarkup adding only && second.onlyMarkup adding only
  | only, many _ body => only && body.onlyMarkup adding only
  | only, frame body => only && body.onlyMarkup adding true
  | _, wrap kind => kind.isMarkup
  | _, reread _ => false
  | only, rule name => only && adding name

/-- Whether elements are made where a frame holds markup only, and nodes are neither names nor
plain. -/
def tidyWraps (adding : Rule → Bool) : Bool → Grammar Rule → Bool
  | _, empty | _, token _ _ | _, raw _ _ | _, require _ | _, reread _ | _, rule _ => true
  | only, sequence first second =>
    first.tidyWraps adding only && second.tidyWraps adding (first.onlyMarkup adding only)
  | only, choice _ first second => first.tidyWraps adding only && second.tidyWraps adding only
  | _, many _ body => body.tidyWraps adding false
  | _, frame body => body.tidyWraps adding true
  | only, wrap kind => !(kind.isPlain || kind.isName) && (only || kind != .element)

section Reads

variable {rules : Rule → Grammar Rule} {adding : Rule → Bool} {grammar : Grammar Rule}
  {cursor next : Cursor} {only : Bool}

theorem Reads.hasPlainGap (reads : Reads rules grammar cursor next) (gap : cursor.HasPlainGap) :
    next.HasPlainGap := by
  induction reads with
  | empty | require | enough | wrap | reread => exact gap
  | token step => exact Cursor.hasPlainGap_of_step (.inl step)
  | raw step => exact Cursor.hasPlainGap_of_step (.inr step)
  | sequence _ _ firstGap secondGap => exact secondGap (firstGap gap)
  | first _ branchGap | second _ branchGap => exact branchGap gap
  | more _ _ bodyGap restGap => exact restGap (bodyGap gap)
  | frame _ innerGap => exact innerGap nofun
  | rule _ bodyGap => exact bodyGap gap

/-- What is said to leave only markup in a frame does so. -/
theorem Reads.isMarkup
    (sound : ∀ name, adding name = true → (rules name).onlyMarkup adding true = true)
    (reads : Reads rules grammar cursor next) (leaves : grammar.onlyMarkup adding only = true)
    (gap : cursor.HasPlainGap) (markup : only = true → cursor.IsMarkup) : next.IsMarkup := by
  induction reads generalizing only with
  | empty | require => exact markup leaves
  | token step =>
      obtain ⟨isOnly, isMarkup⟩ := Bool.and_eq_true_iff.mp leaves
      exact (markup isOnly).of_step gap isMarkup (.inl step)
  | raw step =>
      obtain ⟨isOnly, isMarkup⟩ := Bool.and_eq_true_iff.mp leaves
      exact (markup isOnly).of_step gap isMarkup (.inr step)
  | sequence firstReads _ firstMarkup secondMarkup =>
      exact secondMarkup leaves (firstReads.hasPlainGap gap)
        fun firstLeaves => firstMarkup firstLeaves gap markup
  | first _ branchMarkup => exact branchMarkup (Bool.and_eq_true_iff.mp leaves).1 gap markup
  | second _ branchMarkup => exact branchMarkup (Bool.and_eq_true_iff.mp leaves).2 gap markup
  | more bodyReads _ bodyMarkup restMarkup =>
      have bodyLeaves := (Bool.and_eq_true_iff.mp leaves).2
      exact restMarkup leaves (bodyReads.hasPlainGap gap) fun _ => bodyMarkup bodyLeaves gap markup
  | enough => exact markup (Bool.and_eq_true_iff.mp leaves).1
  | frame _ innerMarkup =>
      obtain ⟨isOnly, bodyLeaves⟩ := Bool.and_eq_true_iff.mp leaves
      refine List.forall_mem_append.mpr ⟨?_, (markup isOnly).covered gap⟩
      exact innerMarkup bodyLeaves nofun fun _ => nofun
  | wrap => exact List.forall_mem_singleton.mpr leaves
  | reread => contradiction
  | rule _ bodyMarkup =>
      obtain ⟨isOnly, isAdding⟩ := Bool.and_eq_true_iff.mp leaves
      exact bodyMarkup (sound _ isAdding) gap fun _ => markup isOnly

/-- Where elements are made of markup only, every element that is read consists of markup. -/
theorem Reads.tidy
    (sound : ∀ name, adding name = true → (rules name).onlyMarkup adding true = true)
    (wrapping : ∀ name, (rules name).tidyWraps adding false = true)
    (reads : Reads rules grammar cursor next) (wraps : grammar.tidyWraps adding only = true)
    (gap : cursor.HasPlainGap) (markup : only = true → cursor.IsMarkup) (tidy : cursor.Tidy) :
    next.Tidy := by
  induction reads generalizing only with
  | empty | require | enough => exact tidy
  | token step => exact tidy.of_step gap (.inl step)
  | raw step => exact tidy.of_step gap (.inr step)
  | sequence firstReads _ firstTidy secondTidy =>
      obtain ⟨firstWraps, secondWraps⟩ := Bool.and_eq_true_iff.mp wraps
      exact secondTidy secondWraps (firstReads.hasPlainGap gap)
        (fun leaves => firstReads.isMarkup sound leaves gap markup)
        (firstTidy firstWraps gap markup tidy)
  | first _ branchTidy => exact branchTidy (Bool.and_eq_true_iff.mp wraps).1 gap markup tidy
  | second _ branchTidy => exact branchTidy (Bool.and_eq_true_iff.mp wraps).2 gap markup tidy
  | @more guard body _ _ _ bodyReads _ bodyTidy restTidy =>
      -- A repetition may follow anything, so it may not make elements of what is there already.
      have bodyWraps : body.tidyWraps adding false = true := wraps
      have restWraps : (many guard body).tidyWraps adding false = true := wraps
      exact restTidy restWraps (bodyReads.hasPlainGap gap) (fun isTrue => nomatch isTrue)
        (bodyTidy bodyWraps gap (fun isTrue => nomatch isTrue) tidy)
  | frame _ innerTidy =>
      refine List.forall_mem_append.mpr ⟨?_, tidy.covered gap⟩
      exact innerTidy wraps nofun (fun _ => nofun) nofun
  | wrap =>
      rename_i kind cursor
      obtain ⟨notLeaf, isOnly⟩ := Bool.and_eq_true_iff.mp wraps
      refine List.forall_mem_singleton.mpr (.node (by simpa using notLeaf)
        (fun isElement child childMem => ?_) fun child childMem => ?_)
      · refine markup ?_ child (List.mem_reverse.mp childMem)
        simpa [isElement] using isOnly
      · exact tidy child (List.mem_reverse.mp childMem)
  | reread isDone converted =>
      rw [Cursor.Tidy, isDone] at tidy
      obtain ⟨newestTidy, others⟩ := List.forall_mem_cons.mp tidy
      exact List.forall_mem_cons.mpr ⟨(Reading.keeps_apply converted).tidy newestTidy, others⟩
  | rule _ bodyTidy => exact bodyTidy (wrapping _) gap (fun isTrue => nomatch isTrue) tidy

end Reads

end Phrasebook.Markup.Grammar

namespace Phrasebook.Markup.Script

/-! ## Scripts -/

/-- The rules that stand between tags. -/
def addsMarkup : Rule → Bool
  | .child | .childElement | .childContainer => true
  | _ => false

theorem onlyMarkup_rules (rule : Rule) (adding : addsMarkup rule = true) :
    (rules rule).onlyMarkup addsMarkup true = true := by
  cases rule <;> first | rfl | contradiction

theorem tidyWraps_rules (rule : Rule) : (rules rule).tidyWraps addsMarkup false = true := by
  cases rule <;> rfl

theorem tidy_start (text : List Char) : (start text).HasPlainGap ∧ (start text).Tidy := by
  unfold start
  split
  · exact ⟨fun _ => isPlain_of_mem_gapWithin _, List.forall_mem_singleton.mpr .leaf⟩
  · exact ⟨fun _ => isPlain_of_mem_gapWithin _, nofun⟩

/-- Every element of a script consists of markup. -/
theorem tidy_of_read {text : List Char} {script : Tree} (done : read text = .ok script) :
    script.Tidy := by
  have preserves (cursor next : Cursor) (reads : Grammar.Reads rules settledItem cursor next)
      (kept : cursor.HasPlainGap ∧ cursor.Tidy) : next.HasPlainGap ∧ next.Tidy := by
    have wraps : settledItem.tidyWraps addsMarkup false = true := rfl
    exact ⟨reads.hasPlainGap kept.1, reads.tidy onlyMarkup_rules tidyWraps_rules wraps kept.1
      (fun isTrue => nomatch isTrue) kept.2⟩
  obtain ⟨last, ⟨gap, tidy⟩, _, rfl⟩ := exists_last_of_read preserves (tidy_start text) done
  exact .node rfl nofun fun tree treeMem => tidy.covered gap tree (List.mem_reverse.mp treeMem)

end Phrasebook.Markup.Script

/-! ## Elements -/

namespace Phrasebook.Markup

section Parts

variable {site element part : Site}

theorem Tree.Tidy.of_mem_walk (tidy : site.tree.Tidy) : ∀ inner ∈ site.walk, inner.tree.Tidy :=
  Site.forall_mem_walk Tree.Tidy.of_mem_children tidy

theorem Tree.Tidy.isMarkup_of_mem_children {tree child : Tree} (tidy : tree.Tidy)
    (isElement : tree.kind = .element) (childMem : child ∈ tree.children) :
    child.kind.isMarkup = true := by
  cases tidy with
  | leaf => cases childMem
  | node _ markup _ => exact markup isElement child childMem

theorem Tree.Tidy.isPlain {tree : Tree} (tidy : tree.Tidy) (plain : tree.kind.isPlain = true) :
    tree.IsPlain := by
  cases tidy with
  | leaf => exact ⟨_, _, plain, rfl⟩
  | node notLeaf =>
      rw [Tree.kind] at plain
      rw [plain] at notLeaf
      contradiction

theorem Tree.Tidy.eq_leaf_of_isName {tree : Tree} (tidy : tree.Tidy)
    (named : tree.kind.isName = true) : tree = .leaf tree.kind tree.text := by
  cases tidy with
  | leaf => rw [text_leaf, kind]
  | node notLeaf =>
      rw [Tree.kind] at named
      rw [named, Bool.or_true] at notLeaf
      contradiction

/-- The kinds of what an element consists of, apart from its tags. -/
theorem Kind.isPlain_of_isMarkup {kind : Kind} (isMarkup : kind.isMarkup = true)
    (notTag : (kind != .openingTag && kind != .closingTag) = true)
    (noCode : ¬(kind.isElement = true ∨ kind = .container)) : kind.isPlain = true := by
  cases kind <;> first | rfl | contradiction

theorem Site.mem_children_of_mem_inner (partMem : part ∈ element.inner) :
    part ∈ element.children := by
  unfold Site.inner at partMem
  split at partMem
  · exact List.mem_of_mem_filter partMem
  · cases partMem

/-- What stands between the tags of an element is an element, a container or plain. -/
theorem Tree.Tidy.isPlain_of_mem_inner (tidy : element.tree.Tidy) (partMem : part ∈ element.inner)
    (noCode : ¬(part.tree.kind.isElement = true ∨ part.tree.kind = .container)) :
    part.tree.IsPlain := by
  unfold Site.inner at partMem
  split at partMem
  · rename_i isElement
    obtain ⟨childMem, notTag⟩ := List.mem_filter.mp partMem
    have treeMem := Site.tree_mem_children childMem
    have isMarkup := tidy.isMarkup_of_mem_children isElement treeMem
    exact (tidy.of_mem_children treeMem).isPlain (Kind.isPlain_of_isMarkup isMarkup notTag noCode)
  · cases partMem

end Parts

end Phrasebook.Markup
