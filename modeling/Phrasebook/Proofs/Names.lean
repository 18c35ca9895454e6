import Phrasebook.Proofs.Reading
import Phrasebook.Proofs.Walk

/-!
# What names are written with

No leaf of a script holds the null character, and names consist of the
characters that names are written with.  Most names are read as such, but the
word in front of the arguments of a call is read as a keyword and becomes a name
later.  That it is a word is a property of the grammar as a value: `front` follows
what is known of the first tree of a frame, and `isSpelled` checks rule by rule
that no call begins with a sign.
-/

namespace Phrasebook.Markup

theorem legible_of_mem_gapWithin {fuel : Nat} {text : List Char} :
    ∀ tree ∈ (gapWithin fuel text).1, tree.Legible := by
  induction fuel generalizing text with
  | zero => exact nofun
  | succ fuel ih =>
      unfold gapWithin
      split
      · exact nofun
      · refine List.forall_mem_cons.mpr ⟨.leaf (Measure.takesOnly_trivia text) ?_, ih⟩
        unfold triviaKind
        split <;> exact nofun

/-! ## Positions -/

/-- What is known of the first tree of a frame. -/
inductive Front where
  /-- There is none. -/
  | fresh
  /-- It is not a sign. -/
  | nameable
  | unknown
deriving DecidableEq

/-- What remains known of the first tree whatever else is read. -/
def Front.settled : Front → Front
  | .nameable => .nameable
  | _ => .unknown

@[simp] theorem Front.settled_settled (front : Front) : front.settled.settled = front.settled := by
  cases front <;> rfl

namespace Cursor

/-- What has been read is legible. -/
structure Legible (cursor : Cursor) : Prop where
  done : ∀ tree ∈ cursor.done, tree.Legible
  gap : ∀ tree ∈ cursor.gap, tree.Legible

/-- Whether something is the case with the first tree of a frame. -/
def HasFront (cursor : Cursor) : Front → Prop
  | .fresh => cursor.covered = []
  | .nameable => ∃ first, cursor.done.getLast? = some first ∧ first.isNameable = true
  | .unknown => True

section Steps

variable {cursor next : Cursor} {kind : Kind} {lexeme : Lexeme}

theorem Legible.covered (legible : cursor.Legible) : ∀ tree ∈ cursor.covered, tree.Legible := by
  intro tree treeMem
  rcases List.mem_append.mp treeMem with inGap | isDone
  · exact legible.gap tree (List.mem_reverse.mp inGap)
  · exact legible.done tree isDone

/-- The first tree of a frame stays the first one. -/
theorem HasFront.append (hasFront : cursor.HasFront .nameable) (trees : List Tree)
    (grown : next.done = trees ++ cursor.covered) : next.HasFront .nameable := by
  obtain ⟨first, isFirst, nameable⟩ := hasFront
  refine ⟨first, ?_, nameable⟩
  rw [grown, Cursor.covered, List.getLast?_append, List.getLast?_append, isFirst]
  rfl

theorem HasFront.settled {front : Front} (hasFront : cursor.HasFront front) :
    cursor.HasFront front.settled := by
  cases front with
  | nameable => exact hasFront
  | _ => trivial

end Steps

end Cursor

end Phrasebook.Markup

namespace Phrasebook.Markup.Grammar

/-! ## Grammars -/

variable {Rule : Type}

/-- What is known of the first tree of a frame after a grammar has been read, given what is known
before and which rules leave a first tree that is no sign. -/
def front (leaving : Rule → Bool) : Front → Grammar Rule → Front
  | front, empty | front, require _ | front, reread _ => front
  | .fresh, token kind lexeme | .fresh, raw kind lexeme =>
    if !kind.isWord || lexeme.isNaming then .nameable else .unknown
  | front, token _ _ | front, raw _ _ => front
  | front, sequence first second => second.front leaving (first.front leaving front)
  | front, choice _ first second =>
    if first.front leaving front = second.front leaving front then first.front leaving front
    else .unknown
  | front, many _ _ => front.settled
  | .fresh, frame body => if body.front leaving .fresh = .nameable then .nameable else .unknown
  | front, frame _ => front
  | _, wrap _ => .nameable
  | .fresh, rule name => if leaving name then .nameable else .unknown
  | front, rule _ => front

/-- Whether names consist of the characters of names and no call begins with a sign, given what each
rule expects of the first tree of the frame. -/
def isSpelled (leaving : Rule → Bool) (expected : Rule → Front) : Front → Grammar Rule → Bool
  | _, empty | _, require _ | _, reread _ => true
  | _, token kind lexeme | _, raw kind lexeme =>
    lexeme.isWritten && (!kind.isName || lexeme.isNaming)
  | front, sequence first second =>
    first.isSpelled leaving expected front &&
      second.isSpelled leaving expected (first.front leaving front)
  | front, choice _ first second =>
    first.isSpelled leaving expected front && second.isSpelled leaving expected front
  | front, many _ body => body.isSpelled leaving expected front.settled
  | _, frame body => body.isSpelled leaving expected .fresh
  | front, wrap kind => kind != .call || front == .nameable
  | front, rule name => expected name == .unknown || front == expected name

section Reads

variable {rules : Rule → Grammar Rule} {leaving : Rule → Bool} {expected : Rule → Front}
  {grammar : Grammar Rule} {cursor next : Cursor} {front : Front}

/-- A first tree that is no sign remains one. -/
theorem front_nameable (leaving : Rule → Bool) (grammar : Grammar Rule) :
    grammar.front leaving .nameable = .nameable := by
  induction grammar with
  | sequence first second firstFront secondFront => rw [Grammar.front, firstFront, secondFront]
  | choice guard first second firstFront secondFront =>
      rw [Grammar.front, firstFront, secondFront, if_pos rfl]
  | _ => rfl

theorem hasFront_of_step (leaving : Rule → Bool) {kind : Kind} {lexeme : Lexeme}
    (step : cursor.token? kind lexeme = some next ∨ cursor.raw? kind lexeme = some next)
    (hasFront : cursor.HasFront front) :
    next.HasFront ((token kind lexeme : Grammar Rule).front leaving front) := by
  obtain ⟨text, _, cut, isDone, _⟩ := Cursor.done_of_step step
  cases front with
  | unknown => trivial
  | nameable => exact hasFront.append [.leaf kind text] isDone
  | fresh =>
      rw [Cursor.HasFront] at hasFront
      rw [Grammar.front]
      split
      · rename_i nameable
        refine ⟨.leaf kind text, by rw [isDone, hasFront]; rfl, ?_⟩
        rcases Bool.or_eq_true_iff.mp nameable with notWord | naming
        · rw [Tree.isNameable, notWord, Bool.true_or]
        · have written := Lexeme.forall_mem_of_split? (Lexeme.takesOnly_writesName naming) cut
          rw [Tree.isNameable, List.all_eq_true.mpr written, Bool.or_true]
      · trivial

/-- What a grammar says of the first tree of a frame is the case. -/
theorem Reads.hasFront
    (sound : ∀ name, leaving name = true → (rules name).front leaving .fresh = .nameable)
    (reads : Reads rules grammar cursor next) (hasFront : cursor.HasFront front) :
    next.HasFront (grammar.front leaving front) := by
  induction reads generalizing front with
  | empty | require => exact hasFront
  | token step => exact hasFront_of_step leaving (.inl step) hasFront
  | @raw kind lexeme _ _ step =>
      have asToken := hasFront_of_step leaving (.inr step) hasFront
      cases front <;> exact asToken
  | sequence _ _ firstFront secondFront => exact secondFront (firstFront hasFront)
  | first _ branchFront =>
      rw [Grammar.front]
      split
      · exact branchFront hasFront
      · trivial
  | second _ branchFront =>
      rw [Grammar.front]
      split
      · rename_i same
        exact same ▸ branchFront hasFront
      · trivial
  | more _ _ bodyFront restFront =>
      -- A repetition may read nothing, so it tells nothing of a tree that was not there before.
      cases front with
      | nameable =>
          have between := bodyFront hasFront
          rw [front_nameable] at between
          exact restFront between
      | _ => trivial
  | enough => exact hasFront.settled
  | @frame _ cursor _ _ innerFront =>
      cases front with
      | unknown => trivial
      | nameable => exact hasFront.append _ rfl
      | fresh =>
          rw [Grammar.front]
          split
          · rename_i nameable
            have starts : Cursor.HasFront ⟨[], [], cursor.rest⟩ .fresh := rfl
            obtain ⟨first, isFirst, isNameable⟩ := nameable ▸ innerFront starts
            refine ⟨first, ?_, isNameable⟩
            rw [Cursor.HasFront] at hasFront
            rw [hasFront, List.append_nil, isFirst]
          · trivial
  | wrap => exact ⟨_, rfl, rfl⟩
  | @reread reading _ newest tree older isDone converted =>
      cases front with
      | unknown => trivial
      | fresh =>
          rw [Cursor.HasFront, Cursor.covered, isDone] at hasFront
          simp at hasFront
      | nameable =>
          -- The tree that is read in another way may be the first one itself.
          obtain ⟨first, isFirst, nameable⟩ := hasFront
          rw [isDone] at isFirst
          obtain _ | ⟨second, older⟩ := older
          · obtain rfl := Option.some.inj isFirst
            exact ⟨tree, rfl, (Reading.keeps_apply converted).nameable nameable⟩
          · rw [List.getLast?_cons_cons] at isFirst
            exact ⟨first, by rwa [List.getLast?_cons_cons], nameable⟩
  | @rule name _ _ _ bodyFront =>
      cases front with
      | unknown => trivial
      | nameable =>
          have body := bodyFront hasFront
          rwa [front_nameable] at body
      | fresh =>
          rw [Grammar.front]
          split
          · rename_i isLeaving
            exact sound _ isLeaving ▸ bodyFront hasFront
          · trivial

theorem legible_of_step {kind : Kind} {lexeme : Lexeme}
    (step : cursor.token? kind lexeme = some next ∨ cursor.raw? kind lexeme = some next)
    (spelled : (lexeme.isWritten && (!kind.isName || lexeme.isNaming)) = true)
    (legible : cursor.Legible) : next.Legible := by
  obtain ⟨token, _, cut, isDone, inGap⟩ := Cursor.done_of_step step
  obtain ⟨written, naming⟩ := Bool.and_eq_true_iff.mp spelled
  have present := Lexeme.forall_mem_of_split? (Lexeme.takesOnly_isPresent written) cut
  refine ⟨isDone ▸ List.forall_mem_cons.mpr ⟨.leaf present fun isName => ?_, legible.covered⟩,
    fun tree treeMem => legible_of_mem_gapWithin tree (inGap treeMem)⟩
  rw [isName, Bool.not_true, Bool.false_or] at naming
  exact Lexeme.forall_mem_of_split? (Lexeme.takesOnly_writesName naming) cut

/-- What is settled about the first tree of a frame remains the case. -/
theorem Reads.hasFront_settled
    (sound : ∀ name, leaving name = true → (rules name).front leaving .fresh = .nameable)
    (reads : Reads rules grammar cursor next) (hasFront : cursor.HasFront front.settled) :
    next.HasFront front.settled := by
  cases front with
  | nameable =>
      have remains := reads.hasFront sound hasFront
      rwa [Front.settled, front_nameable] at remains
  | _ => trivial

/-- Where no call begins with a sign, everything that is read is legible. -/
theorem Reads.legible
    (sound : ∀ name, leaving name = true → (rules name).front leaving .fresh = .nameable)
    (spelling : ∀ name, (rules name).isSpelled leaving expected (expected name) = true)
    (reads : Reads rules grammar cursor next)
    (spelled : grammar.isSpelled leaving expected front = true) (hasFront : cursor.HasFront front)
    (legible : cursor.Legible) : next.Legible := by
  induction reads generalizing front with
  | empty | require | enough => exact legible
  | token step => exact legible_of_step (.inl step) spelled legible
  | raw step => exact legible_of_step (.inr step) spelled legible
  | sequence firstReads _ firstLegible secondLegible =>
      obtain ⟨firstSpelled, secondSpelled⟩ := Bool.and_eq_true_iff.mp spelled
      exact secondLegible secondSpelled (firstReads.hasFront sound hasFront)
        (firstLegible firstSpelled hasFront legible)
  | first _ branchLegible =>
      exact branchLegible (Bool.and_eq_true_iff.mp spelled).1 hasFront legible
  | second _ branchLegible =>
      exact branchLegible (Bool.and_eq_true_iff.mp spelled).2 hasFront legible
  | @more guard body _ _ _ bodyReads _ bodyLegible restLegible =>
      have bodySpelled : body.isSpelled leaving expected front.settled = true := spelled
      have restSpelled : (many guard body).isSpelled leaving expected front.settled = true := by
        rw [isSpelled, Front.settled_settled]
        exact bodySpelled
      have settled : Cursor.HasFront _ front.settled := hasFront.settled
      exact restLegible restSpelled (bodyReads.hasFront_settled sound settled)
        (bodyLegible bodySpelled settled legible)
  | frame _ innerLegible =>
      have inner := innerLegible spelled rfl ⟨nofun, nofun⟩
      refine ⟨List.forall_mem_append.mpr ⟨inner.done, legible.covered⟩, inner.gap⟩
  | @wrap kind cursor =>
      have children : ∀ tree ∈ cursor.done.reverse, tree.Legible :=
        fun tree treeMem => legible.done tree (List.mem_reverse.mp treeMem)
      refine ⟨List.forall_mem_singleton.mpr (.node (fun isCall first isFirst => ?_) children),
        legible.gap⟩
      subst isCall
      obtain ⟨_, isLast, nameable⟩ := beq_iff_eq.mp spelled ▸ hasFront
      rw [List.head?_reverse, isLast] at isFirst
      exact Option.some.inj isFirst ▸ nameable
  | reread isDone converted =>
      obtain ⟨newestLegible, others⟩ := List.forall_mem_cons.mp (isDone ▸ legible.done)
      exact ⟨List.forall_mem_cons.mpr
        ⟨(Reading.keeps_apply converted).legible newestLegible, others⟩, legible.gap⟩
  | @rule name _ _ _ bodyLegible =>
      refine bodyLegible (spelling name) ?_ legible
      rcases Bool.or_eq_true_iff.mp spelled with unknown | same
      · rw [beq_iff_eq.mp unknown]
        trivial
      · exact beq_iff_eq.mp same ▸ hasFront

end Reads

end Phrasebook.Markup.Grammar

namespace Phrasebook.Markup.Script

/-- The rules that leave a first tree that is no sign. -/
def leavesName : Rule → Bool
  | .chainHead | .cover | .template | .object | .element => true
  | _ => false

/-- What a rule expects of the first tree of a frame. -/
def expectedFront : Rule → Front
  | .chainHead | .plainStatement | .wordStatement | .letStatement | .asyncStatement => .fresh
  | .importStatement => .fresh
  | .chainTail | .chainLink | .asyncTail => .nameable
  | _ => .unknown

theorem front_rules (rule : Rule) (leaving : leavesName rule = true) :
    (rules rule).front leavesName .fresh = .nameable := by
  cases rule <;> first | rfl | contradiction

theorem isSpelled_rules (rule : Rule) :
    (rules rule).isSpelled leavesName expectedFront (expectedFront rule) = true := by
  cases rule <;> rfl

theorem legible_start (text : List Char) : (start text).Legible := by
  unfold start
  split
  · rename_i line rest cut
    have present := Lexeme.forall_mem_of_split? (Lexeme.takesOnly_isPresent rfl) cut
    exact ⟨List.forall_mem_singleton.mpr (.leaf present nofun), legible_of_mem_gapWithin⟩
  · exact ⟨nofun, legible_of_mem_gapWithin⟩

theorem legible_of_read {text : List Char} {script : Tree} (done : read text = .ok script) :
    script.Legible := by
  have spelled : settledItem.isSpelled leavesName expectedFront .unknown = true := rfl
  obtain ⟨last, legible, _, rfl⟩ := exists_last_of_read
    (fun _ _ reads => reads.legible front_rules isSpelled_rules spelled trivial)
    (legible_start text) done
  exact .node nofun fun tree treeMem => legible.covered tree (List.mem_reverse.mp treeMem)

end Phrasebook.Markup.Script

/-! ## Texts -/

namespace Phrasebook.Markup

section Texts

variable {tree : Tree} {site : Site}

theorem Tree.Legible.of_mem_walk (legible : site.tree.Legible) :
    ∀ inner ∈ site.walk, inner.tree.Legible :=
  Site.forall_mem_walk Tree.Legible.of_mem_children legible

theorem Tree.mem_textAll {character : Char} {trees : List Tree} :
    character ∈ textAll trees ↔ ∃ tree ∈ trees, character ∈ tree.text := by
  induction trees with
  | nil => simp
  | cons tree trees ih => simp [ih]

theorem Tree.Legible.isPresent_of_mem_text (legible : tree.Legible) :
    ∀ character ∈ tree.text, isPresent character = true := by
  induction legible with
  | leaf present => rwa [text_leaf]
  | node _ _ ih =>
      intro character characterMem
      rw [text_node, mem_textAll] at characterMem
      obtain ⟨child, childMem, inChild⟩ := characterMem
      exact ih child childMem character inChild

end Texts

end Phrasebook.Markup
