import Phrasebook.Markup.Script
import Phrasebook.Proofs.Conversion

/-!
# Reading loses nothing

The syntax tree of a script holds all of its text, and no part of the tree is
empty: every token and every stretch of blanks holds text, and nothing is
wrapped into a node before a tree has been read.  The last is a property of the
grammar as a value, which `wrapsTrees` checks rule by rule.
-/

namespace Phrasebook.Markup

/-! ## Tokens and gaps -/

theorem Measure.literal_nil (word : List Char) : Measure.literal word [] = 0 := by
  cases word <;> rfl

theorem Measure.word_nil (expected : String) : Measure.word expected [] = 0 := by
  unfold Measure.word Measure.startsWith
  cases letters : expected.toList with
  | nil => simp [String.toList_eq_nil_iff.mp letters]
  | cons letter letters => rfl

/-- There is no token at the end of a text. -/
theorem Lexeme.measure_nil (lexeme : Lexeme) : lexeme.measure [] = 0 := by
  cases lexeme with
  | literal text => exact Measure.literal_nil text.toList
  | word expected => exact Measure.word_nil expected
  | _ => rfl

theorem take_ne_nil {text : List Char} {measure : Measure} (nothing : measure [] = 0)
    (positive : measure text ≠ 0) : text.take (measure text) ≠ [] := by
  rw [Ne, List.take_eq_nil_iff, not_or]
  refine ⟨positive, ?_⟩
  rintro rfl
  exact positive nothing

theorem Lexeme.ne_nil_of_split? {lexeme : Lexeme} {text token rest : List Char}
    (cut : lexeme.split? text = some (token, rest)) : token ≠ [] := by
  unfold split? at cut
  split at cut
  · contradiction
  · rename_i positive
    obtain ⟨rfl, rfl⟩ := Prod.mk.inj (Option.some.inj cut)
    exact take_ne_nil lexeme.measure_nil positive

/-- Every stretch of blanks and every comment holds text. -/
theorem solid_of_mem_gapWithin {fuel : Nat} {text : List Char} :
    ∀ tree ∈ (gapWithin fuel text).1, tree.Solid := by
  induction fuel generalizing text with
  | zero => exact nofun
  | succ fuel ih =>
      unfold gapWithin
      split
      · exact nofun
      · rename_i positive
        exact List.forall_mem_cons.mpr ⟨.leaf (take_ne_nil rfl positive), ih⟩

/-! ## Positions -/

namespace Cursor

/-- No tree at a position is empty. -/
structure Solid (cursor : Cursor) : Prop where
  done : ∀ tree ∈ cursor.done, tree.Solid
  gap : ∀ tree ∈ cursor.gap, tree.Solid

section Solid

variable {cursor next : Cursor} {kind : Kind} {lexeme : Lexeme}

theorem Solid.covered (solid : cursor.Solid) : ∀ tree ∈ cursor.covered, tree.Solid := by
  intro tree treeMem
  rcases List.mem_append.mp treeMem with inGap | isDone
  · exact solid.gap tree (List.mem_reverse.mp inGap)
  · exact solid.done tree isDone

theorem solid_before {text : List Char} {done : List Tree} (solid : ∀ tree ∈ done, tree.Solid) :
    (before text done).Solid :=
  ⟨solid, solid_of_mem_gapWithin⟩

/-- A token becomes a leaf after all that was covered before it, and what is kept apart after it is
part of a gap. -/
theorem done_of_step
    (step : cursor.token? kind lexeme = some next ∨ cursor.raw? kind lexeme = some next) :
    ∃ token rest, lexeme.split? cursor.rest = some (token, rest) ∧
      next.done = .leaf kind token :: cursor.covered ∧ next.gap ⊆ (splitGap rest).1 := by
  rcases step with step | step
  · unfold token? at step
    split at step
    · contradiction
    · rename_i token rest cut
      obtain rfl := Option.some.inj step
      exact ⟨token, rest, cut, rfl, List.Subset.refl _⟩
  · unfold raw? at step
    split at step
    · contradiction
    · rename_i token rest cut
      obtain rfl := Option.some.inj step
      exact ⟨token, rest, cut, rfl, List.nil_subset _⟩

theorem Solid.of_step (solid : cursor.Solid)
    (step : cursor.token? kind lexeme = some next ∨ cursor.raw? kind lexeme = some next) :
    next.Solid := by
  obtain ⟨token, rest, cut, isDone, inGap⟩ := done_of_step step
  have isLeaf : (Tree.leaf kind token).Solid := .leaf (Lexeme.ne_nil_of_split? cut)
  refine ⟨isDone ▸ List.forall_mem_cons.mpr ⟨isLeaf, solid.covered⟩, ?_⟩
  exact fun tree treeMem => solid_of_mem_gapWithin tree (inGap treeMem)

theorem done_ne_nil_of_step
    (step : cursor.token? kind lexeme = some next ∨ cursor.raw? kind lexeme = some next) :
    next.done ≠ [] := by
  obtain ⟨_, _, _, isDone, _⟩ := done_of_step step
  rw [isDone]
  exact List.cons_ne_nil _ _

end Solid

end Cursor

end Phrasebook.Markup

namespace Phrasebook.Markup.Grammar
variable {Rule : Type}

/-- Whether a grammar leaves at least one tree, given which rules do. -/
def adds (adding : Rule → Bool) : Grammar Rule → Bool
  | empty | require _ | many _ _ => false
  | token _ _ | raw _ _ | wrap _ | reread _ => true
  | sequence first second => first.adds adding || second.adds adding
  | choice _ first second => first.adds adding && second.adds adding
  | frame body => body.adds adding
  | rule name => adding name

/-- Whether something has been read wherever trees are wrapped, and no node is a text literal.  The
flag says whether something has been read before. -/
def wrapsTrees (adding : Rule → Bool) : Bool → Grammar Rule → Bool
  | _, empty | _, token _ _ | _, raw _ _ | _, require _ | _, reread _ | _, rule _ => true
  | hasTree, sequence first second =>
    first.wrapsTrees adding hasTree && second.wrapsTrees adding (hasTree || first.adds adding)
  | hasTree, choice _ first second =>
    first.wrapsTrees adding hasTree && second.wrapsTrees adding hasTree
  | hasTree, many _ body => body.wrapsTrees adding hasTree
  | _, frame body => body.wrapsTrees adding false
  | hasTree, wrap kind => hasTree && kind != .string

/-- What a grammar reads, whatever the fuel. -/
inductive Reads (rules : Rule → Grammar Rule) : Grammar Rule → Cursor → Cursor → Prop
  | empty {cursor : Cursor} : Reads rules .empty cursor cursor
  | token {kind : Kind} {lexeme : Lexeme} {cursor next : Cursor} :
      cursor.token? kind lexeme = some next → Reads rules (.token kind lexeme) cursor next
  | raw {kind : Kind} {lexeme : Lexeme} {cursor next : Cursor} :
      cursor.raw? kind lexeme = some next → Reads rules (.raw kind lexeme) cursor next
  | require {guard : Guard} {cursor : Cursor} : Reads rules (.require guard) cursor cursor
  | sequence {first second : Grammar Rule} {cursor between next : Cursor} :
      Reads rules first cursor between → Reads rules second between next →
        Reads rules (.sequence first second) cursor next
  | first {guard : Guard} {first second : Grammar Rule} {cursor next : Cursor} :
      Reads rules first cursor next → Reads rules (.choice guard first second) cursor next
  | second {guard : Guard} {first second : Grammar Rule} {cursor next : Cursor} :
      Reads rules second cursor next → Reads rules (.choice guard first second) cursor next
  | more {guard : Guard} {body : Grammar Rule} {cursor between next : Cursor} :
      Reads rules body cursor between → Reads rules (.many guard body) between next →
        Reads rules (.many guard body) cursor next
  | enough {guard : Guard} {body : Grammar Rule} {cursor : Cursor} :
      Reads rules (.many guard body) cursor cursor
  | frame {body : Grammar Rule} {cursor inner : Cursor} :
      Reads rules body ⟨[], [], cursor.rest⟩ inner →
        Reads rules (.frame body) cursor ⟨inner.done ++ cursor.covered, inner.gap, inner.rest⟩
  | wrap {kind : Kind} {cursor : Cursor} :
      Reads rules (.wrap kind) cursor ⟨[.node kind cursor.done.reverse], cursor.gap, cursor.rest⟩
  | reread {reading : Reading} {cursor : Cursor} {newest tree : Tree} {older : List Tree} :
      cursor.done = newest :: older → reading.apply newest = some tree →
        Reads rules (.reread reading) cursor ⟨tree :: older, cursor.gap, cursor.rest⟩
  | rule {name : Rule} {cursor next : Cursor} :
      Reads rules (rules name) cursor next → Reads rules (.rule name) cursor next

section Reads

variable {rules : Rule → Grammar Rule} {grammar : Grammar Rule} {cursor next : Cursor}

theorem reads_of_read {fuel : Nat} (step : read rules fuel grammar cursor = some next) :
    Reads rules grammar cursor next := by
  induction fuel generalizing grammar cursor next with
  | zero => cases step
  | succ fuel ih =>
      cases grammar with
      | empty =>
          obtain rfl := Option.some.inj step
          exact .empty
      | token kind lexeme => exact .token step
      | raw kind lexeme => exact .raw step
      | require guard =>
          simp only [read] at step
          split at step
          · obtain rfl := Option.some.inj step
            exact .require
          · contradiction
      | sequence first second =>
          simp only [read] at step
          split at step
          · contradiction
          · rename_i between firstStep
            exact .sequence (ih firstStep) (ih step)
      | choice guard first second =>
          simp only [read] at step
          split at step
          · exact .first (ih step)
          · exact .second (ih step)
      | many guard body =>
          simp only [read] at step
          split at step
          · split at step
            · contradiction
            · rename_i between firstStep
              exact .more (ih firstStep) (ih step)
          · obtain rfl := Option.some.inj step
            exact .enough
      | frame body =>
          simp only [read] at step
          split at step
          · contradiction
          · rename_i inner innerStep
            obtain rfl := Option.some.inj step
            exact .frame (ih innerStep)
      | wrap kind =>
          obtain rfl := Option.some.inj step
          exact .wrap
      | reread reading =>
          simp only [read] at step
          split at step
          · contradiction
          · rename_i newest older isDone
            split at step
            · contradiction
            · rename_i tree converted
              obtain rfl := Option.some.inj step
              exact .reread isDone converted
      | rule name => exact .rule (ih step)

/-- Reading moves along a text and changes nothing in it. -/
theorem Reads.text (reads : Reads rules grammar cursor next) : next.text = cursor.text := by
  induction reads with
  | empty | require | enough => rfl
  | token step => exact Cursor.text_token? step
  | raw step => exact Cursor.text_raw? step
  | sequence _ _ firstText secondText => exact secondText.trans firstText
  | first _ sameText | second _ sameText => exact sameText
  | more _ _ bodyText restText => exact restText.trans bodyText
  | frame _ innerText =>
      simp only [Cursor.text, List.reverse_nil, Tree.textAll_nil, List.nil_append] at innerText
      simp [Cursor.text, Cursor.covered, ← innerText]
  | wrap => simp [Cursor.text]
  | reread isDone converted =>
      simp [Cursor.text, isDone, (Reading.keeps_apply converted).text]
  | rule _ sameText => exact sameText

variable {adding : Rule → Bool}

/-- A grammar that adds a tree leaves one, and what has been read is never lost. -/
theorem Reads.done_ne_nil (sound : ∀ name, adding name = true → (rules name).adds adding = true)
    (reads : Reads rules grammar cursor next)
    (present : grammar.adds adding = true ∨ cursor.done ≠ []) : next.done ≠ [] := by
  induction reads with
  | empty | require | enough => exact present.resolve_left nofun
  | token step => exact Cursor.done_ne_nil_of_step (.inl step)
  | raw step => exact Cursor.done_ne_nil_of_step (.inr step)
  | sequence _ _ firstDone secondDone =>
      rw [adds, Bool.or_eq_true, or_assoc] at present
      rcases present with firstAdds | secondAdds | hasTree
      · exact secondDone (.inr (firstDone (.inl firstAdds)))
      · exact secondDone (.inl secondAdds)
      · exact secondDone (.inr (firstDone (.inr hasTree)))
  | first _ done =>
      rw [adds, Bool.and_eq_true] at present
      exact done (present.imp_left And.left)
  | second _ done =>
      rw [adds, Bool.and_eq_true] at present
      exact done (present.imp_left And.right)
  | more _ _ bodyDone restDone =>
      exact restDone (.inr (bodyDone (.inr (present.resolve_left nofun))))
  | frame _ innerDone =>
      rcases present with bodyAdds | hasTree
      · exact List.append_ne_nil_of_left_ne_nil (innerDone (.inl bodyAdds)) _
      · exact List.append_ne_nil_of_right_ne_nil _ (List.append_ne_nil_of_right_ne_nil _ hasTree)
  | wrap | reread => exact List.cons_ne_nil _ _
  | rule _ done => exact done (present.imp_left (sound _))

/-- Where something has been read before anything is wrapped, no tree is empty. -/
theorem Reads.solid (sound : ∀ name, adding name = true → (rules name).adds adding = true)
    (wrapping : ∀ name, (rules name).wrapsTrees adding false = true)
    (reads : Reads rules grammar cursor next) {hasTree : Bool}
    (wraps : grammar.wrapsTrees adding hasTree = true)
    (present : hasTree = true → cursor.done ≠ []) (solid : cursor.Solid) : next.Solid := by
  induction reads generalizing hasTree with
  | empty | require | enough => exact solid
  | token step => exact solid.of_step (.inl step)
  | raw step => exact solid.of_step (.inr step)
  | sequence firstReads _ firstSolid secondSolid =>
      obtain ⟨firstWraps, secondWraps⟩ := Bool.and_eq_true_iff.mp wraps
      refine secondSolid secondWraps (fun hasMore => ?_) (firstSolid firstWraps present solid)
      refine firstReads.done_ne_nil sound ?_
      rcases Bool.or_eq_true_iff.mp hasMore with isThere | firstAdds
      · exact .inr (present isThere)
      · exact .inl firstAdds
  | first _ firstSolid => exact firstSolid (Bool.and_eq_true_iff.mp wraps).1 present solid
  | second _ secondSolid => exact secondSolid (Bool.and_eq_true_iff.mp wraps).2 present solid
  | more bodyReads _ bodySolid restSolid =>
      refine restSolid wraps (fun isThere => ?_) (bodySolid wraps present solid)
      exact bodyReads.done_ne_nil sound (.inr (present isThere))
  | frame _ bodySolid =>
      have innerSolid := bodySolid wraps (fun isTrue => nomatch isTrue) ⟨nofun, nofun⟩
      refine ⟨fun tree treeMem => ?_, innerSolid.gap⟩
      rcases List.mem_append.mp treeMem with isInner | isCovered
      · exact innerSolid.done tree isInner
      · exact solid.covered tree isCovered
  | wrap =>
      obtain ⟨isThere, notString⟩ := Bool.and_eq_true_iff.mp wraps
      refine ⟨List.forall_mem_singleton.mpr (.node (by simpa using notString) ?_ ?_), solid.gap⟩
      · exact mt List.reverse_eq_nil_iff.mp (present isThere)
      · exact fun child childMem => solid.done child (List.mem_reverse.mp childMem)
  | reread isDone converted =>
      obtain ⟨newestSolid, others⟩ := List.forall_mem_cons.mp (isDone ▸ solid.done)
      exact ⟨List.forall_mem_cons.mpr
        ⟨(Reading.keeps_apply converted).solid newestSolid, others⟩, solid.gap⟩
  | rule _ done => exact done (wrapping _) (fun isTrue => nomatch isTrue) solid

end Reads

end Phrasebook.Markup.Grammar

namespace Phrasebook.Markup.Script

/-- Whether a rule leaves at least one tree. -/
def addsTree : Rule → Bool
  | .expressionTail | .sequenceTail | .chainTail | .asyncTail | .importTail => false
  | _ => true

theorem adds_rules (rule : Rule) (adding : addsTree rule = true) :
    (rules rule).adds addsTree = true := by
  cases rule <;> first | rfl | contradiction

theorem wrapsTrees_rules (rule : Rule) : (rules rule).wrapsTrees addsTree false = true := by
  cases rule <;> rfl

/-- What every item preserves holds after all items that are read. -/
theorem readItems_preserves {holds : Cursor → Prop}
    (preserves : ∀ cursor next, Grammar.Reads rules settledItem cursor next →
      holds cursor → holds next)
    (fuel count : Nat) {cursor : Cursor} (begins : holds cursor) :
    holds (readItems fuel count cursor) := by
  induction count generalizing cursor with
  | zero => exact begins
  | succ count ih =>
      unfold readItems
      split
      · exact begins
      · rename_i next step
        exact ih (preserves cursor next (Grammar.reads_of_read step) begins)

/-- A script is what is covered at the end of its text, where all that every item preserves holds. -/
theorem exists_last_of_read {holds : Cursor → Prop}
    (preserves : ∀ cursor next, Grammar.Reads rules settledItem cursor next →
      holds cursor → holds next)
    {text : List Char} (begins : holds (start text)) {script : Tree}
    (done : read text = .ok script) :
    ∃ last, holds last ∧ last.rest = [] ∧ script = .node .program last.covered.reverse := by
  unfold read at done
  dsimp only at done
  split at done
  · rename_i atEnd
    obtain rfl := Except.ok.inj done
    exact ⟨_, readItems_preserves preserves _ _ begins, List.isEmpty_iff.mp atEnd, rfl⟩
  · contradiction

theorem text_start (text : List Char) : (start text).text = text := by
  unfold start
  split
  · rename_i line rest cut
    simp [Lexeme.append_of_split? cut]
  · simp

theorem solid_start (text : List Char) : (start text).Solid := by
  unfold start
  split
  · rename_i line rest cut
    exact Cursor.solid_before (List.forall_mem_singleton.mpr (.leaf (Lexeme.ne_nil_of_split? cut)))
  · exact Cursor.solid_before nofun

/-- What is known of every script that is read from a text. -/
structure IsScriptOf (text : List Char) (script : Tree) : Prop where
  text : script.text = text
  kind : script.kind = .program
  solid : ∀ tree ∈ script.children, tree.Solid

/-- The syntax tree of a script holds all of its text, and no part of it is empty. -/
theorem isScriptOf_of_read {text : List Char} {script : Tree} (done : read text = .ok script) :
    IsScriptOf text script := by
  have preserves (cursor next : Cursor) (reads : Grammar.Reads rules settledItem cursor next)
      (kept : cursor.text = text ∧ cursor.Solid) : next.text = text ∧ next.Solid := by
    have wraps : settledItem.wrapsTrees addsTree false = true := rfl
    exact ⟨reads.text.trans kept.1, reads.solid adds_rules wrapsTrees_rules wraps
      (fun isTrue => nomatch isTrue) kept.2⟩
  obtain ⟨last, ⟨sameText, solid⟩, atEnd, rfl⟩ :=
    exists_last_of_read preserves ⟨text_start text, solid_start text⟩ done
  refine ⟨?_, rfl, fun tree treeMem => solid.covered tree (List.mem_reverse.mp treeMem)⟩
  rw [Cursor.text, atEnd, List.append_nil] at sameText
  rw [Tree.text_node, Cursor.covered, List.reverse_append, List.reverse_reverse,
    Tree.textAll_append]
  exact sameText

end Phrasebook.Markup.Script
