import Phrasebook.Difference.Unified
import Phrasebook.Proofs.CommonBlocks

/-!
# Differences of texts

The steps between two lists go through both of them without a gap: what they
take out and what they leave is the first list, and what they leave and what
they put in is the second one.  A difference with no change to show is
therefore one of two equal texts, and two equal texts have no other.
-/

namespace Phrasebook

/-! ## Lines -/

namespace Text

@[simp]
theorem flatten_consLine (character : Char) (lines : List (List Char)) :
    (consLine character lines).flatten = character :: lines.flatten := by
  cases lines <;> rfl

/-- No character is lost between the lines of a text. -/
theorem flatten_wholeLines (text : List Char) : (wholeLines text).flatten = text := by
  fun_induction wholeLines text with
  | case1 => rfl
  | case2 text ih => simp [ih]
  | case3 character text notPair isEnd ih => simp [ih]
  | case4 character text notPair notEnd ih => simp [ih]

theorem wholeLines_injective : Function.Injective wholeLines := by
  intro text other same
  rw [← flatten_wholeLines text, same, flatten_wholeLines]

end Text

namespace Difference

/-! ## Steps -/

section Steps

variable {first second : List String}

/-- The lines from a start to a stop. -/
def part (lines : List String) (start stop : Nat) : List String :=
  (lines.drop start).take (stop - start)

theorem part_append_drop (lines : List String) {start stop : Nat} (isBefore : start ≤ stop) :
    part lines start stop ++ lines.drop stop = lines.drop start := by
  have isStop : start + (stop - start) = stop := by omega
  rw [part, ← isStop, ← List.drop_drop, Nat.add_sub_cancel_left, List.take_append_drop]

theorem part_length (lines : List String) (start : Nat) :
    part lines start lines.length = lines.drop start :=
  List.take_of_length_le (by rw [List.length_drop])

/-- The lines of the first list that a step goes through. -/
def Step.source (first : List String) (step : Step) : List String :=
  part first step.span.first step.span.firstStop

/-- The lines that stand behind a step in their place. -/
def Step.result (first second : List String) (step : Step) : List String :=
  if step.isShared then step.source first else part second step.span.second step.span.secondStop

/-- The lines of a common block are the same in both lists. -/
theorem part_eq_of_isCommon {span : Span} {block : Block}
    (isCommon : (Comparison.ofLines first second).IsCommon span block) :
    part first block.first (block.first + block.size) =
      part second block.second (block.second + block.size) := by
  apply List.ext_getElem?
  intro index
  simp only [part, Nat.add_sub_cancel_left, List.getElem?_take, List.getElem?_drop]
  split
  · rename_i isInside
    have isSame := isCommon.agrees index isInside
    simp only [Comparison.agrees, Comparison.ofLines, List.getElem?_toArray] at isSame
    split at isSame
    · rename_i isLine isOther
      rw [isLine, isOther, beq_iff_eq.mp isSame]
    · cases isSame
  · rfl

theorem flatMap_source_stepsFrom {start other : Nat} {blocks : List Block}
    (areCommon : (Comparison.ofLines first second).AreCommon
      ⟨start, first.length, other, second.length⟩ blocks) :
    (stepsFrom start other first.length second.length blocks).flatMap (Step.source first) =
      first.drop start := by
  induction blocks generalizing start other with
  | nil =>
      rw [stepsFrom]
      split
      · simp [Step.source, part_length]
      · rename_i isOver
        simp only [Bool.or_eq_true, decide_eq_true_eq, not_or, Nat.not_lt] at isOver
        simpa using isOver.1
  | cons block blocks ih =>
      obtain ⟨isCommon, rest⟩ := areCommon
      have start_le : start ≤ block.first := isCommon.start
      have behind := ih rest
      rw [stepsFrom]
      split
      · simp [Step.source, behind, part_append_drop, start_le]
      · rename_i noChange
        simp only [Bool.or_eq_true, decide_eq_true_eq, not_or, Nat.not_lt] at noChange
        obtain rfl : start = block.first := by omega
        simp [Step.source, behind, part_append_drop]

theorem flatMap_result_stepsFrom {start other : Nat} {blocks : List Block}
    (areCommon : (Comparison.ofLines first second).AreCommon
      ⟨start, first.length, other, second.length⟩ blocks) :
    (stepsFrom start other first.length second.length blocks).flatMap (Step.result first second) =
      second.drop other := by
  induction blocks generalizing start other with
  | nil =>
      rw [stepsFrom]
      split
      · simp [Step.result, part_length]
      · rename_i isOver
        simp only [Bool.or_eq_true, decide_eq_true_eq, not_or, Nat.not_lt] at isOver
        simpa using isOver.2
  | cons block blocks ih =>
      obtain ⟨isCommon, rest⟩ := areCommon
      have other_le : other ≤ block.second := isCommon.secondStart
      have isSame := part_eq_of_isCommon isCommon
      have behind := ih rest
      rw [stepsFrom]
      split
      · simp [Step.result, Step.source, behind, isSame, part_append_drop, other_le]
      · rename_i noChange
        simp only [Bool.or_eq_true, decide_eq_true_eq, not_or, Nat.not_lt] at noChange
        obtain rfl : other = block.second := by omega
        simp [Step.result, Step.source, behind, isSame, part_append_drop]

/-- The steps between two lists of lines. -/
def stepsBetween (first second : List String) : List Step :=
  stepsFrom 0 0 first.length second.length (Comparison.ofLines first second).blocks

theorem areCommon_blocks_ofLines (first second : List String) :
    (Comparison.ofLines first second).AreCommon ⟨0, first.length, 0, second.length⟩
      (Comparison.ofLines first second).blocks := by
  have areCommon := Comparison.areCommon_blocks (Comparison.isFaithful_ofLines first second)
  simpa [Comparison.ofLines] using areCommon

/-- The steps go through the whole first list. -/
theorem flatMap_source_stepsBetween (first second : List String) :
    (stepsBetween first second).flatMap (Step.source first) = first :=
  flatMap_source_stepsFrom (areCommon_blocks_ofLines first second)

/-- The steps turn the first list into the second one. -/
theorem flatMap_result_stepsBetween (first second : List String) :
    (stepsBetween first second).flatMap (Step.result first second) = second :=
  flatMap_result_stepsFrom (areCommon_blocks_ofLines first second)

theorem stepsBetween_same (lines : List String) :
    stepsBetween lines lines =
      if lines = [] then [] else [⟨true, ⟨0, lines.length, 0, lines.length⟩⟩] := by
  rw [stepsBetween, Comparison.blocks_same]
  cases lines <;> simp [stepsFrom]

/-- Lists are the same where no step between them is a change. -/
theorem eq_of_forall_isShared (areShared : ∀ step ∈ stepsBetween first second, step.isShared) :
    first = second := by
  calc first
      = (stepsBetween first second).flatMap (Step.source first) :=
        (flatMap_source_stepsBetween first second).symm
    _ = (stepsBetween first second).flatMap (Step.result first second) :=
        List.flatMap_congr fun step stepMem => by rw [Step.result, if_pos (areShared step stepMem)]
    _ = second := flatMap_result_stepsBetween first second

end Steps

/-! ## Groups -/

section Groups

variable {step : Step} {steps group : List Step}

@[simp]
theorem isShared_ending (step : Step) : step.ending.isShared = step.isShared := by
  unfold Step.ending
  split <;> rfl

@[simp]
theorem isShared_beginning (step : Step) : step.beginning.isShared = step.isShared := by
  unfold Step.beginning
  split <;> rfl

/-- Only the lines of a step are left out at the ends, not the step. -/
theorem map_isShared_trimmed (steps : List Step) :
    (trimmed steps).map Step.isShared = steps.map Step.isShared := by
  cases steps with
  | nil => rfl
  | cons step steps =>
      rcases List.eq_nil_or_concat (step.ending :: steps) with isEmpty | ⟨front, last, isWhole⟩
      · contradiction
      · have sameKinds := congrArg (List.map Step.isShared) isWhole
        rw [trimmed, isWhole]
        simpa using sameKinds.symm

theorem forall_isShared_of_not_hasChange (noChange : hasChange group = false) :
    ∀ step ∈ group, step.isShared := by
  match group, noChange with
  | [], _ => simp
  | [step], noChange => simpa [hasChange] using noChange

/-- Every step is in a group, so that a change is in a group with a change. -/
theorem forall_isShared_of_grouped
    (noChange : ∀ member ∈ grouped group steps, hasChange member = false) :
    ∀ step ∈ group ++ steps, step.isShared := by
  induction steps generalizing group with
  | nil => simpa using forall_isShared_of_not_hasChange (noChange group (by simp [grouped]))
  | cons step steps ih =>
      rw [grouped] at noChange
      split at noChange
      · have inGroup := forall_isShared_of_not_hasChange (noChange _ List.mem_cons_self)
        have behind := ih fun member memberMem => noChange member (List.mem_cons_of_mem _ memberMem)
        simp only [List.mem_append, List.mem_cons, List.not_mem_nil, or_false, or_imp,
          forall_and, forall_eq, isShared_beginning, isShared_ending] at inGroup behind ⊢
        exact ⟨inGroup.1, inGroup.2, behind.2⟩
      · simpa using ih noChange

theorem hasChange_of_grouped_shared (isShared : step.isShared) :
    ∀ member ∈ grouped [] [step], hasChange member = false := by
  simp only [grouped]
  split <;> simp [hasChange, isShared]

end Groups

/-! ## Differences -/

/-- The groups of steps that the difference of two lists of lines shows. -/
def changesBetween (first second : List String) : List (List Step) :=
  (grouped [] (trimmed (stepsBetween first second))).filter hasChange

/-- Lists have no changes exactly where they are the same. -/
theorem changesBetween_eq_nil_iff (first second : List String) :
    changesBetween first second = [] ↔ first = second := by
  simp only [changesBetween, List.filter_eq_nil_iff, Bool.not_eq_true]
  constructor
  · intro noChange
    have areShared := forall_isShared_of_grouped noChange
    refine eq_of_forall_isShared fun step stepMem => ?_
    have isShared := List.mem_map_of_mem (f := Step.isShared) stepMem
    rw [← map_isShared_trimmed] at isShared
    obtain ⟨shown, shownMem, same⟩ := List.mem_map.mp isShared
    exact same ▸ areShared shown shownMem
  · rintro rfl
    rw [stepsBetween_same]
    split
    · decide
    · exact hasChange_of_grouped_shared (by simp)

theorem unified_eq (name before after : String) :
    unified name before after =
      let first := (Text.wholeLines before.toList).map String.ofList
      let second := (Text.wholeLines after.toList).map String.ofList
      if (changesBetween first second).isEmpty then ""
      else
        "--- " ++ name ++ " (original)\n+++ " ++ name ++ " (updated)\n" ++
          String.join ((changesBetween first second).map (groupText first second)) :=
  rfl

/-- The difference of two texts is empty exactly where the texts are the same. -/
theorem unified_eq_empty_iff (name before after : String) :
    unified name before after = "" ↔ before = after := by
  have lines_injective : Function.Injective fun text : String =>
      (Text.wholeLines text.toList).map String.ofList := by
    refine fun text other same => String.toList_injective (Text.wholeLines_injective ?_)
    exact List.map_injective_iff.mpr (fun _ _ => String.ofList_injective) same
  have isSame : changesBetween ((Text.wholeLines before.toList).map String.ofList)
      ((Text.wholeLines after.toList).map String.ofList) = [] ↔ before = after :=
    (changesBetween_eq_nil_iff _ _).trans lines_injective.eq_iff
  rw [unified_eq, ← isSame]
  dsimp only
  split
  · rename_i isEmpty
    exact iff_of_true rfl (List.isEmpty_iff.mp isEmpty)
  · rename_i notEmpty
    refine iff_of_false (fun isEmpty => ?_) fun isEmpty => notEmpty (List.isEmpty_iff.mpr isEmpty)
    have noLength := congrArg String.length isEmpty
    simp [String.length_append] at noLength

end Difference

end Phrasebook
