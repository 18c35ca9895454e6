import Phrasebook.Place
import Mathlib.Data.List.Sort
import Mathlib.Data.String.Basic

/-!
# Sorted sets

`sortedSet` keeps every value of a list once and in order.  The result is
strictly sorted and has the members of the list, and these two facts determine
it: lists with the same members have the same sorted set.
-/

namespace Phrasebook

/-- A strict order in which any two different values are comparable. -/
structure IsLinear {α : Type} (isBefore : α → α → Bool) : Prop where
  irreflexive : ∀ value, isBefore value value = false
  transitive : ∀ {first second third},
    isBefore first second = true → isBefore second third = true → isBefore first third = true
  connected : ∀ {left right},
    isBefore left right = false → isBefore right left = false → left = right

section SortedSet

variable {α : Type} {isBefore : α → α → Bool}

theorem IsLinear.asymmetric (linear : IsLinear isBefore) {left right : α}
    (before : isBefore left right = true) : isBefore right left = false := by
  refine Bool.eq_false_iff.mpr fun after => ?_
  have cycle := linear.transitive before after
  rw [linear.irreflexive] at cycle
  contradiction

/-- Every value comes before all later ones. -/
def IsSorted (isBefore : α → α → Bool) (values : List α) : Prop :=
  values.Pairwise fun left right => isBefore left right = true

theorem mem_insertSorted (linear : IsLinear isBefore) (value other : α) (values : List α) :
    other ∈ insertSorted isBefore value values ↔ other = value ∨ other ∈ values := by
  induction values with
  | nil => simp [insertSorted]
  | cons first rest ih =>
      unfold insertSorted
      split
      · simp
      · rename_i notBefore
        split
        · rw [List.mem_cons, ih, List.mem_cons]
          exact or_left_comm
        · rename_i notAfter
          have equal : value = first :=
            linear.connected (by simpa using notBefore) (by simpa using notAfter)
          simp [equal]

theorem isSorted_insertSorted (linear : IsLinear isBefore) (value : α) {values : List α}
    (sorted : IsSorted isBefore values) :
    IsSorted isBefore (insertSorted isBefore value values) := by
  induction values with
  | nil => simp [insertSorted, IsSorted]
  | cons first rest ih =>
      obtain ⟨firstBefore, restSorted⟩ := List.pairwise_cons.mp sorted
      unfold insertSorted
      split
      · rename_i valueBefore
        refine List.pairwise_cons.mpr ⟨fun other otherMem => ?_, sorted⟩
        rcases List.mem_cons.mp otherMem with rfl | inRest
        · exact valueBefore
        · exact linear.transitive valueBefore (firstBefore other inRest)
      · split
        · rename_i valueAfter
          refine List.pairwise_cons.mpr ⟨fun other otherMem => ?_, ih restSorted⟩
          rcases (mem_insertSorted linear value other rest).mp otherMem with rfl | inRest
          · exact valueAfter
          · exact firstBefore other inRest
        · exact sorted

private theorem foldl_insertSorted (linear : IsLinear isBefore) (values : List α)
    {sorted : List α} (isSorted : IsSorted isBefore sorted) :
    IsSorted isBefore
        (values.foldl (fun sorted value => insertSorted isBefore value sorted) sorted) ∧
      ∀ other,
        other ∈ values.foldl (fun sorted value => insertSorted isBefore value sorted) sorted ↔
          other ∈ sorted ∨ other ∈ values := by
  induction values generalizing sorted with
  | nil => exact ⟨isSorted, by simp⟩
  | cons value values ih =>
      obtain ⟨nextSorted, nextMem⟩ := ih (isSorted_insertSorted linear value isSorted)
      refine ⟨nextSorted, fun other => ?_⟩
      rw [List.foldl_cons, nextMem, mem_insertSorted linear, List.mem_cons, or_assoc]
      exact or_left_comm

theorem isSorted_sortedSet (linear : IsLinear isBefore) (values : List α) :
    IsSorted isBefore (sortedSet isBefore values) :=
  (foldl_insertSorted linear values List.Pairwise.nil).1

theorem mem_sortedSet (linear : IsLinear isBefore) {other : α} {values : List α} :
    other ∈ sortedSet isBefore values ↔ other ∈ values := by
  have := (foldl_insertSorted linear values List.Pairwise.nil).2 other
  simpa [sortedSet] using this

/-- A strictly sorted list is determined by its members. -/
theorem IsSorted.eq_of_mem_iff (linear : IsLinear isBefore) {left right : List α}
    (leftSorted : IsSorted isBefore left) (rightSorted : IsSorted isBefore right)
    (sameMembers : ∀ value, value ∈ left ↔ value ∈ right) : left = right := by
  have : Std.Irrefl fun first second : α => isBefore first second = true :=
    ⟨fun value => by simp [linear.irreflexive value]⟩
  have : Std.Antisymm fun first second : α => isBefore first second = true :=
    ⟨fun first second before after => by
      rw [linear.asymmetric before] at after
      contradiction⟩
  exact List.Pairwise.eq_of_mem_iff leftSorted rightSorted sameMembers

theorem sortedSet_eq_of_mem_iff (linear : IsLinear isBefore) {left right : List α}
    (sameMembers : ∀ value, value ∈ left ↔ value ∈ right) :
    sortedSet isBefore left = sortedSet isBefore right := by
  apply IsSorted.eq_of_mem_iff linear (isSorted_sortedSet linear left)
    (isSorted_sortedSet linear right)
  intro value
  rw [mem_sortedSet linear, mem_sortedSet linear, sameMembers]

theorem sortedSet_of_isSorted (linear : IsLinear isBefore) {values : List α}
    (sorted : IsSorted isBefore values) : sortedSet isBefore values = values :=
  IsSorted.eq_of_mem_iff linear (isSorted_sortedSet linear values) sorted
    fun _ => mem_sortedSet linear

end SortedSet

namespace Place

theorem isBefore_iff (left right : Place) :
    left.isBefore right = true ↔
      left.path < right.path ∨ left.path = right.path ∧ left.line < right.line := by
  unfold isBefore
  split
  · rename_i samePath
    have samePath : left.path = right.path := by simpa using samePath
    simp [samePath]
  · rename_i otherPath
    have otherPath : left.path ≠ right.path := by simpa using otherPath
    simp [otherPath]

/-- Places are linearly ordered by path and then by line. -/
theorem isLinear_isBefore : IsLinear isBefore where
  irreflexive place := by simp [isBefore]
  transitive {first second third} before after := by
    rw [isBefore_iff] at before after ⊢
    rcases before with before | ⟨samePath, before⟩
    · rcases after with after | ⟨samePath, after⟩
      · exact .inl (lt_trans before after)
      · exact .inl (samePath ▸ before)
    · rcases after with after | ⟨nextPath, after⟩
      · exact .inl (samePath ▸ after)
      · exact .inr ⟨samePath.trans nextPath, before.trans after⟩
  connected {left right} notBefore notAfter := by
    have notBefore := (isBefore_iff left right).not.mp (by simp [notBefore])
    have notAfter := (isBefore_iff right left).not.mp (by simp [notAfter])
    push Not at notBefore notAfter
    obtain ⟨pathLe, lineLe⟩ := notBefore
    obtain ⟨pathGe, lineGe⟩ := notAfter
    have samePath : left.path = right.path := le_antisymm pathGe pathLe
    have sameLine : left.line = right.line :=
      le_antisymm (lineGe samePath.symm) (lineLe samePath)
    cases left
    cases right
    simp_all

theorem isUpTo_trans {first second third : Place} (one : first.isUpTo second = true)
    (other : second.isUpTo third = true) : first.isUpTo third = true := by
  have linear := isLinear_isBefore
  unfold isUpTo at one other ⊢
  rw [Bool.not_eq_true'] at one other ⊢
  refine Bool.eq_false_iff.mpr fun thirdFirst => ?_
  cases secondThird : second.isBefore third with
  | true =>
      have secondFirst := linear.transitive secondThird thirdFirst
      rw [secondFirst] at one
      contradiction
  | false =>
      obtain rfl := linear.connected secondThird other
      rw [thirdFirst] at one
      contradiction

theorem isUpTo_total (left right : Place) : (left.isUpTo right || right.isUpTo left) = true := by
  unfold isUpTo
  cases rightLeft : right.isBefore left with
  | false => rfl
  | true => rw [isLinear_isBefore.asymmetric rightLeft, Bool.not_false, Bool.or_true]

theorem isUpTo_antisymm {left right : Place} (one : left.isUpTo right = true)
    (other : right.isUpTo left = true) : left = right := by
  unfold isUpTo at one other
  exact isLinear_isBefore.connected (by simpa using other) (by simpa using one)

end Place

theorem isSorted_sortedPlaces (places : List Place) :
    IsSorted Place.isBefore (sortedPlaces places) :=
  isSorted_sortedSet Place.isLinear_isBefore places

@[simp]
theorem mem_sortedPlaces {place : Place} {places : List Place} :
    place ∈ sortedPlaces places ↔ place ∈ places :=
  mem_sortedSet Place.isLinear_isBefore

/-- Texts are linearly ordered by their code points. -/
theorem isLinear_lt_text : IsLinear fun left right : String => decide (left < right) where
  irreflexive text := by simp
  transitive before after := by
    simp only [decide_eq_true_eq] at before after ⊢
    exact lt_trans before after
  connected notBefore notAfter := by
    simp only [decide_eq_false_iff_not, not_lt] at notBefore notAfter
    exact le_antisymm notAfter notBefore

@[simp]
theorem mem_sortedTexts {text : String} {texts : List String} :
    text ∈ sortedTexts texts ↔ text ∈ texts :=
  mem_sortedSet isLinear_lt_text

end Phrasebook
