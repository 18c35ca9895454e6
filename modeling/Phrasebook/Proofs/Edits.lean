import Phrasebook.Build.Edit
import Mathlib.Data.List.Pairwise

/-!
# Making edits

Edits that follow each other replace the bytes between their offsets and leave
all others as they are.  The same bytes come out if the edits are made one
after the other from the last to the first, since an edit moves nothing that
stands before it.
-/

namespace Phrasebook.Build

open Text (encoded)

/-! ## Replaced bytes -/

/-- What edits in the order of their offsets make of the bytes from an offset on: what stands
before an edit is kept, and what it spans is replaced. -/
inductive IsReplaced : Nat → List Edit → List UInt8 → List UInt8 → Prop
  | rest {offset : Nat} {bytes : List UInt8} : IsReplaced offset [] bytes bytes
  | edit {offset : Nat} {edit : Edit} {edits : List Edit} {kept spanned bytes result : List UInt8} :
      edit.start = offset + kept.length → edit.stop = edit.start + spanned.length →
        IsReplaced edit.stop edits bytes result →
          IsReplaced offset (edit :: edits) (kept ++ spanned ++ bytes)
            (kept ++ encoded edit.text ++ result)

/-- Edits that are made one after the other from the last to the first replace the same bytes. -/
theorem IsReplaced.foldr_splice {offset : Nat} {edits : List Edit} {bytes result : List UInt8}
    (replaced : IsReplaced offset edits bytes result) {front : List UInt8}
    (atOffset : front.length = offset) :
    edits.foldr (fun edit bytes => splice bytes edit) (front ++ bytes) = front ++ result := by
  induction replaced generalizing front with
  | rest => rfl
  | @edit offset edit edits kept spanned bytes result start stop _ ih =>
      have upToStart : (front ++ kept).length = edit.start := by simp [start, atOffset]
      have upToStop : (front ++ kept ++ spanned).length = edit.stop := by
        rw [List.length_append, upToStart, stop]
      have others : edits.foldr (fun edit bytes => splice bytes edit)
            (front ++ (kept ++ spanned ++ bytes)) = front ++ kept ++ spanned ++ result := by
        rw [← ih upToStop]
        simp only [List.append_assoc]
      rw [List.foldr_cons, others, splice, ← upToStop, List.drop_left, List.append_assoc _ spanned,
        ← upToStart, List.take_left]
      simp only [List.append_assoc]

theorem IsReplaced.le_start {offset : Nat} {edits : List Edit} {bytes result : List UInt8}
    (replaced : IsReplaced offset edits bytes result) :
    ∀ edit ∈ edits, offset ≤ edit.start := by
  induction replaced with
  | rest => simp
  | edit start stop _ ih =>
      refine List.forall_mem_cons.mpr ⟨by omega, fun other otherMem => ?_⟩
      have isLater := ih other otherMem
      omega

theorem IsReplaced.pairwise {offset : Nat} {edits : List Edit} {bytes result : List UInt8}
    (replaced : IsReplaced offset edits bytes result) :
    edits.Pairwise fun left right => left.stop ≤ right.start := by
  induction replaced with
  | rest => exact .nil
  | edit _ _ rest ih => exact List.pairwise_cons.mpr ⟨rest.le_start, ih⟩

/-- Edits that follow each other within bytes can be made to them. -/
theorem exists_isReplaced {offset : Nat} {edits : List Edit} {bytes : List UInt8}
    (after : ∀ edit ∈ edits, offset ≤ edit.start)
    (forward : ∀ edit ∈ edits, edit.start ≤ edit.stop)
    (inOrder : edits.Pairwise fun left right => left.stop ≤ right.start)
    (inside : ∀ edit ∈ edits, edit.stop ≤ offset + bytes.length) :
    ∃ result, IsReplaced offset edits bytes result := by
  induction edits generalizing offset bytes with
  | nil => exact ⟨bytes, .rest⟩
  | cons edit edits ih =>
      obtain ⟨isAfter, othersAfter⟩ := List.forall_mem_cons.mp after
      obtain ⟨isForward, othersForward⟩ := List.forall_mem_cons.mp forward
      obtain ⟨isFirst, othersInOrder⟩ := List.pairwise_cons.mp inOrder
      obtain ⟨isInside, othersInside⟩ := List.forall_mem_cons.mp inside
      -- What the edit spans stands between what is kept and what the other edits are made to.
      obtain ⟨kept, rest, rfl, keptLength⟩ : ∃ kept rest, bytes = kept ++ rest ∧
          kept.length = edit.start - offset :=
        ⟨_, _, (List.take_append_drop (edit.start - offset) bytes).symm,
          List.length_take_of_le (by omega)⟩
      rw [List.length_append] at isInside othersInside
      obtain ⟨spanned, rest, rfl, spannedLength⟩ : ∃ spanned others, rest = spanned ++ others ∧
          spanned.length = edit.stop - edit.start :=
        ⟨_, _, (List.take_append_drop (edit.stop - edit.start) rest).symm,
          List.length_take_of_le (by omega)⟩
      have othersInside (other : Edit) (otherMem : other ∈ edits) :
          other.stop ≤ edit.stop + rest.length := by
        have isInside := othersInside other otherMem
        rw [List.length_append] at isInside
        omega
      obtain ⟨result, replaced⟩ := ih isFirst othersForward othersInOrder othersInside
      rw [← List.append_assoc]
      exact ⟨_, .edit (by omega) (by omega) replaced⟩

/-! ## Substitutions -/

/-- What a simultaneous substitution of bytes is: the spans of its edits are not empty and have no
byte in common, and in the order of their offsets they replace what they span and nothing else. -/
structure IsSubstitution (edits : List Edit) (source output : List UInt8) : Prop where
  nonempty : ∀ edit ∈ edits, edit.start < edit.stop
  disjoint : edits.Pairwise fun left right => left.stop ≤ right.start ∨ right.stop ≤ left.start
  replaced : ∃ sorted, sorted.Perm edits ∧ IsReplaced 0 sorted source output

section Substitutions

variable {edits : List Edit} {bytes output : List UInt8}

theorem pairwise_start_mergeSort (edits : List Edit) :
    (edits.mergeSort fun left right => decide (right.start ≤ left.start)).Pairwise
      fun left right => right.start ≤ left.start := by
  refine (@List.pairwise_mergeSort Edit (fun left right => decide (right.start ≤ left.start))
    (fun _ _ _ first second => ?_) (fun left right => ?_) edits).imp of_decide_eq_true
  · simp only [decide_eq_true_eq] at *
    omega
  · simp only [Bool.or_eq_true, decide_eq_true_eq]
    omega

/-- Edits without common bytes follow each other once they are sorted. -/
theorem pairwise_mergeSort_start (nonempty : ∀ edit ∈ edits, edit.start < edit.stop)
    (disjoint : edits.Pairwise fun left right =>
      left.stop ≤ right.start ∨ right.stop ≤ left.start) :
    (edits.mergeSort fun left right => decide (right.start ≤ left.start)).Pairwise
      fun left right => right.stop ≤ left.start := by
  have perm := List.mergeSort_perm edits fun left right => decide (right.start ≤ left.start)
  have apart := (perm.pairwise_iff fun {_ _} => Or.symm).mpr disjoint
  apply ((pairwise_start_mergeSort edits).and apart).imp_of_mem
  intro left right leftMem rightMem related
  have leftSpan := nonempty left (perm.mem_iff.mp leftMem)
  have rightSpan := nonempty right (perm.mem_iff.mp rightMem)
  have ordered := related.1
  rcases related.2 with before | after
  · omega
  · exact after

/-- Edits that are given in the order of their offsets are made from the last one on. -/
theorem applyEdits_of_pairwise
    (inOrder : edits.Pairwise fun left right => left.start < right.start) (bytes : List UInt8) :
    applyEdits edits bytes = edits.foldr (fun edit bytes => splice bytes edit) bytes := by
  have perm := List.mergeSort_perm edits fun left right => decide (right.start ≤ left.start)
  have different := (perm.pairwise_iff fun {_ _} => Ne.symm).mpr (inOrder.imp Nat.ne_of_lt)
  have descending := (pairwise_start_mergeSort edits).and different
  unfold applyEdits
  generalize edits.mergeSort (fun left right => decide (right.start ≤ left.start)) = loop
    at perm descending ⊢
  have isReverse : loop = edits.reverse :=
    List.Perm.eq_of_pairwise (fun left right _ _ before after => by omega)
      (descending.imp fun related => Nat.lt_of_le_of_ne related.1 related.2.symm)
      (List.pairwise_reverse.mpr inOrder) (perm.trans (List.reverse_perm edits).symm)
  rw [isReverse, List.foldl_reverse]

/-- There is one way to make edits all at once, and it is to make them one after the other from the
last to the first. -/
theorem IsSubstitution.eq_applyEdits (substitution : IsSubstitution edits bytes output) :
    output = applyEdits edits bytes := by
  obtain ⟨sorted, sortedPerm, replaced⟩ := substitution.replaced
  have perm := List.mergeSort_perm edits fun left right => decide (right.start ≤ left.start)
  have descending := pairwise_mergeSort_start substitution.nonempty substitution.disjoint
  unfold applyEdits
  generalize edits.mergeSort (fun left right => decide (right.start ≤ left.start)) = loop
    at perm descending ⊢
  have sameOrder : sorted = loop.reverse := by
    refine List.Perm.eq_of_pairwise (fun left right leftMem rightMem before after => ?_)
      replaced.pairwise (List.pairwise_reverse.mpr descending)
      (sortedPerm.trans (perm.symm.trans (List.reverse_perm loop).symm))
    -- Of two edits only one comes first, since neither is empty.
    have leftSpan := substitution.nonempty left (sortedPerm.mem_iff.mp leftMem)
    have rightSpan := substitution.nonempty right
      (perm.mem_iff.mp (List.mem_reverse.mp rightMem))
    omega
  rw [← List.foldr_reverse, ← sameOrder]
  exact (replaced.foldr_splice List.length_nil).symm

/-- Edits that are made one after the other from the last to the first are made all at once, as long
as their spans lie within the bytes, are not empty and have no byte in common. -/
theorem isSubstitution_applyEdits (nonempty : ∀ edit ∈ edits, edit.start < edit.stop)
    (disjoint : edits.Pairwise fun left right =>
      left.stop ≤ right.start ∨ right.stop ≤ left.start)
    (inside : ∀ edit ∈ edits, edit.stop ≤ bytes.length) :
    IsSubstitution edits bytes (applyEdits edits bytes) := by
  have perm := List.mergeSort_perm edits fun left right => decide (right.start ≤ left.start)
  have descending := pairwise_mergeSort_start nonempty disjoint
  generalize edits.mergeSort (fun left right => decide (right.start ≤ left.start)) = loop
    at perm descending
  have loopMem (edit : Edit) (editMem : edit ∈ loop.reverse) : edit ∈ edits :=
    perm.mem_iff.mp (List.mem_reverse.mp editMem)
  obtain ⟨output, replaced⟩ := exists_isReplaced (fun _ _ => Nat.zero_le _)
    (fun edit editMem => Nat.le_of_lt (nonempty edit (loopMem edit editMem)))
    (List.pairwise_reverse.mpr descending)
    (fun edit editMem => Nat.le_trans (inside edit (loopMem edit editMem)) (Nat.le_add_left _ 0))
  have substitution : IsSubstitution edits bytes output :=
    ⟨nonempty, disjoint, loop.reverse, (List.reverse_perm loop).trans perm, replaced⟩
  exact substitution.eq_applyEdits ▸ substitution

end Substitutions

end Phrasebook.Build
