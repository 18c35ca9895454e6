import Mathlib.Data.List.Forall2

/-!
# Sequences of steps that may fail

A sequence of steps succeeds exactly when every step does, and its results go
together with the values that they are for.
-/

namespace Phrasebook

section Outcome

variable {ε α β : Type}

theorem bind_eq_ok_iff {outcome : Except ε α} {next : α → Except ε β} {result : β} :
    outcome >>= next = .ok result ↔ ∃ value, outcome = .ok value ∧ next value = .ok result := by
  cases outcome with
  | error fault => simp [bind, Except.bind]
  | ok value => simp [bind, Except.bind]

theorem map_eq_ok_iff {outcome : Except ε α} {change : α → β} {result : β} :
    outcome.map change = .ok result ↔ ∃ value, outcome = .ok value ∧ change value = result := by
  cases outcome with
  | error fault => simp [Except.map]
  | ok value => simp [Except.map]

theorem mapError_eq_ok_iff {φ : Type} {outcome : Except ε α} {rename : ε → φ} {result : α} :
    outcome.mapError rename = .ok result ↔ outcome = .ok result := by
  cases outcome <;> simp [Except.mapError]

theorem toOption_eq_some_iff {outcome : Except ε α} {result : α} :
    outcome.toOption = some result ↔ outcome = .ok result := by
  cases outcome <;> simp [Except.toOption]

/-- A run that succeeds is known by its result and by what it leaves. -/
theorem eq_ok_of_toOption {run : Except ε α × β} {result : α}
    (isResult : run.1.toOption = some result) : run = (.ok result, run.2) :=
  Prod.ext (toOption_eq_some_iff.mp isResult) rfl

/-- A step for every value succeeds with the results of the steps, in the order of the values. -/
theorem mapM_eq_ok_iff {step : α → Except ε β} {values : List α} {results : List β} :
    values.mapM step = .ok results ↔
      List.Forall₂ (fun value result => step value = .ok result) values results := by
  induction values generalizing results with
  | nil =>
      cases results <;> simp [pure, Except.pure]
  | cons value values ih =>
      rw [List.mapM_cons, bind_eq_ok_iff]
      constructor
      · rintro ⟨result, done, rest⟩
        obtain ⟨others, restDone, equal⟩ := bind_eq_ok_iff.mp rest
        obtain rfl := Except.ok.inj equal
        exact .cons done (ih.mp restDone)
      · rintro (_ | ⟨done, restDone⟩)
        exact ⟨_, done, bind_eq_ok_iff.mpr ⟨_, ih.mpr restDone, rfl⟩⟩

theorem exists_mapM_eq_ok {step : α → Except ε β} {values : List α}
    (each : ∀ value ∈ values, ∃ result, step value = .ok result) :
    ∃ results, values.mapM step = .ok results := by
  induction values with
  | nil => exact ⟨[], rfl⟩
  | cons value values ih =>
      obtain ⟨⟨result, isResult⟩, others⟩ := List.forall_mem_cons.mp each
      obtain ⟨results, areResults⟩ := ih others
      refine ⟨result :: results, mapM_eq_ok_iff.mpr (.cons isResult ?_)⟩
      exact mapM_eq_ok_iff.mp areResults

/-- What every step of a fold that may fail preserves holds at its end. -/
theorem foldlM_preserves_of_mem (holds : β → Prop) {step : β → α → Except ε β} {values : List α}
    {first last : β}
    (preserves : ∀ {state value next}, value ∈ values → holds state →
      step state value = .ok next → holds next)
    (start : holds first) (done : values.foldlM step first = .ok last) : holds last := by
  induction values generalizing first with
  | nil =>
      obtain rfl := Except.ok.inj done
      exact start
  | cons value values ih =>
      rw [List.foldlM_cons] at done
      obtain ⟨next, stepped, done⟩ := bind_eq_ok_iff.mp done
      exact ih (fun isLater => preserves (List.mem_cons_of_mem _ isLater))
        (preserves List.mem_cons_self start stepped) done

theorem foldlM_preserves (holds : β → Prop) {step : β → α → Except ε β} {values : List α}
    {first last : β}
    (preserves : ∀ {state value next}, holds state → step state value = .ok next → holds next)
    (start : holds first) (done : values.foldlM step first = .ok last) : holds last :=
  foldlM_preserves_of_mem holds (fun _ => preserves) start done

end Outcome

/-! ## Lists that go together -/

section Pairs

variable {α β γ : Type} {related : α → β → Prop} {lefts : List α} {rights : List β}

/-- Every member of a list goes with a member of the other one. -/
theorem exists_mem_zip_left (pairs : List.Forall₂ related lefts rights) {left : α}
    (leftMem : left ∈ lefts) :
    ∃ right ∈ rights, (left, right) ∈ lefts.zip rights ∧ related left right := by
  have isFirst : left ∈ (lefts.zip rights).map Prod.fst := by
    rwa [List.map_fst_zip (Nat.le_of_eq pairs.length_eq)]
  obtain ⟨⟨_, right⟩, pairMem, rfl⟩ := List.mem_map.mp isFirst
  exact ⟨right, (List.of_mem_zip pairMem).2, pairMem, List.forall₂_zip pairs pairMem⟩

theorem exists_mem_zip_right (pairs : List.Forall₂ related lefts rights) {right : β}
    (rightMem : right ∈ rights) :
    ∃ left ∈ lefts, (left, right) ∈ lefts.zip rights ∧ related left right := by
  have isSecond : right ∈ (lefts.zip rights).map Prod.snd := by
    rwa [List.map_snd_zip (Nat.le_of_eq pairs.length_eq.symm)]
  obtain ⟨⟨left, _⟩, pairMem, rfl⟩ := List.mem_map.mp isSecond
  exact ⟨left, (List.of_mem_zip pairMem).1, pairMem, List.forall₂_zip pairs pairMem⟩

/-- Lists that go together have the same images where their members do. -/
theorem map_eq_map_of_forall₂ {first : α → γ} {second : β → γ}
    (pairs : List.Forall₂ (fun left right => first left = second right) lefts rights) :
    lefts.map first = rights.map second := by
  rw [← List.forall₂_eq_eq_eq, List.forall₂_map_left_iff, List.forall₂_map_right_iff]
  exact pairs

/-- Two lists that go together with a third one go together. -/
theorem forall₂_of_common {first : α → β → Prop} {second : α → γ → Prop} {joint : β → γ → Prop}
    {values : List α} {lefts : List β} {rights : List γ}
    (common : ∀ value left right, first value left → second value right → joint left right)
    (firsts : List.Forall₂ first values lefts) (seconds : List.Forall₂ second values rights) :
    List.Forall₂ joint lefts rights := by
  induction firsts generalizing rights with
  | nil =>
      obtain _ | _ := seconds
      exact .nil
  | cons isFirst _ ih =>
      obtain _ | ⟨isSecond, seconds⟩ := seconds
      exact .cons (common _ _ _ isFirst isSecond) (ih seconds)

end Pairs

end Phrasebook
