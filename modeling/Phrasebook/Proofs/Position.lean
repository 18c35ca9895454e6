import Phrasebook.Proofs.Insertion
import Phrasebook.Proofs.SortedSet
import Mathlib.Data.List.Induction

/-!
# Where new entries go

The position for an entry comes from one search for the best among all places,
and the three searches break ties in different ways.  `BelongsAt` says by the
places alone which position that has to be, and exactly one position meets it.
-/

namespace Phrasebook.Book

/-! ## The best of a list -/

/-- A preference by rank: what is better than a value is better than all that is not better than
this value, too. -/
structure IsRanking {α : Type} (isBetter : α → α → Bool) : Prop where
  trans : ∀ {first second third},
    isBetter first second = true → isBetter second third = true → isBetter first third = true
  ranks : ∀ {first second third},
    isBetter first second = true → isBetter third second = false → isBetter first third = true

section FirstBest

variable {α : Type} {isBetter : α → α → Bool}

theorem IsRanking.of_total
    (trans : ∀ {first second third},
      isBetter first second = true → isBetter second third = true → isBetter first third = true)
    (total : ∀ left right, (isBetter left right || isBetter right left) = true) :
    IsRanking isBetter := by
  refine ⟨trans, fun {first second third} isBetterFirst notBetter => trans isBetterFirst ?_⟩
  simpa [notBetter] using total second third

theorem firstBest?_concat (values : List α) (value : α) :
    firstBest? isBetter (values ++ [value]) =
      match firstBest? isBetter values with
      | none => some value
      | some best => if isBetter value best then some value else some best := by
  have step : firstBest? isBetter (values ++ [value]) =
      match firstBest? isBetter values with
      | none => some value
      | some best =>
        if isBetter value best then some value else firstBest? isBetter values := List.foldl_append
  rw [step]
  cases firstBest? isBetter values <;> rfl

theorem eq_nil_of_firstBest?_eq_none {values : List α}
    (nothing : firstBest? isBetter values = none) : values = [] := by
  rcases List.eq_nil_or_concat values with isNil | ⟨front, last, rfl⟩
  · exact isNil
  · rw [List.concat_eq_append, firstBest?_concat] at nothing
    split at nothing
    · contradiction
    · split at nothing <;> contradiction

/-- What is found is better than all values before it, and no value behind it is better. -/
theorem exists_append_of_firstBest? (ranking : IsRanking isBetter) {values : List α} {best : α}
    (found : firstBest? isBetter values = some best) :
    ∃ before after, values = before ++ best :: after ∧
      (∀ value ∈ before, isBetter best value = true) ∧
      ∀ value ∈ after, isBetter value best = false := by
  -- the fold takes up one value after the other, so the induction is on the last value
  induction values using List.reverseRecOn generalizing best with
  | nil => contradiction
  | append_singleton values value ih =>
      rw [firstBest?_concat] at found
      cases former? : firstBest? isBetter values with
      | none =>
          obtain rfl := eq_nil_of_firstBest?_eq_none former?
          rw [former?] at found
          obtain rfl := Option.some.inj found
          exact ⟨[], [], rfl, nofun, nofun⟩
      | some former =>
          obtain ⟨before, after, rfl, allBefore, allAfter⟩ := ih former?
          rw [former?] at found
          dsimp only at found
          split at found
          · rename_i isBetterValue
            obtain rfl := Option.some.inj found
            refine ⟨before ++ former :: after, [], rfl, ?_, nofun⟩
            refine List.forall_mem_append.mpr ⟨?_, List.forall_mem_cons.mpr ⟨isBetterValue, ?_⟩⟩
            · exact fun other otherMem => ranking.trans isBetterValue (allBefore other otherMem)
            · exact fun other otherMem => ranking.ranks isBetterValue (allAfter other otherMem)
          · rename_i notBetter
            obtain rfl := Option.some.inj found
            refine ⟨before, after ++ [value], by simp, allBefore, ?_⟩
            refine List.forall_mem_append.mpr ⟨allAfter, List.forall_mem_singleton.mpr ?_⟩
            exact Bool.eq_false_of_not_eq_true notBetter

end FirstBest

/-! ## Places of entries -/

/-- The entry at a position has a place. -/
def HoldsAt (entries : List (List Place)) (position : Nat) (place : Place) : Prop :=
  ∃ places, entries[position]? = some places ∧ place ∈ places

/-- Some entry has a place. -/
def Holds (entries : List (List Place)) (place : Place) : Prop :=
  ∃ position, HoldsAt entries position place

/-- A place is in the entry at a position and in none before it. -/
structure IsFirstAt (entries : List (List Place)) (place : Place) (position : Nat) : Prop where
  holds : HoldsAt entries position place
  isFirst : ∀ other, HoldsAt entries other place → position ≤ other

/-- A place is in the entry at a position and in none behind it. -/
structure IsLastAt (entries : List (List Place)) (place : Place) (position : Nat) : Prop where
  holds : HoldsAt entries position place
  isLast : ∀ other, HoldsAt entries other place → other ≤ position

section Numbered

variable {entries : List (List Place)} {place : Place}

theorem IsFirstAt.unique {first second : Nat} (one : IsFirstAt entries place first)
    (other : IsFirstAt entries place second) : first = second :=
  Nat.le_antisymm (one.isFirst second other.holds) (other.isFirst first one.holds)

theorem IsLastAt.unique {first second : Nat} (one : IsLastAt entries place first)
    (other : IsLastAt entries place second) : first = second :=
  Nat.le_antisymm (other.isLast first one.holds) (one.isLast second other.holds)

@[simp]
theorem not_holdsAt_nil (position : Nat) : ¬ HoldsAt [] position place := by
  simp [HoldsAt]

@[simp]
theorem holdsAt_cons_zero (places : List Place) :
    HoldsAt (places :: entries) 0 place ↔ place ∈ places := by
  simp [HoldsAt]

@[simp]
theorem holdsAt_cons_succ (places : List Place) (position : Nat) :
    HoldsAt (places :: entries) (position + 1) place ↔ HoldsAt entries position place := by
  simp [HoldsAt]

theorem mem_numberedPlaces {start position : Nat} :
    (position, place) ∈ numberedPlaces start entries ↔
      ∃ index, position = start + index ∧ HoldsAt entries index place := by
  induction entries generalizing start with
  | nil => simp [numberedPlaces]
  | cons places entries ih =>
      rw [numberedPlaces, List.mem_append, ih]
      constructor
      · rintro (here | ⟨index, rfl, isLater⟩)
        · obtain ⟨_, placeMem, equal⟩ := List.mem_map.mp here
          obtain ⟨rfl, rfl⟩ := Prod.mk.inj equal
          exact ⟨0, rfl, (holdsAt_cons_zero places).mpr placeMem⟩
        · exact ⟨index + 1, by omega, (holdsAt_cons_succ places index).mpr isLater⟩
      · rintro ⟨index, rfl, isThere⟩
        cases index with
        | zero =>
            exact .inl (List.mem_map.mpr ⟨place, (holdsAt_cons_zero places).mp isThere, rfl⟩)
        | succ index =>
            exact .inr ⟨index, by omega, (holdsAt_cons_succ places index).mp isThere⟩

theorem pairwise_numberedPlaces (start : Nat) (entries : List (List Place)) :
    (numberedPlaces start entries).Pairwise fun left right => left.1 ≤ right.1 := by
  induction entries generalizing start with
  | nil => exact .nil
  | cons places entries ih =>
      refine List.pairwise_append.mpr ⟨?_, ih (start + 1), ?_⟩
      · exact List.pairwise_map.mpr (List.pairwise_of_forall fun _ _ => Nat.le_refl start)
      · rintro _ here ⟨position, other⟩ later
        obtain ⟨_, _, rfl⟩ := List.mem_map.mp here
        have bounds := numberedPlaces_bounds later
        dsimp only
        omega

end Numbered

/-! ## The best places -/

/-- The numbered places of entries that pass a test. -/
def candidates (entries : List (List Place)) (accepts : Place → Bool) : List (Nat × Place) :=
  (numberedPlaces 0 entries).filter fun numbered => accepts numbered.2

section Candidates

variable {entries : List (List Place)} {accepts : Place → Bool} {isBetter : Place → Place → Bool}
  {position : Nat} {best : Place}

theorem mem_candidates {place : Place} :
    (position, place) ∈ candidates entries accepts ↔
      HoldsAt entries position place ∧ accepts place = true := by
  rw [candidates, List.mem_filter, mem_numberedPlaces]
  simp

theorem refuses_of_firstBest?_eq_none {isBetter : Nat × Place → Nat × Place → Bool}
    (nothing : firstBest? isBetter (candidates entries accepts) = none) {place : Place}
    (holds : Holds entries place) : accepts place = false := by
  obtain ⟨position, holdsAt⟩ := holds
  refine Bool.eq_false_iff.mpr fun accepted => ?_
  have isCandidate := mem_candidates.mpr ⟨holdsAt, accepted⟩
  rw [eq_nil_of_firstBest?_eq_none nothing] at isCandidate
  contradiction

/-- What a search finds is a candidate; those before it are worse and stand no later, and those
behind it are not better and stand no earlier. -/
theorem candidates_of_firstBest? (ranking : IsRanking isBetter)
    (found : firstBest? (fun left right => isBetter left.2 right.2)
      (candidates entries accepts) = some (position, best)) :
    HoldsAt entries position best ∧ accepts best = true ∧
      ∀ other place, HoldsAt entries other place → accepts place = true →
        (isBetter best place = true ∧ other ≤ position) ∨
          (other = position ∧ place = best) ∨
          (isBetter place best = false ∧ position ≤ other) := by
  have pairRanking : IsRanking fun left right : Nat × Place => isBetter left.2 right.2 :=
    ⟨ranking.trans, ranking.ranks⟩
  obtain ⟨before, after, split, allBefore, allAfter⟩ :=
    exists_append_of_firstBest? pairRanking found
  obtain ⟨holds, accepted⟩ := mem_candidates.mp (split ▸ by simp :
    (position, best) ∈ candidates entries accepts)
  refine ⟨holds, accepted, fun other place holdsAt isAccepted => ?_⟩
  have ordered : (before ++ (position, best) :: after).Pairwise
      fun left right => left.1 ≤ right.1 :=
    split ▸ (pairwise_numberedPlaces 0 entries).filter _
  obtain ⟨_, fromBest, beforeBest⟩ := List.pairwise_append.mp ordered
  have isCandidate := mem_candidates.mpr ⟨holdsAt, isAccepted⟩
  rw [split, List.mem_append, List.mem_cons] at isCandidate
  rcases isCandidate with isBefore | isBest | isAfter
  · exact .inl ⟨allBefore _ isBefore, beforeBest _ isBefore _ List.mem_cons_self⟩
  · exact .inr (.inl (Prod.mk.inj isBest))
  · exact .inr (.inr ⟨allAfter _ isAfter, (List.pairwise_cons.mp fromBest).1 _ isAfter⟩)

/-- With a strict preference the first of the best places is found. -/
theorem isFirstAt_of_firstBest? (ranking : IsRanking isBetter)
    (irreflexive : ∀ place, isBetter place place = false)
    (found : firstBest? (fun left right => isBetter left.2 right.2)
      (candidates entries accepts) = some (position, best)) :
    IsFirstAt entries best position ∧ accepts best = true ∧
      ∀ place, Holds entries place → accepts place = true → isBetter place best = false := by
  obtain ⟨holds, accepted, cases⟩ := candidates_of_firstBest? ranking found
  refine ⟨⟨holds, fun other holdsAt => ?_⟩, accepted, fun place ⟨other, holdsAt⟩ isAccepted => ?_⟩
  · rcases cases other best holdsAt accepted with ⟨isWorse, _⟩ | ⟨rfl, _⟩ | ⟨_, isLater⟩
    · rw [irreflexive] at isWorse
      contradiction
    · exact Nat.le_refl other
    · exact isLater
  · rcases cases other place holdsAt isAccepted with ⟨isWorse, _⟩ | ⟨_, rfl⟩ | ⟨notBetter, _⟩
    · refine Bool.eq_false_iff.mpr fun isBest => ?_
      have cycle := ranking.trans isBest isWorse
      rw [irreflexive] at cycle
      contradiction
    · exact irreflexive place
    · exact notBetter

/-- With a total preference the last of the best places is found. -/
theorem isLastAt_of_firstBest? (ranking : IsRanking isBetter)
    (total : ∀ left right, (isBetter left right || isBetter right left) = true)
    (found : firstBest? (fun left right => isBetter left.2 right.2)
      (candidates entries accepts) = some (position, best)) :
    IsLastAt entries best position ∧ accepts best = true ∧
      ∀ place, Holds entries place → accepts place = true → isBetter best place = true := by
  have reflexive (place : Place) : isBetter place place = true := by
    simpa using total place place
  obtain ⟨holds, accepted, cases⟩ := candidates_of_firstBest? ranking found
  refine ⟨⟨holds, fun other holdsAt => ?_⟩, accepted, fun place ⟨other, holdsAt⟩ isAccepted => ?_⟩
  · rcases cases other best holdsAt accepted with ⟨_, isEarlier⟩ | ⟨rfl, _⟩ | ⟨notBetter, _⟩
    · exact isEarlier
    · exact Nat.le_refl other
    · rw [reflexive] at notBetter
      contradiction
  · rcases cases other place holdsAt isAccepted with ⟨isWorse, _⟩ | ⟨_, rfl⟩ | ⟨notBetter, _⟩
    · exact isWorse
    · exact reflexive place
    · simpa [notBetter] using total place best

end Candidates

/-! ## The position -/

/-- The position at which an entry with a place belongs among other entries. -/
inductive BelongsAt (entries : List (List Place)) (place : Place) : Nat → Prop
  /-- Behind the first entry with the closest place before it in the same file. -/
  | behindClosest {line position : Nat} : line < place.line →
      (∀ other, Holds entries ⟨place.path, other⟩ → other < place.line → other ≤ line) →
      IsFirstAt entries ⟨place.path, line⟩ position → BelongsAt entries place (position + 1)
  /-- In front of the first entry with the first place in the same file, if none is before it. -/
  | beforeFirst {line position : Nat} :
      (∀ other, Holds entries ⟨place.path, other⟩ → place.line ≤ other ∧ line ≤ other) →
      IsFirstAt entries ⟨place.path, line⟩ position → BelongsAt entries place position
  /-- Behind the last entry with the last place in an earlier file, if none is in the same file. -/
  | behindFile {last : Place} {position : Nat} :
      (∀ line, ¬ Holds entries ⟨place.path, line⟩) → last.path < place.path →
      (∀ other, Holds entries other → other.path < place.path → other.isUpTo last = true) →
      IsLastAt entries last position → BelongsAt entries place (position + 1)
  /-- At the front, if all places are in later files. -/
  | front : (∀ other, Holds entries other → place.path < other.path) → BelongsAt entries place 0

section BelongsAt

variable {entries : List (List Place)} {place : Place}

theorem positionFor_eq (entries : List (List Place)) (place : Place) :
    positionFor entries place =
      match firstBest? (fun left right => decide (right.2.line < left.2.line))
        (candidates entries fun other => other.line < place.line && other.path == place.path) with
      | some (position, _) => position + 1
      | none =>
        match firstBest? (fun left right => decide (left.2.line < right.2.line))
          (candidates entries fun other => other.path == place.path) with
        | some (position, _) => position
        | none =>
          match firstBest? (fun left right => right.2.isUpTo left.2)
            (candidates entries fun other => other.path < place.path) with
          | some (position, _) => position + 1
          | none => 0 := by
  have inFile : (candidates entries fun other => other.path == place.path).filter
      (fun numbered => numbered.2.line < place.line) =
        candidates entries fun other => other.line < place.line && other.path == place.path :=
    List.filter_filter
  rw [← inFile]
  rfl

theorem belongsAt_self (entries : List (List Place)) (place : Place) :
    BelongsAt entries place (positionFor entries place) := by
  rw [positionFor_eq]
  split
  · rename_i position best found
    have ranking : IsRanking fun left right : Place => decide (right.line < left.line) :=
      ⟨by simp; omega, by simp; omega⟩
    obtain ⟨isFirst, accepted, closest⟩ := isFirstAt_of_firstBest? ranking (by simp) found
    obtain ⟨isBefore, samePath⟩ : best.line < place.line ∧ best.path = place.path := by
      simpa using accepted
    rw [show best = ⟨place.path, best.line⟩ by rw [← samePath]] at isFirst
    refine .behindClosest isBefore (fun other holds otherBefore => ?_) isFirst
    simpa using closest _ holds (by simpa using otherBefore)
  · rename_i noneBefore
    have later (line : Nat) (holds : Holds entries ⟨place.path, line⟩) : place.line ≤ line := by
      simpa using refuses_of_firstBest?_eq_none noneBefore holds
    split
    · rename_i position best found
      have ranking : IsRanking fun left right : Place => decide (left.line < right.line) :=
        ⟨by simp; omega, by simp; omega⟩
      obtain ⟨isFirst, accepted, least⟩ := isFirstAt_of_firstBest? ranking (by simp) found
      have samePath : best.path = place.path := by simpa using accepted
      rw [show best = ⟨place.path, best.line⟩ by rw [← samePath]] at isFirst
      refine .beforeFirst (fun other holds => ⟨later other holds, ?_⟩) isFirst
      simpa using least _ holds (by simp)
    · rename_i noneInFile
      have notInFile (line : Nat) : ¬ Holds entries ⟨place.path, line⟩ := fun holds => by
        simpa using refuses_of_firstBest?_eq_none noneInFile holds
      split
      · rename_i position best found
        have ranking : IsRanking fun left right : Place => right.isUpTo left :=
          .of_total (fun one other => Place.isUpTo_trans other one)
            fun left right => Place.isUpTo_total right left
        obtain ⟨isLast, accepted, greatest⟩ :=
          isLastAt_of_firstBest? ranking (fun left right => Place.isUpTo_total right left) found
        have isEarlier : best.path < place.path := of_decide_eq_true accepted
        exact .behindFile notInFile isEarlier
          (fun other holds isBefore => greatest other holds (decide_eq_true isBefore)) isLast
      · rename_i noneEarlier
        refine .front fun other holds => ?_
        have notEarlier : ¬ other.path < place.path :=
          of_decide_eq_false (refuses_of_firstBest?_eq_none noneEarlier holds)
        refine lt_of_le_of_ne (not_lt.mp notEarlier) fun same => ?_
        exact notInFile other.line (same ▸ holds)

/-- Only one position belongs to a place. -/
theorem BelongsAt.unique {first second : Nat} (one : BelongsAt entries place first)
    (other : BelongsAt entries place second) : first = second := by
  cases one with
  | @behindClosest line _ isBefore closest isFirst =>
      have found : Holds entries ⟨place.path, line⟩ := ⟨_, isFirst.holds⟩
      cases other with
      | @behindClosest other _ otherBefore otherClosest otherFirst =>
          obtain rfl : line = other :=
            Nat.le_antisymm (otherClosest line found isBefore)
              (closest other ⟨_, otherFirst.holds⟩ otherBefore)
          rw [isFirst.unique otherFirst]
      | beforeFirst least _ => exact absurd (least line found).1 (Nat.not_le.mpr isBefore)
      | behindFile absent _ _ _ => exact absurd found (absent line)
      | front later => exact absurd (later _ found) (lt_irrefl place.path)
  | @beforeFirst line _ least isFirst =>
      have found : Holds entries ⟨place.path, line⟩ := ⟨_, isFirst.holds⟩
      cases other with
      | @behindClosest other _ otherBefore _ otherFirst =>
          exact absurd (least other ⟨_, otherFirst.holds⟩).1 (Nat.not_le.mpr otherBefore)
      | @beforeFirst other _ otherLeast otherFirst =>
          obtain rfl : line = other :=
            Nat.le_antisymm (least other ⟨_, otherFirst.holds⟩).2 (otherLeast line found).2
          exact isFirst.unique otherFirst
      | behindFile absent _ _ _ => exact absurd found (absent line)
      | front later => exact absurd (later _ found) (lt_irrefl place.path)
  | @behindFile last _ absent isEarlier greatest isLast =>
      have found : Holds entries last := ⟨_, isLast.holds⟩
      cases other with
      | behindClosest _ _ otherFirst => exact absurd ⟨_, otherFirst.holds⟩ (absent _)
      | beforeFirst _ otherFirst => exact absurd ⟨_, otherFirst.holds⟩ (absent _)
      | @behindFile other _ _ otherEarlier otherGreatest otherLast =>
          obtain rfl : last = other :=
            Place.isUpTo_antisymm (otherGreatest last found isEarlier)
              (greatest other ⟨_, otherLast.holds⟩ otherEarlier)
          rw [isLast.unique otherLast]
      | front later => exact absurd (later last found) isEarlier.not_gt
  | front later =>
      cases other with
      | behindClosest _ _ otherFirst =>
          exact absurd (later _ ⟨_, otherFirst.holds⟩) (lt_irrefl place.path)
      | beforeFirst _ otherFirst =>
          exact absurd (later _ ⟨_, otherFirst.holds⟩) (lt_irrefl place.path)
      | behindFile _ otherEarlier _ otherLast =>
          exact absurd (later _ ⟨_, otherLast.holds⟩) otherEarlier.not_gt
      | front => rfl

/-- The position for an entry is the one at which it belongs, and this is a position between the
other entries or at one of the two ends. -/
theorem belongsAt_iff_positionFor (entries : List (List Place)) (place : Place) :
    (∀ position, BelongsAt entries place position ↔ position = positionFor entries place) ∧
      positionFor entries place ≤ entries.length := by
  refine ⟨fun position => ⟨fun belongs => ?_, ?_⟩, positionFor_le_length entries place⟩
  · exact belongs.unique (belongsAt_self entries place)
  · rintro rfl
    exact belongsAt_self entries place

/-- The closest place before the new one is in two entries, of which the first counts. -/
example : positionFor [[⟨"b", 9⟩], [⟨"b", 2⟩, ⟨"a", 7⟩], [⟨"b", 2⟩]] ⟨"b", 5⟩ = 2 := by
  decide

end BelongsAt

end Phrasebook.Book
