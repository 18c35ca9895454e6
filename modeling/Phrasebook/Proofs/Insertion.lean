import Phrasebook.Book.Update
import Mathlib.Data.List.Sort

/-!
# Inserting entries

Inserting an entry anywhere puts it between two parts of the entries that are
there already.  So inserting several entries one after the other keeps the
order of the old ones and adds each new one exactly once, whatever positions
are chosen.
-/

namespace Phrasebook.Book

theorem numberedPlaces_bounds {start position : Nat} {place : Place}
    {entries : List (List Place)} (numbered : (position, place) ∈ numberedPlaces start entries) :
    start ≤ position ∧ position < start + entries.length := by
  induction entries generalizing start with
  | nil => simp [numberedPlaces] at numbered
  | cons places entries ih =>
      rw [numberedPlaces, List.mem_append] at numbered
      rcases numbered with here | later
      · obtain ⟨_, _, equal⟩ := List.mem_map.mp here
        obtain ⟨rfl, rfl⟩ := Prod.mk.inj equal
        simp
      · have := ih later
        rw [List.length_cons]
        omega

/-- The fold behind `firstBest?` answers with the value it starts from or one of the list. -/
private theorem foldl_firstBest_mem {α : Type} {isBetter : α → α → Bool} {values : List α}
    {start? : Option α} {best : α}
    (found : values.foldl
      (fun best? value =>
        match best? with
        | none => some value
        | some best => if isBetter value best then some value else best?) start? = some best) :
    start? = some best ∨ best ∈ values := by
  induction values generalizing start? with
  | nil => exact .inl found
  | cons value values ih =>
      rw [List.foldl_cons] at found
      rcases ih found with chosen | later
      · cases start? with
        | none => simp_all
        | some former =>
            dsimp only at chosen
            split at chosen <;> simp_all
      · exact .inr (List.mem_cons_of_mem _ later)

theorem firstBest?_mem {α : Type} {isBetter : α → α → Bool} {values : List α} {best : α}
    (found : firstBest? isBetter values = some best) : best ∈ values := by
  rcases foldl_firstBest_mem found with absent | member
  · contradiction
  · exact member

/-- A position for an entry lies between the entries or at one of the two ends. -/
theorem positionFor_le_length (entries : List (List Place)) (place : Place) :
    positionFor entries place ≤ entries.length := by
  have bound {accepts : Nat × Place → Bool} {isBetter : Nat × Place → Nat × Place → Bool}
      {position : Nat} {other : Place}
      (found : firstBest? isBetter ((numberedPlaces 0 entries).filter accepts) =
        some (position, other)) : position < entries.length := by
    have := (numberedPlaces_bounds (List.mem_of_mem_filter (firstBest?_mem found))).2
    omega
  unfold positionFor
  dsimp only
  split
  · rename_i found
    rw [List.filter_filter] at found
    exact bound found
  · split
    · rename_i found
      exact Nat.le_of_lt (bound found)
    · split
      · rename_i found
        exact bound found
      · exact Nat.zero_le _

theorem insertIdx_eq_take_append_drop {α : Type} (value : α) {values : List α} {position : Nat}
    (bound : position ≤ values.length) :
    values.insertIdx position value =
      values.take position ++ value :: values.drop position := by
  induction position generalizing values with
  | zero => rfl
  | succ position ih =>
      cases values with
      | nil => simp at bound
      | cons first rest => simp [ih (Nat.le_of_succ_le_succ bound)]

/-- An inserted entry stands between two parts of the old entries. -/
theorem insertEntry_entries (append : Bool) (updated : Updated) (entry : Entry) :
    ∃ before after, updated.book.entries = before ++ after ∧
      (insertEntry append updated entry).book.entries = before ++ entry :: after ∧
      (append = true → after = []) := by
  unfold insertEntry
  cases append with
  | true => exact ⟨updated.book.entries, [], by simp, by simp, fun _ => rfl⟩
  | false =>
      have bound (place : Place) :
          positionFor (updated.book.entries.map (·.places)) place ≤
            updated.book.entries.length := by
        simpa using positionFor_le_length (updated.book.entries.map (·.places)) place
      have split (position : Nat) (inside : position ≤ updated.book.entries.length) :
          ∃ before after, updated.book.entries = before ++ after ∧
            updated.book.entries.insertIdx position entry = before ++ entry :: after ∧
            (false = true → after = []) :=
        ⟨_, _, (List.take_append_drop position _).symm,
          insertIdx_eq_take_append_drop entry inside, by simp⟩
      cases places : entry.places with
      | nil => exact split 0 (Nat.zero_le _)
      | cons place others => exact split _ (bound place)

section Fields

variable (append : Bool) (updated : Updated) (entry : Entry)

@[simp]
theorem insertEntry_added :
    (insertEntry append updated entry).added = updated.added ++ [entry.key] := by
  cases append <;> rfl

@[simp]
theorem insertEntry_deleted :
    (insertEntry append updated entry).deleted = updated.deleted := by
  cases append <;> rfl

@[simp]
theorem insertEntry_restored :
    (insertEntry append updated entry).restored = updated.restored := by
  cases append <;> rfl

@[simp]
theorem insertEntry_preamble :
    (insertEntry append updated entry).book.preamble = updated.book.preamble := by
  cases append <;> rfl

end Fields

/-- Insert several entries, one after the other. -/
def insertEntries (append : Bool) (updated : Updated) (entries : List Entry) : Updated :=
  entries.foldl (insertEntry append) updated

section Entries

variable (append : Bool) (updated : Updated) (entries : List Entry)

@[simp]
theorem insertEntries_nil : insertEntries append updated [] = updated :=
  rfl

theorem insertEntries_cons (entry : Entry) :
    insertEntries append updated (entry :: entries) =
      insertEntries append (insertEntry append updated entry) entries :=
  rfl

@[simp]
theorem insertEntries_added :
    (insertEntries append updated entries).added = updated.added ++ entries.map (·.key) := by
  induction entries generalizing updated with
  | nil => simp
  | cons entry entries ih => simp [insertEntries_cons, ih]

@[simp]
theorem insertEntries_deleted :
    (insertEntries append updated entries).deleted = updated.deleted := by
  induction entries generalizing updated with
  | nil => rfl
  | cons entry entries ih => simp [insertEntries_cons, ih]

@[simp]
theorem insertEntries_restored :
    (insertEntries append updated entries).restored = updated.restored := by
  induction entries generalizing updated with
  | nil => rfl
  | cons entry entries ih => simp [insertEntries_cons, ih]

@[simp]
theorem insertEntries_preamble :
    (insertEntries append updated entries).book.preamble = updated.book.preamble := by
  induction entries generalizing updated with
  | nil => rfl
  | cons entry entries ih => simp [insertEntries_cons, ih]

/-- The old entries keep their order among the new ones. -/
theorem sublist_insertEntries :
    updated.book.entries.Sublist (insertEntries append updated entries).book.entries := by
  induction entries generalizing updated with
  | nil => exact List.Sublist.refl _
  | cons entry entries ih =>
      obtain ⟨before, after, former, current, _⟩ := insertEntry_entries append updated entry
      have step : updated.book.entries.Sublist (insertEntry append updated entry).book.entries := by
        rw [former, current]
        exact List.Sublist.append_left (List.sublist_cons_self entry after) before
      exact step.trans (ih _)

/-- Nothing is lost and nothing but the inserted entries is added. -/
theorem insertEntries_perm :
    (insertEntries append updated entries).book.entries.Perm (updated.book.entries ++ entries) := by
  induction entries generalizing updated with
  | nil => simp
  | cons entry entries ih =>
      obtain ⟨before, after, former, current, _⟩ := insertEntry_entries append updated entry
      have step : (insertEntry append updated entry).book.entries.Perm
          (entry :: updated.book.entries) := by
        rw [former, current]
        exact List.perm_middle
      calc
        (insertEntries append (insertEntry append updated entry) entries).book.entries.Perm
            ((insertEntry append updated entry).book.entries ++ entries) := ih _
        List.Perm _ (entry :: updated.book.entries ++ entries) := step.append_right entries
        List.Perm _ (updated.book.entries ++ entry :: entries) := List.perm_middle.symm

/-- Appended entries stand behind the old ones, in the order in which they came. -/
theorem insertEntries_append :
    (insertEntries true updated entries).book.entries = updated.book.entries ++ entries := by
  induction entries generalizing updated with
  | nil => simp
  | cons entry entries ih =>
      rw [insertEntries_cons, ih]
      simp [insertEntry]

end Entries

end Phrasebook.Book
