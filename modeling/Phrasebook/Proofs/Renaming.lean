import Phrasebook.Proofs.History

/-!
# Changes of keys as a whole

A change of keys renames all live entries at once or none of them.  It is
refused exactly if a live entry has no new key or if two entries would have the
same one, and each refusal names what is to blame.
-/

namespace Phrasebook.Book

/-! ## Changes -/

section Changes

variable {keys : KeyMap} {entries : List Entry}

/-- An entry changes if its new key is another one. -/
theorem change?_eq (keys : KeyMap) (entry : Entry) :
    change? keys entry =
      if newKey keys entry = entry.key then none else some (entry.key, newKey keys entry) := by
  unfold change? newKey
  cases entry.isDeleted with
  | true => simp
  | false =>
      cases target? keys entry.key with
      | none => simp
      | some target => by_cases same : target = entry.key <;> simp [Option.filter, same]

theorem filterMap_change?_eq (keys : KeyMap) (entries : List Entry) :
    entries.filterMap (change? keys) =
      (entries.filter fun entry => newKey keys entry != entry.key).map fun entry =>
        (entry.key, newKey keys entry) := by
  induction entries with
  | nil => rfl
  | cons entry entries ih =>
      rw [List.filterMap_cons, List.filter_cons, change?_eq, ih]
      by_cases same : newKey keys entry = entry.key <;> simp [same]

theorem exists_entry_of_mem_changes {change : String × String}
    (changeMem : change ∈ entries.filterMap (change? keys)) :
    ∃ entry ∈ entries, change = (entry.key, newKey keys entry) := by
  rw [filterMap_change?_eq] at changeMem
  obtain ⟨entry, entryMem, rfl⟩ := List.mem_map.mp changeMem
  exact ⟨entry, List.mem_of_mem_filter entryMem, rfl⟩

/-- Two changes, one behind the other, are refused for a target that they share. -/
theorem exists_of_sharedTarget?_eq_some {earlier changes : KeyMap} {fault : RekeyFault}
    (shared : sharedTarget? earlier changes = some fault) :
    ∃ first second target, fault = .sameTarget first second target ∧
      [(first, target), (second, target)].Sublist (earlier ++ changes) := by
  induction changes generalizing earlier with
  | nil => contradiction
  | cons change changes ih =>
      obtain ⟨key, target⟩ := change
      rw [sharedTarget?] at shared
      split at shared
      · rename_i first other found
        obtain rfl := Option.some.inj shared
        have isTarget : other = target := by simpa using List.find?_some found
        have isEarlier := List.mem_of_find?_eq_some found
        rw [isTarget] at isEarlier
        refine ⟨first, key, target, rfl, ?_⟩
        exact (List.singleton_sublist.mpr isEarlier).append
          (List.singleton_sublist.mpr List.mem_cons_self)
      · obtain ⟨first, second, other, isFault, sublist⟩ := ih shared
        refine ⟨first, second, other, isFault, ?_⟩
        rwa [List.append_assoc] at sublist

theorem exists_of_takenTarget?_eq_some {changes : KeyMap} {fault : RekeyFault}
    (taken : takenTarget? entries changes = some fault) :
    ∃ key, ∃ entry ∈ entries, fault = .taken key entry.key ∧ (key, entry.key) ∈ changes ∧
      changes.lookup entry.key = none := by
  obtain ⟨⟨key, target⟩, found, rfl⟩ := Option.map_eq_some_iff.mp taken
  have isUntouched := List.find?_some found
  obtain ⟨keyMem, isNone⟩ := List.mem_filter.mp (List.contains_iff_mem.mp isUntouched)
  obtain ⟨entry, entryMem, rfl⟩ := List.mem_map.mp keyMem
  exact ⟨key, entry, entryMem, rfl, List.mem_of_find?_eq_some found,
    Option.isNone_iff_eq_none.mp isNone⟩

end Changes

/-! ## Refusals -/

/-- What is to blame if a change of keys is refused. -/
inductive Blames (keys : KeyMap) (entries : List Entry) : RekeyFault → Prop
  /-- A live entry has no new key. -/
  | notMapped {entry : Entry} : entry ∈ entries → entry.isDeleted = false →
      target? keys entry.key = none → Blames keys entries (.notMapped entry.key)
  /-- Two entries would have the same new key. -/
  | sameTarget {first second : Entry} : first ∈ entries → second ∈ entries →
      first.key ≠ second.key → newKey keys first = newKey keys second →
      Blames keys entries (.sameTarget first.key second.key (newKey keys first))
  /-- An entry would have the key that another one has and keeps. -/
  | taken {entry other : Entry} : entry ∈ entries → other ∈ entries → entry.key ≠ other.key →
      newKey keys other = other.key → newKey keys entry = other.key →
      Blames keys entries (.taken entry.key other.key)

section Refusals

variable {keys : KeyMap} {entries : List Entry} {fault : RekeyFault}

theorem blames_of_sharedTarget? (distinct : (entries.map (·.key)).Nodup)
    (shared : sharedTarget? [] (entries.filterMap (change? keys)) = some fault) :
    Blames keys entries fault := by
  obtain ⟨first, second, target, rfl, sublist⟩ := exists_of_sharedTarget?_eq_some shared
  rw [List.nil_append] at sublist
  have keysSublist := (sublist.map (·.1)).trans (sublist_filterMap_change? keys entries)
  have differ : first ≠ second := by simpa using distinct.sublist keysSublist
  obtain ⟨one, oneMem, isOne⟩ := exists_entry_of_mem_changes (sublist.subset List.mem_cons_self)
  obtain ⟨other, otherMem, isOther⟩ :=
    exists_entry_of_mem_changes (sublist.subset (List.mem_cons_of_mem _ List.mem_cons_self))
  obtain ⟨rfl, oneKey⟩ := Prod.mk.inj isOne
  obtain ⟨rfl, otherKey⟩ := Prod.mk.inj isOther
  rw [oneKey]
  exact .sameTarget oneMem otherMem differ (oneKey.symm.trans otherKey)

theorem blames_of_takenTarget? (distinct : (entries.map (·.key)).Nodup)
    (taken : takenTarget? entries (entries.filterMap (change? keys)) = some fault) :
    Blames keys entries fault := by
  obtain ⟨key, other, otherMem, rfl, changeMem, isNone⟩ := exists_of_takenTarget?_eq_some taken
  obtain ⟨entry, entryMem, isChange⟩ := exists_entry_of_mem_changes changeMem
  obtain ⟨rfl, isTarget⟩ := Prod.mk.inj isChange
  have unchanged : newKey keys other = other.key := by
    rw [← getD_change?, ← lookup_filterMap_change? distinct otherMem, isNone]
    rfl
  have differ : entry.key ≠ other.key := by
    intro same
    rw [← same, lookup_of_mem
      (distinct.sublist (sublist_filterMap_change? keys entries)) changeMem] at isNone
    contradiction
  exact .taken entryMem otherMem differ unchanged isTarget.symm

/-- Every refusal names what is to blame. -/
theorem blames_of_rekey {book : Book} (distinct : book.keys.Nodup)
    (refused : book.rekey keys = .error fault) : Blames keys book.entries fault := by
  unfold rekey at refused
  rw [renames_eq distinct fun _ _ => rfl] at refused
  cases found : book.entries.find? fun entry =>
      !entry.isDeleted && (target? keys entry.key).isNone with
  | some entry =>
      rw [found] at refused
      obtain rfl := Except.error.inj refused
      obtain ⟨live, unmapped⟩ : entry.isDeleted = false ∧ target? keys entry.key = none := by
        simpa using List.find?_some found
      exact .notMapped (List.mem_of_find?_eq_some found) live unmapped
  | none =>
      rw [found] at refused
      dsimp only [bind, Except.bind, List.nil_append] at refused
      split at refused
      · rename_i shared
        obtain rfl := Except.error.inj refused
        exact blames_of_sharedTarget? distinct shared
      · split at refused
        · rename_i taken
          obtain rfl := Except.error.inj refused
          exact blames_of_takenTarget? distinct taken
        · contradiction

/-- Where something is to blame, a live entry has no new key or new keys are not distinct. -/
theorem Blames.cases (blames : Blames keys entries fault) :
    (∃ entry ∈ entries, entry.isDeleted = false ∧ target? keys entry.key = none) ∨
      ¬ (entries.map (newKey keys)).Nodup := by
  have notDistinct {one other : Entry} (oneMem : one ∈ entries) (otherMem : other ∈ entries)
      (differ : one.key ≠ other.key) (same : newKey keys one = newKey keys other) :
      ¬ (entries.map (newKey keys)).Nodup := by
    intro distinct
    exact differ (congrArg Entry.key (List.inj_on_of_nodup_map distinct oneMem otherMem same))
  cases blames with
  | @notMapped entry entryMem live unmapped => exact .inl ⟨entry, entryMem, live, unmapped⟩
  | sameTarget oneMem otherMem differ same => exact .inr (notDistinct oneMem otherMem differ same)
  | taken oneMem otherMem differ unchanged same =>
      exact .inr (notDistinct oneMem otherMem differ (same.trans unchanged.symm))

end Refusals

/-! ## The whole change -/

/-- What a change of keys does to a book. -/
structure IsRenaming (keys : KeyMap) (book : Book) : Prop where
  /-- It is refused exactly if a live entry has no new key, an empty one being none, or if two
  entries would have the same key. -/
  refused_iff : (∃ fault, book.rekey keys = .error fault) ↔
    (∃ entry ∈ book.entries, entry.isDeleted = false ∧
      (keys.lookup entry.key = none ∨ keys.lookup entry.key = some "")) ∨
    ¬ (book.entries.map (newKey keys)).Nodup
  /-- If it is refused, the book stays as it is, and the refusal names what is to blame. -/
  unchanged : ∀ fault, book.rekey keys = .error fault →
    (Action.rekey keys).apply book = book ∧ Blames keys book.entries fault
  /-- If not, every live entry has the key that its old one is mapped to, all else is as it was,
  and the changes are those of the keys that are not mapped to themselves. -/
  renamed : ∀ renamed changes, book.rekey keys = .ok (renamed, changes) →
    renamed = { book with
      entries := book.entries.map fun entry => { entry with key := newKey keys entry } } ∧
    (∀ entry ∈ book.entries, entry.isDeleted = false →
      keys.lookup entry.key = some (newKey keys entry)) ∧
    changes = (book.entries.filter fun entry => newKey keys entry != entry.key).map fun entry =>
      (entry.key, newKey keys entry)

section Renaming

variable {keys : KeyMap} {book : Book}

theorem target?_eq_none_iff {key : String} :
    target? keys key = none ↔ keys.lookup key = none ∨ keys.lookup key = some "" := by
  unfold target?
  cases keys.lookup key with
  | none => simp
  | some target => simp [Option.filter]

theorem changes_of_rekey {renamed : Book} {changes : KeyMap} (distinct : book.keys.Nodup)
    (done : book.rekey keys = .ok (renamed, changes)) :
    changes = book.entries.filterMap (change? keys) ∧
      ∀ entry ∈ book.entries, entry.isDeleted = false → target? keys entry.key ≠ none := by
  obtain ⟨found, isFound, done⟩ := bind_eq_ok_iff.mp done
  obtain ⟨rfl, mapped⟩ := renames_eq_ok distinct (fun _ _ => rfl) isFound
  refine ⟨?_, fun entry entryMem live => Option.isSome_iff_ne_none.mp (mapped entry entryMem live)⟩
  rw [List.nil_append] at done
  split at done
  · contradiction
  · split at done
    · contradiction
    · exact (Prod.mk.inj (Except.ok.inj done)).2.symm

/-- A change of keys renames all live entries at once, or else none. -/
theorem isRenaming_rekey (distinct : book.keys.Nodup) (keys : KeyMap) : IsRenaming keys book where
  refused_iff := by
    simp only [← target?_eq_none_iff]
    constructor
    · rintro ⟨fault, refused⟩
      exact (blames_of_rekey distinct refused).cases
    · intro reason
      cases outcome : book.rekey keys with
      | error fault => exact ⟨fault, rfl⟩
      | ok result =>
          rcases reason with ⟨entry, entryMem, live, unmapped⟩ | shared
          · exact absurd unmapped ((changes_of_rekey distinct outcome).2 entry entryMem live)
          · have change := keyChange_of_rekey distinct outcome
            have distinctLater := change.distinct
            rw [change.eq, Book.keys, List.map_map] at distinctLater
            exact absurd distinctLater shared
  unchanged fault refused := by
    refine ⟨?_, blames_of_rekey distinct refused⟩
    simp only [Action.apply, refused]
  renamed renamed changes done := by
    have change := keyChange_of_rekey distinct done
    refine ⟨change.eq, change.isMapped, ?_⟩
    rw [(changes_of_rekey distinct done).1, filterMap_change?_eq]

/-- Two keys are swapped, and an entry that is deleted keeps its key; the second map gives a live
entry the key of the deleted one. -/
theorem isRenaming_swapped_keys :
    let book : Book := {
      preamble := ""
      entries := [{ key := "a" }, { key := "gone", isDeleted := true }, { key := "b" }] }
    let swap : KeyMap := [("a", "b"), ("b", "a")]
    let clash : KeyMap := [("a", "gone"), ("b", "b")]
    book.keys.Nodup ∧ IsRenaming swap book ∧ IsRenaming clash book ∧
      (book.rekey swap).toOption.map (·.1.keys) = some ["b", "gone", "a"] ∧
      book.rekey clash = .error (.taken "a" "gone") := by
  intro book swap clash
  have distinct : book.keys.Nodup := by decide
  exact ⟨distinct, isRenaming_rekey distinct swap, isRenaming_rekey distinct clash, by decide,
    by decide⟩

end Renaming

end Phrasebook.Book
