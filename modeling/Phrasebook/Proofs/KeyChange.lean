import Phrasebook.Book.Rekey
import Phrasebook.Proofs.Outcome
import Mathlib.Data.List.Nodup

/-!
# Changing keys

A change of keys that is not refused gives every live entry the key that its
old one is mapped to and leaves everything else alone.  Since no two changes
share a target and no target is taken, distinct keys stay distinct: entries
can be told apart by their new keys as they could be by their old ones.
-/

namespace Phrasebook.Book

section Lookup

variable {α : Type} {fields : List (String × α)} {key : String} {value : α}

theorem lookup_of_mem (distinct : (fields.map (·.1)).Nodup) (fieldMem : (key, value) ∈ fields) :
    fields.lookup key = some value := by
  induction fields with
  | nil => simp at fieldMem
  | cons first rest ih =>
      obtain ⟨firstNew, restDistinct⟩ := List.nodup_cons.mp distinct
      rcases List.mem_cons.mp fieldMem with rfl | inRest
      · exact List.lookup_cons_self
      · have otherKey : key ≠ first.1 := fun same =>
          firstNew (List.mem_map.mpr ⟨(key, value), inRest, same⟩)
        rw [List.lookup_cons, beq_false_of_ne otherKey]
        exact ih restDistinct inRest

theorem lookup_eq_none_of_notMem (absent : key ∉ fields.map (·.1)) : fields.lookup key = none := by
  rw [List.lookup_eq_none_iff]
  intro field fieldMem
  exact bne_iff_ne.mpr fun same => absent (List.mem_map.mpr ⟨field, fieldMem, same.symm⟩)

end Lookup

/-! ## Changes -/

/-- The key that an entry has after a change of keys; a deleted entry keeps its key. -/
def newKey (keys : KeyMap) (entry : Entry) : String :=
  if entry.isDeleted then entry.key else (target? keys entry.key).getD entry.key

/-- The change of the key of an entry, if there is one. -/
def change? (keys : KeyMap) (entry : Entry) : Option (String × String) :=
  if entry.isDeleted then none
  else ((target? keys entry.key).filter (· != entry.key)).map fun target => (entry.key, target)

section Change

variable {keys : KeyMap} {entry : Entry}

theorem target?_eq_some_iff {key target : String} :
    target? keys key = some target ↔ keys.lookup key = some target ∧ target ≠ "" := by
  rw [target?, Option.filter_eq_some_iff]
  simp

theorem change?_eq_some_iff {change : String × String} :
    change? keys entry = some change ↔
      entry.isDeleted = false ∧ target? keys entry.key = some change.2 ∧
        change.2 ≠ entry.key ∧ change.1 = entry.key := by
  obtain ⟨key, target⟩ := change
  unfold change?
  cases entry.isDeleted with
  | true => simp
  | false =>
      simp only [Bool.false_eq_true, if_false, Option.map_eq_some_iff, Option.filter_eq_some_iff,
        Prod.mk.injEq, bne_iff_ne, true_and]
      constructor
      · rintro ⟨_, ⟨mapped, other⟩, rfl, rfl⟩
        exact ⟨mapped, other, rfl⟩
      · rintro ⟨mapped, other, rfl⟩
        exact ⟨target, ⟨mapped, other⟩, rfl, rfl⟩

theorem getD_change? : ((change? keys entry).map (·.2)).getD entry.key = newKey keys entry := by
  unfold change? newKey
  cases entry.isDeleted with
  | true => rfl
  | false =>
      cases target? keys entry.key with
      | none => rfl
      | some target =>
          by_cases same : target = entry.key
          · simp [Option.filter, same]
          · simp [Option.filter, same]

end Change

section Renames

variable {keys : KeyMap} {entries : List Entry}

/-- One entry whose key has not been changed yet is refused if it is live and not mapped; otherwise
its change, if there is one, comes after those before. -/
theorem renames_cons {entry : Entry} {changes : KeyMap}
    (fresh : changes.lookup entry.key = none) :
    renames keys (entry :: entries) changes =
      if !entry.isDeleted && (target? keys entry.key).isNone then .error (.notMapped entry.key)
      else renames keys entries (changes ++ (change? keys entry).toList) := by
  rw [renames, fresh]
  unfold change?
  cases entry.isDeleted with
  | true => simp
  | false =>
      cases target? keys entry.key with
      | none => simp
      | some target =>
          by_cases same : target = entry.key
          · simp [Option.filter, same]
          · simp [Option.filter, same]

/-- Where keys are distinct, the first live entry that is not mapped is refused; if all are mapped,
the changes are those of the live entries. -/
theorem renames_eq {changes : KeyMap} (distinct : (entries.map (·.key)).Nodup)
    (fresh : ∀ entry ∈ entries, changes.lookup entry.key = none) :
    renames keys entries changes =
      match entries.find? fun entry => !entry.isDeleted && (target? keys entry.key).isNone with
      | some entry => .error (.notMapped entry.key)
      | none => .ok (changes ++ entries.filterMap (change? keys)) := by
  induction entries generalizing changes with
  | nil => simp [renames]
  | cons entry entries ih =>
      obtain ⟨entryNew, restDistinct⟩ := List.nodup_cons.mp distinct
      obtain ⟨entryFresh, restFresh⟩ := List.forall_mem_cons.mp fresh
      have nextFresh (other : Entry) (otherMem : other ∈ entries) :
          (changes ++ (change? keys entry).toList).lookup other.key = none := by
        rw [List.lookup_append, restFresh other otherMem, Option.none_or]
        refine lookup_eq_none_of_notMem fun again => entryNew ?_
        obtain ⟨change, changeMem, sameKey⟩ := List.mem_map.mp again
        have ofEntry := (change?_eq_some_iff.mp (Option.mem_toList.mp changeMem)).2.2.2
        exact List.mem_map.mpr ⟨other, otherMem, sameKey.symm.trans ofEntry⟩
      rw [renames_cons entryFresh, List.find?_cons]
      cases !entry.isDeleted && (target? keys entry.key).isNone with
      | true => rfl
      | false =>
          rw [if_neg Bool.false_ne_true, ih restDistinct nextFresh]
          dsimp only
          cases entries.find? fun entry => !entry.isDeleted && (target? keys entry.key).isNone with
          | some refused => rfl
          | none => cases changed : change? keys entry <;> simp [changed]

theorem renames_eq_ok {changes result : KeyMap} (distinct : (entries.map (·.key)).Nodup)
    (fresh : ∀ entry ∈ entries, changes.lookup entry.key = none)
    (done : renames keys entries changes = .ok result) :
    result = changes ++ entries.filterMap (change? keys) ∧
      ∀ entry ∈ entries, entry.isDeleted = false → (target? keys entry.key).isSome = true := by
  rw [renames_eq distinct fresh] at done
  split at done
  · contradiction
  · rename_i allMapped
    obtain rfl := Except.ok.inj done
    refine ⟨rfl, fun entry entryMem live => ?_⟩
    have isMapped := List.find?_eq_none.mp allMapped entry entryMem
    simpa [live, Option.isSome_iff_ne_none] using isMapped

/-- The changed keys are among those of the entries, in their order. -/
theorem sublist_filterMap_change? (keys : KeyMap) (entries : List Entry) :
    ((entries.filterMap (change? keys)).map (·.1)).Sublist (entries.map (·.key)) := by
  induction entries with
  | nil => exact .refl _
  | cons entry entries ih =>
      rw [List.filterMap_cons]
      cases changed : change? keys entry with
      | none => exact ih.cons _
      | some change =>
          have sameKey : change.1 = entry.key := (change?_eq_some_iff.mp changed).2.2.2
          rw [List.map_cons, List.map_cons, sameKey]
          exact ih.cons_cons _

/-- Among the changes of entries with distinct keys, that of an entry is found by its key. -/
theorem lookup_filterMap_change? (distinct : (entries.map (·.key)).Nodup) {entry : Entry}
    (entryMem : entry ∈ entries) :
    (entries.filterMap (change? keys)).lookup entry.key = (change? keys entry).map (·.2) := by
  cases changed : change? keys entry with
  | some change =>
      have changeMem : change ∈ entries.filterMap (change? keys) :=
        List.mem_filterMap.mpr ⟨entry, entryMem, changed⟩
      rw [← (change?_eq_some_iff.mp changed).2.2.2]
      exact lookup_of_mem (distinct.sublist (sublist_filterMap_change? keys entries)) changeMem
  | none =>
      refine lookup_eq_none_of_notMem fun again => ?_
      obtain ⟨change, changeMem, sameKey⟩ := List.mem_map.mp again
      obtain ⟨other, otherMem, isChange⟩ := List.mem_filterMap.mp changeMem
      have otherKey : change.1 = other.key := (change?_eq_some_iff.mp isChange).2.2.2
      have same : other = entry :=
        List.inj_on_of_nodup_map distinct otherMem entryMem (otherKey.symm.trans sameKey)
      rw [same, changed] at isChange
      contradiction

theorem nodup_targets_of_sharedTarget?_eq_none {earlier changes : KeyMap}
    (unshared : sharedTarget? earlier changes = none) :
    (changes.map (·.2)).Nodup ∧
      ∀ change ∈ changes, ∀ other ∈ earlier, other.2 ≠ change.2 := by
  induction changes generalizing earlier with
  | nil => exact ⟨List.nodup_nil, nofun⟩
  | cons change changes ih =>
      obtain ⟨key, target⟩ := change
      rw [sharedTarget?] at unshared
      split at unshared
      · contradiction
      · rename_i notEarlier
        obtain ⟨distinct, apart⟩ := ih unshared
        have targetNew (other : String × String) (otherMem : other ∈ earlier) :
            other.2 ≠ target := by
          simpa using List.find?_eq_none.mp notEarlier other otherMem
        refine ⟨List.nodup_cons.mpr ⟨fun again => ?_, distinct⟩, ?_⟩
        · obtain ⟨other, otherMem, sameTarget⟩ := List.mem_map.mp again
          exact apart other otherMem (key, target) (by simp) sameTarget.symm
        · rintro other (_ | ⟨_, otherMem⟩) first firstMem
          · exact targetNew first firstMem
          · exact apart other otherMem first (List.mem_append_left _ firstMem)

theorem ne_target_of_takenTarget?_eq_none {changes : KeyMap}
    (free : takenTarget? entries changes = none) {change : String × String}
    (changeMem : change ∈ changes) {entry : Entry} (entryMem : entry ∈ entries)
    (unchanged : changes.lookup entry.key = none) : entry.key ≠ change.2 := by
  intro same
  have notTaken := List.find?_eq_none.mp (Option.map_eq_none_iff.mp free) change changeMem
  refine notTaken (List.contains_iff_mem.mpr (List.mem_filter.mpr ⟨?_, ?_⟩))
  · exact same ▸ List.mem_map_of_mem entryMem
  · simp [← same, unchanged]

end Renames

/-! ## Books -/

/-- What a change of keys does to a book with distinct keys. -/
structure KeyChange (keys : KeyMap) (book renamed : Book) : Prop where
  eq : renamed = { book with
    entries := book.entries.map fun entry => { entry with key := newKey keys entry } }
  /-- Every live entry has a new key. -/
  isMapped : ∀ entry ∈ book.entries, entry.isDeleted = false →
    keys.lookup entry.key = some (newKey keys entry)
  distinct : renamed.keys.Nodup

/-- Distinct keys stay distinct where no target is shared or taken. -/
theorem newKey_injective {keys : KeyMap} {entries : List Entry}
    (distinct : (entries.map (·.key)).Nodup)
    (unshared : sharedTarget? [] (entries.filterMap (change? keys)) = none)
    (free : takenTarget? entries (entries.filterMap (change? keys)) = none) {entry other : Entry}
    (entryMem : entry ∈ entries) (otherMem : other ∈ entries)
    (same : newKey keys entry = newKey keys other) : entry = other := by
  have found (one : Entry) (oneMem : one ∈ entries) :
      (entries.filterMap (change? keys)).lookup one.key = (change? keys one).map (·.2) :=
    lookup_filterMap_change? distinct oneMem
  have isMem {one : Entry} {change : String × String} (oneMem : one ∈ entries)
      (isChange : change? keys one = some change) : change ∈ entries.filterMap (change? keys) :=
    List.mem_filterMap.mpr ⟨one, oneMem, isChange⟩
  rw [← getD_change?, ← getD_change?] at same
  cases entryChange : change? keys entry with
  | none =>
      cases otherChange : change? keys other with
      | none =>
          rw [entryChange, otherChange] at same
          exact List.inj_on_of_nodup_map distinct entryMem otherMem same
      | some change =>
          rw [entryChange, otherChange] at same
          exact absurd same (ne_target_of_takenTarget?_eq_none free (isMem otherMem otherChange)
            entryMem (by rw [found entry entryMem, entryChange]; rfl))
  | some change =>
      cases otherChange : change? keys other with
      | none =>
          rw [entryChange, otherChange] at same
          exact absurd same.symm (ne_target_of_takenTarget?_eq_none free
            (isMem entryMem entryChange) otherMem (by rw [found other otherMem, otherChange]; rfl))
      | some otherChanged =>
          rw [entryChange, otherChange] at same
          have sameChange : change = otherChanged :=
            List.inj_on_of_nodup_map (nodup_targets_of_sharedTarget?_eq_none unshared).1
              (isMem entryMem entryChange) (isMem otherMem otherChange) same
          have entryKey := (change?_eq_some_iff.mp entryChange).2.2.2
          have otherKey := (change?_eq_some_iff.mp otherChange).2.2.2
          exact List.inj_on_of_nodup_map distinct entryMem otherMem
            (by rw [← entryKey, sameChange, otherKey])

theorem keyChange_of_rekey {book renamed : Book} {keys changes : KeyMap}
    (distinct : book.keys.Nodup) (done : book.rekey keys = .ok (renamed, changes)) :
    KeyChange keys book renamed := by
  obtain ⟨found, isFound, done⟩ := bind_eq_ok_iff.mp done
  obtain ⟨rfl, mapped⟩ := renames_eq_ok distinct (fun _ _ => rfl) isFound
  rw [List.nil_append] at done
  split at done
  · contradiction
  · rename_i unshared
    split at done
    · contradiction
    · rename_i free
      obtain ⟨rfl, rfl⟩ := Prod.mk.inj (Except.ok.inj done)
      have renamed : (book.entries.map fun entry => { entry with
            key := ((book.entries.filterMap (change? keys)).lookup entry.key).getD entry.key }) =
          book.entries.map fun entry => { entry with key := newKey keys entry } := by
        refine List.map_congr_left fun entry entryMem => ?_
        rw [lookup_filterMap_change? distinct entryMem, getD_change?]
      refine ⟨by rw [renamed], fun entry entryMem live => ?_, ?_⟩
      · obtain ⟨target, isTarget⟩ := Option.isSome_iff_exists.mp (mapped entry entryMem live)
        rw [newKey, live, isTarget]
        exact (target?_eq_some_iff.mp isTarget).1
      · dsimp only [Book.keys]
        rw [renamed, List.map_map]
        refine List.Nodup.map_on (fun entry entryMem other otherMem same => ?_)
          (List.Nodup.of_map _ distinct)
        exact newKey_injective distinct unshared free entryMem otherMem same

/-! ## Maps of keys -/

/-- Pairs of phrases that agree give a map from the keys on the left to those on the right. -/
theorem lookup_matchKeys {pairs : List (Phrase × Phrase)} {keys result : KeyMap}
    (done : matchKeys pairs keys = .ok result) :
    (∀ key target, keys.lookup key = some target → result.lookup key = some target) ∧
      ∀ pair ∈ pairs, result.lookup pair.1.key = some pair.2.key := by
  induction pairs generalizing keys with
  | nil =>
      obtain rfl := Except.ok.inj done
      exact ⟨fun _ _ => id, nofun⟩
  | cons pair pairs ih =>
      obtain ⟨before, after⟩ := pair
      rw [matchKeys] at done
      split at done
      · rename_i isNew
        obtain ⟨kept, agrees⟩ := ih done
        have found : result.lookup before.key = some after.key := by
          refine kept _ _ ?_
          rw [List.lookup_append, isNew]
          simp
        refine ⟨fun key target isTarget => kept key target ?_, List.forall_mem_cons.mpr ⟨found, agrees⟩⟩
        rw [List.lookup_append, isTarget]
        rfl
      · rename_i target isTarget
        split at done
        · rename_i same
          obtain ⟨kept, agrees⟩ := ih done
          rw [beq_iff_eq.mp same] at isTarget
          exact ⟨kept, List.forall_mem_cons.mpr ⟨kept _ _ isTarget, agrees⟩⟩
        · contradiction

/-- Pairs give a map of keys if no key is paired with two. -/
theorem exists_matchKeys {pairs : List (Phrase × Phrase)} {keys : KeyMap}
    (agree : ∀ pair ∈ pairs, ∀ other ∈ pairs, pair.1.key = other.1.key → pair.2.key = other.2.key)
    (kept : ∀ pair ∈ pairs, ∀ target, keys.lookup pair.1.key = some target →
      target = pair.2.key) :
    ∃ result, matchKeys pairs keys = .ok result := by
  induction pairs generalizing keys with
  | nil => exact ⟨keys, rfl⟩
  | cons pair pairs ih =>
      obtain ⟨before, after⟩ := pair
      obtain ⟨keptFirst, keptOthers⟩ := List.forall_mem_cons.mp kept
      have agreeOthers : ∀ pair ∈ pairs, ∀ other ∈ pairs,
          pair.1.key = other.1.key → pair.2.key = other.2.key :=
        fun pair pairMem other otherMem =>
          agree pair (List.mem_cons_of_mem _ pairMem) other (List.mem_cons_of_mem _ otherMem)
      rw [matchKeys]
      cases found : keys.lookup before.key with
      | some target =>
          have same : (target == after.key) = true := beq_iff_eq.mpr (keptFirst target found)
          dsimp only
          rw [if_pos same]
          exact ih agreeOthers keptOthers
      | none =>
          refine ih agreeOthers fun other otherMem target isTarget => ?_
          rw [List.lookup_append] at isTarget
          rcases Option.or_eq_some_iff.mp isTarget with inKeys | ⟨_, isNew⟩
          · exact keptOthers other otherMem target inKeys
          · by_cases sameKey : other.1.key = before.key
            · rw [sameKey, List.lookup_cons_self] at isNew
              rw [← Option.some.inj isNew]
              exact agree (before, after) List.mem_cons_self other
                (List.mem_cons_of_mem _ otherMem) sameKey.symm
            · rw [List.lookup_cons, beq_false_of_ne sameKey] at isNew
              contradiction

/-- Pairs give a map of keys if and only if no key is paired with two. -/
theorem exists_matchKeys_iff {pairs : List (Phrase × Phrase)} :
    (∃ keys, matchKeys pairs [] = .ok keys) ↔
      ∀ pair ∈ pairs, ∀ other ∈ pairs, pair.1.key = other.1.key →
        pair.2.key = other.2.key := by
  constructor
  · rintro ⟨keys, done⟩ pair pairMem other otherMem sameKey
    have found := (lookup_matchKeys done).2
    have isTarget := found pair pairMem
    rw [sameKey, found other otherMem] at isTarget
    exact (Option.some.inj isTarget).symm
  · exact fun agree => exists_matchKeys agree nofun

end Phrasebook.Book
