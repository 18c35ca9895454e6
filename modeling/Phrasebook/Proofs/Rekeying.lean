import Phrasebook.Proofs.KeyChange
import Phrasebook.Proofs.Observation
import Phrasebook.Proofs.UpdateReturn

/-!
# Changing keys changes nothing else

A map from the keys of phrases under one version of the normal form to those
under another carries every observation over, because both come from the same
elements at the same places.  A book that was up to date before a change of keys
is therefore up to date after it.
-/

namespace Phrasebook.Book

open Phrase (Origin)

/-! ## Observations under new keys -/

/-- A map of keys under which every observation is also one of the other kind. -/
structure Carries (keys : KeyMap) (before after : Observed) : Prop where
  isScanned_iff : ∀ path, IsScanned before path ↔ IsScanned after path
  forth : ∀ key place, IsObservedAt before key place →
    ∃ target, keys.lookup key = some target ∧ IsObservedAt after target place
  back : ∀ target place, IsObservedAt after target place →
    ∃ key, keys.lookup key = some target ∧ IsObservedAt before key place

section Carries

variable {before after : Observed} {keys : KeyMap}

/-- Phrases that go with each other in files that go with each other are mapped to each other. -/
theorem lookup_keyMapOf (same : List.Forall₂ IsSameFile before after)
    (distinct : (after.map (·.1)).Nodup) (done : keyMapOf before after = .ok keys)
    {old new : String × List Phrase} (fileMem : (old, new) ∈ before.zip after)
    {one other : Phrase} (pairMem : (one, other) ∈ old.2.zip new.2) :
    keys.lookup one.key = some other.key := by
  refine (lookup_matchKeys done).2 (one, other) (List.mem_flatMap.mpr ⟨old, ?_, ?_⟩)
  · exact (List.of_mem_zip fileMem).1
  · have samePath : old.1 = new.1 := (List.forall₂_zip same fileMem).1
    have found : after.lookup old.1 = some new.2 := by
      rw [samePath]
      exact lookup_of_mem distinct (List.of_mem_zip fileMem).2
    simpa only [found, Option.getD_some] using pairMem

theorem carries_keyMapOf (same : List.Forall₂ IsSameFile before after)
    (distinct : (after.map (·.1)).Nodup) (done : keyMapOf before after = .ok keys) :
    Carries keys before after where
  isScanned_iff path := by
    constructor
    · intro scanned
      obtain ⟨old, oldMem, rfl⟩ := List.mem_map.mp scanned
      obtain ⟨new, newMem, _, samePath, _⟩ := exists_mem_zip_left same oldMem
      exact List.mem_map.mpr ⟨new, newMem, samePath.symm⟩
    · intro scanned
      obtain ⟨new, newMem, rfl⟩ := List.mem_map.mp scanned
      obtain ⟨old, oldMem, _, samePath, _⟩ := exists_mem_zip_right same newMem
      exact List.mem_map.mpr ⟨old, oldMem, samePath⟩
  forth key place := by
    rintro ⟨old, oldMem, one, oneMem, rfl, rfl⟩
    obtain ⟨new, newMem, fileMem, samePath, samePhrases⟩ := exists_mem_zip_left same oldMem
    obtain ⟨other, otherMem, pairMem, sameLine⟩ := exists_mem_zip_left samePhrases oneMem
    exact ⟨other.key, lookup_keyMapOf same distinct done fileMem pairMem,
      new, newMem, other, otherMem, rfl, by rw [samePath, sameLine]⟩
  back target place := by
    rintro ⟨new, newMem, other, otherMem, rfl, rfl⟩
    obtain ⟨old, oldMem, fileMem, samePath, samePhrases⟩ := exists_mem_zip_right same newMem
    obtain ⟨one, oneMem, pairMem, sameLine⟩ := exists_mem_zip_right samePhrases otherMem
    exact ⟨one.key, lookup_keyMapOf same distinct done fileMem pairMem,
      old, oldMem, one, oneMem, rfl, by rw [samePath, sameLine]⟩

end Carries

/-! ## Books with new keys -/

section Renamed

variable {before after : Observed} {keys : KeyMap} {exists? : String → Bool} {book renamed : Book}

theorem IsSettled.isDeleted_eq_false {entry : Entry} {place : Place}
    (settled : IsSettled before exists? entry) (observedAt : IsObservedAt before entry.key place) :
    entry.isDeleted = false := by
  rw [settled.isDeleted, List.isEmpty_eq_false_iff]
  exact List.ne_nil_of_mem (settled.complete place observedAt)

theorem newKey_of_isObservedAt (change : KeyChange keys book renamed) {entry : Entry}
    (entryMem : entry ∈ book.entries) (settled : IsSettled before exists? entry) {place : Place}
    (observedAt : IsObservedAt before entry.key place) {target : String}
    (isTarget : keys.lookup entry.key = some target) : newKey keys entry = target := by
  have mapped := change.isMapped entry entryMem (settled.isDeleted_eq_false observedAt)
  exact Option.some.inj (mapped.symm.trans isTarget)

/-- Under the new keys the book knows what is observed. -/
theorem knows_renamed (carries : Carries keys before after) (change : KeyChange keys book renamed)
    (known : book.Knows before) (settled : ∀ entry ∈ book.entries, IsSettled before exists? entry) :
    renamed.Knows after := by
  intro file fileMem phrase phraseMem
  obtain ⟨key, isTarget, observedAt⟩ := carries.back phrase.key ⟨file.1, phrase.place.line⟩
    ⟨file, fileMem, phrase, phraseMem, rfl, rfl⟩
  have keyMem : key ∈ book.keys := by
    obtain ⟨old, oldMem, one, oneMem, rfl, _⟩ := observedAt
    exact known old oldMem one oneMem
  obtain ⟨entry, entryMem, rfl⟩ := List.mem_map.mp keyMem
  rw [← newKey_of_isObservedAt change entryMem (settled entry entryMem) observedAt isTarget]
  rw [change.eq, Book.keys, List.map_map]
  exact List.mem_map.mpr ⟨entry, entryMem, rfl⟩

/-- Under its new key an entry is as settled as under its old one. -/
theorem isSettled_renamed (carries : Carries keys before after)
    (change : KeyChange keys book renamed) (known : book.Knows before)
    (settled : ∀ entry ∈ book.entries, IsSettled before exists? entry) {entry : Entry}
    (entryMem : entry ∈ book.entries) :
    IsSettled after exists? { entry with key := newKey keys entry } where
  sorted := (settled entry entryMem).sorted
  justified place placeMem := by
    rw [← carries.isScanned_iff]
    refine ((settled entry entryMem).justified place placeMem).imp_right fun observedAt => ?_
    obtain ⟨target, isTarget, observedThere⟩ := carries.forth _ _ observedAt
    dsimp only
    rwa [newKey_of_isObservedAt change entryMem (settled entry entryMem) observedAt isTarget]
  complete place observedAt := by
    obtain ⟨key, isTarget, observedBefore⟩ := carries.back _ _ observedAt
    have keyMem : key ∈ book.keys := by
      obtain ⟨old, oldMem, one, oneMem, rfl, _⟩ := observedBefore
      exact known old oldMem one oneMem
    obtain ⟨other, otherMem, rfl⟩ := List.mem_map.mp keyMem
    have sameKey : newKey keys other = newKey keys entry :=
      newKey_of_isObservedAt change otherMem (settled other otherMem) observedBefore isTarget
    have distinct : (book.entries.map (newKey keys)).Nodup := by
      have distinct := change.distinct
      rwa [change.eq, Book.keys, List.map_map] at distinct
    have same : other = entry := List.inj_on_of_nodup_map distinct otherMem entryMem sameKey
    rw [← same]
    exact (settled other otherMem).complete place observedBefore
  isDeleted := (settled entry entryMem).isDeleted

end Renamed

/-- An entry before and after a change of keys. -/
inductive IsRekeyed (keys : KeyMap) : Entry → Entry → Prop
  | deleted {entry : Entry} : entry.isDeleted = true → IsRekeyed keys entry entry
  | live {entry : Entry} {target : String} : entry.isDeleted = false →
      keys.lookup entry.key = some target → IsRekeyed keys entry { entry with key := target }

theorem KeyChange.isRekeyed {keys : KeyMap} {book renamed : Book}
    (change : KeyChange keys book renamed) :
    List.Forall₂ (IsRekeyed keys) book.entries renamed.entries := by
  rw [change.eq, List.forall₂_map_right_iff, List.forall₂_same]
  intro entry entryMem
  by_cases deleted : entry.isDeleted = true
  · have kept : newKey keys entry = entry.key := if_pos deleted
    rw [kept]
    exact .deleted deleted
  · have live : entry.isDeleted = false := Bool.eq_false_of_not_eq_true deleted
    exact .live live (change.isMapped entry entryMem live)

/-- An update that leaves a book with its entries rekeyed and otherwise as it was. -/
structure ChangesKeysOnly (keys : KeyMap) (former : Book) (updated : Updated) : Prop where
  added : updated.added = []
  deleted : updated.deleted = []
  restored : updated.restored = []
  preamble : updated.book.preamble = former.preamble
  path? : updated.book.path? = former.path?
  entries : List.Forall₂ (IsRekeyed keys) former.entries updated.book.entries

section Rekeying

variable {book renamed : Book} {tag : String} {old new : Int} {origins : List Origin}
  {before after : Observed} {keys changes : KeyMap} {options others : UpdateOptions}
  {exists? : String → Bool}

/-- Where a book is up to date with sources under one version of the normal form, and its keys
are changed to those under another, an update under that version has nothing left to do. -/
theorem changesKeysOnly_update (distinct : book.keys.Nodup)
    (flags : options.keepsFlags = false) (otherFlags : others.keepsFlags = false)
    (oldDone : collected tag old origins = .ok before)
    (newDone : collected tag new origins = .ok after) (keyed : keyMapOf before after = .ok keys)
    (done : (book.update before options exists?).book.rekey keys = .ok (renamed, changes)) :
    ChangesKeysOnly keys (book.update before options exists?).book
      (renamed.update after others exists?) := by
  have change : KeyChange keys (book.update before options exists?).book renamed :=
    keyChange_of_rekey (nodup_update_keys book before options exists? distinct) done
  have carries : Carries keys before after :=
    carries_keyMapOf (isSameFile_of_collected oldDone newDone) (nodup_path_of_collected newDone)
      keyed
  have settled : ∀ entry ∈ (book.update before options exists?).book.entries,
      IsSettled before exists? entry := fun _ => isSettled_of_mem_update flags
  have nothing : ChangesNothing renamed (renamed.update after others exists?) := by
    refine changesNothing_update otherFlags
      (knows_renamed carries change knows_update settled) fun entry entryMem => ?_
    rw [change.eq] at entryMem
    obtain ⟨former, formerMem, rfl⟩ := List.mem_map.mp entryMem
    exact isSettled_renamed carries change knows_update settled formerMem
  exact {
    added := nothing.added
    deleted := nothing.deleted
    restored := nothing.restored
    preamble := by rw [nothing.book, change.eq]
    path? := by rw [nothing.book, change.eq]
    entries := by
      rw [nothing.book]
      exact change.isRekeyed }

/-- A book, a source with a phrase of two lines and a file that is gone: the keys of the phrase
under the two versions differ, and only its key is changed. -/
theorem changesKeysOnly_two_lines :
    let book : Book := {
      preamble := ""
      entries := [{ key := "gone", places := [⟨"old", 2⟩] }] }
    let origins : List Origin := [⟨"f", Text.Source.ofString "<T>a\nb</T>"⟩]
    let exists? (path : String) : Bool := path == "f"
    ∃ before after keys renamed changes,
      book.keys.Nodup ∧ collected "T" 0 origins = .ok before ∧
      collected "T" 1 origins = .ok after ∧ keyMapOf before after = .ok keys ∧
      (book.update before {} exists?).book.rekey keys = .ok (renamed, changes) ∧
      changes.length = 1 ∧
      ChangesKeysOnly keys (book.update before {} exists?).book
        (renamed.update after {} exists?) := by
  intro book origins exists?
  have run : ((do
      let before ← (collected "T" 0 origins).toOption
      let after ← (collected "T" 1 origins).toOption
      let keys ← (keyMapOf before after).toOption
      let changed ← ((book.update before {} exists?).book.rekey keys).toOption
      return changed.2.length) : Option Nat) = some 1 := by decide +kernel
  obtain ⟨before, isBefore, run⟩ := Option.bind_eq_some_iff.mp run
  obtain ⟨after, isAfter, run⟩ := Option.bind_eq_some_iff.mp run
  obtain ⟨keys, isKeys, run⟩ := Option.bind_eq_some_iff.mp run
  obtain ⟨⟨renamed, changes⟩, isChanged, run⟩ := Option.bind_eq_some_iff.mp run
  have oldDone := toOption_eq_some_iff.mp isBefore
  have newDone := toOption_eq_some_iff.mp isAfter
  have keyed := toOption_eq_some_iff.mp isKeys
  have done := toOption_eq_some_iff.mp isChanged
  have changed : changes.length = 1 := Option.some.inj run
  have distinct : book.keys.Nodup := by decide
  exact ⟨before, after, keys, renamed, changes, distinct, oldDone, newDone, keyed, done, changed,
    changesKeysOnly_update distinct rfl rfl oldDone newDone keyed done⟩

end Rekeying

end Phrasebook.Book
