import Phrasebook.Proofs.UpdateReturn

/-!
# Scanning a project in parts

What an update makes of an entry depends only on its old places and on what was
observed.  Two updates from partial scans therefore leave the entries with the
places and flags that one update from both scans together would give them; all
that remains of keys which only the first scan has seen, and the second one no
longer finds, is entries marked as deleted.
-/

namespace Phrasebook.Book

/-- Whether a phrase with a key was observed. -/
def IsObserved (observed : Observed) (key : String) : Prop :=
  ∃ place, IsObservedAt observed key place

/-- What two scans have observed: of a file that both have scanned, what the second one found. -/
def overlay (first second : Observed) : Observed :=
  second ++ first.filter fun file => !(second.map (·.1)).contains file.1

section Overlay

variable {first second : Observed}

theorem mem_overlay {file : String × List Phrase} :
    file ∈ overlay first second ↔
      file ∈ second ∨ file ∈ first ∧ ¬ IsScanned second file.1 := by
  rw [overlay, List.mem_append, List.mem_filter, Bool.not_eq_true', ← Bool.not_eq_true,
    List.contains_iff_mem]
  rfl

theorem isScanned_overlay {path : String} :
    IsScanned (overlay first second) path ↔ IsScanned first path ∨ IsScanned second path := by
  constructor
  · intro scanned
    obtain ⟨file, fileMem, rfl⟩ := List.mem_map.mp scanned
    rcases mem_overlay.mp fileMem with inSecond | ⟨inFirst, _⟩
    · exact .inr (List.mem_map_of_mem inSecond)
    · exact .inl (List.mem_map_of_mem inFirst)
  · intro scanned
    by_cases again : IsScanned second path
    · obtain ⟨file, inSecond, rfl⟩ := List.mem_map.mp again
      exact List.mem_map_of_mem (mem_overlay.mpr (.inl inSecond))
    · obtain ⟨file, inFirst, rfl⟩ := List.mem_map.mp (scanned.resolve_right again)
      exact List.mem_map_of_mem (mem_overlay.mpr (.inr ⟨inFirst, again⟩))

theorem isObservedAt_overlay {key : String} {place : Place} :
    IsObservedAt (overlay first second) key place ↔
      IsObservedAt second key place ∨
        IsObservedAt first key place ∧ ¬ IsScanned second place.path := by
  constructor
  · rintro ⟨file, fileMem, phrase, phraseMem, sameKey, rfl⟩
    rcases mem_overlay.mp fileMem with inSecond | ⟨inFirst, unscanned⟩
    · exact .inl ⟨file, inSecond, phrase, phraseMem, sameKey, rfl⟩
    · exact .inr ⟨⟨file, inFirst, phrase, phraseMem, sameKey, rfl⟩, unscanned⟩
  · rintro (⟨file, inSecond, found⟩ | ⟨⟨file, inFirst, phrase, phraseMem, sameKey, rfl⟩, unscanned⟩)
    · exact ⟨file, mem_overlay.mpr (.inl inSecond), found⟩
    · exact ⟨file, mem_overlay.mpr (.inr ⟨inFirst, unscanned⟩), phrase, phraseMem, sameKey, rfl⟩

end Overlay

/-- Whether a book lists a place for a key. -/
def Lists (book : Book) (key : String) (place : Place) : Prop :=
  ∃ entry ∈ book.entries, entry.key = key ∧ place ∈ entry.places

section Update

variable {book : Book} {observed : Observed} {options : UpdateOptions} {exists? : String → Bool}

/-- The keys after an update are the old ones and those that were observed. -/
theorem mem_update_keys {key : String} :
    key ∈ (book.update observed options exists?).book.keys ↔
      key ∈ book.keys ∨ IsObserved observed key := by
  constructor
  · intro keyMem
    obtain ⟨entry, entryMem, rfl⟩ := List.mem_map.mp keyMem
    rcases update_entries_cases book observed options exists? entryMem with
      ⟨old, oldMem, rfl⟩ | isNew
    · rw [revised_key]
      exact .inl (List.mem_map_of_mem oldMem)
    · obtain ⟨_, _, hasPlaces, _, placeIff⟩ := newEntries_facts isNew
      obtain ⟨place, placeMem⟩ := List.exists_mem_of_ne_nil _ hasPlaces
      exact .inr ⟨place, (placeIff place).mp placeMem⟩
  · rintro (oldKey | ⟨place, file, fileMem, phrase, phraseMem, rfl, _⟩)
    · exact (update_keys_sublist book observed options exists?).subset oldKey
    · exact knows_update file fileMem phrase phraseMem

/-- A book lists after an update what it listed in files that were not scanned and are still
there, and what was observed. -/
theorem lists_update {key : String} {place : Place} :
    (book.update observed options exists?).book.Lists key place ↔
      (book.Lists key place ∧ ¬ IsScanned observed place.path ∧ exists? place.path = true) ∨
        IsObservedAt observed key place := by
  constructor
  · rintro ⟨entry, entryMem, rfl, placeMem⟩
    rcases update_entries_cases book observed options exists? entryMem with
      ⟨old, oldMem, rfl⟩ | isNew
    · rw [revised_places, mem_currentPlaces] at placeMem
      rw [revised_key]
      exact placeMem.imp_left fun ⟨listed, remains⟩ => ⟨⟨old, oldMem, rfl, listed⟩, remains⟩
    · exact .inr (((newEntries_facts isNew).2.2.2.2 place).mp placeMem)
  · rintro (⟨⟨old, oldMem, rfl, listed⟩, remains⟩ | observedAt)
    · refine ⟨revised observed options exists? old, ?_, revised_key .., ?_⟩
      · exact (mem_update_entries book observed options exists?).mpr (.inl ⟨old, oldMem, rfl⟩)
      · rw [revised_places, mem_currentPlaces]
        exact .inl ⟨listed, remains⟩
    · have keyMem : key ∈ (book.update observed options exists?).book.keys :=
        mem_update_keys.mpr (.inr ⟨place, observedAt⟩)
      obtain ⟨entry, entryMem, rfl⟩ := List.mem_map.mp keyMem
      refine ⟨entry, entryMem, rfl, ?_⟩
      rcases update_entries_cases book observed options exists? entryMem with
        ⟨old, oldMem, rfl⟩ | isNew
      · rw [revised_key] at observedAt
        rw [revised_places, mem_currentPlaces]
        exact .inr observedAt
      · exact ((newEntries_facts isNew).2.2.2.2 place).mpr observedAt

/-- The flag of an entry after an update follows from its places. -/
theorem update_isDeleted_eq (flags : options.keepsFlags = false) {entry : Entry}
    (entryMem : entry ∈ (book.update observed options exists?).book.entries) :
    entry.isDeleted = entry.places.isEmpty :=
  (isSettled_of_mem_update flags entryMem).isDeleted

end Update

/-- Where keys are distinct, an entry has the places that the book lists for its key. -/
theorem mem_places_iff_lists {book : Book} (distinct : book.keys.Nodup) {entry : Entry}
    (entryMem : entry ∈ book.entries) {place : Place} :
    place ∈ entry.places ↔ book.Lists entry.key place := by
  constructor
  · exact fun placeMem => ⟨entry, entryMem, rfl, placeMem⟩
  · rintro ⟨other, otherMem, sameKey, placeMem⟩
    have same : some other = some entry := by
      rw [← entry?_of_mem distinct otherMem, sameKey, entry?_of_mem distinct entryMem]
    exact Option.some.inj same ▸ placeMem

section Twice

variable {book : Book} {first second : Observed} {early late joint : UpdateOptions}
  {exists? : String → Bool}

/-- Two scans list what one scan of all their files lists, provided that the files of the first
one are still there at the second. -/
theorem lists_update_update (there : ∀ path, IsScanned first path → exists? path = true)
    {key : String} {place : Place} :
    ((book.update first early exists?).book.update second late exists?).book.Lists key place ↔
      (book.update (overlay first second) joint exists?).book.Lists key place := by
  rw [lists_update, lists_update, lists_update, isScanned_overlay, isObservedAt_overlay]
  constructor
  · rintro (⟨⟨listed, notFirst, _⟩ | observedAt, notSecond, isThere⟩ | observedAt)
    · exact .inl ⟨listed, not_or.mpr ⟨notFirst, notSecond⟩, isThere⟩
    · exact .inr (.inr ⟨observedAt, notSecond⟩)
    · exact .inr (.inl observedAt)
  · rintro (⟨listed, unscanned, isThere⟩ | observedAt | ⟨observedAt, notSecond⟩)
    · obtain ⟨notFirst, notSecond⟩ := not_or.mp unscanned
      exact .inl ⟨.inl ⟨listed, notFirst, isThere⟩, notSecond, isThere⟩
    · exact .inr observedAt
    · exact .inl ⟨.inr observedAt, notSecond, there _ observedAt.isScanned⟩

end Twice

/-- What two books agree on about a key: both have an entry for it, with the same places and the
same flag. -/
def AgreeOn (left right : Book) (key : String) : Prop :=
  ∃ entry other, left.entry? key = some entry ∧ right.entry? key = some other ∧
    entry.places = other.places ∧ entry.isDeleted = other.isDeleted

/-- Books with distinct keys whose entries have sorted places, and flags that follow from them,
agree on every key for which they list the same places. -/
theorem agreeOn_of_lists_iff {left right : Book} {key : String}
    (leftDistinct : left.keys.Nodup) (rightDistinct : right.keys.Nodup)
    (leftSorted : ∀ entry ∈ left.entries, IsSorted Place.isBefore entry.places)
    (rightSorted : ∀ entry ∈ right.entries, IsSorted Place.isBefore entry.places)
    (leftFlags : ∀ entry ∈ left.entries, entry.isDeleted = entry.places.isEmpty)
    (rightFlags : ∀ entry ∈ right.entries, entry.isDeleted = entry.places.isEmpty)
    (inLeft : key ∈ left.keys) (inRight : key ∈ right.keys)
    (sameLists : ∀ place, left.Lists key place ↔ right.Lists key place) :
    left.AgreeOn right key := by
  obtain ⟨entry, entryMem, rfl⟩ := List.mem_map.mp inLeft
  obtain ⟨other, otherMem, sameKey⟩ := List.mem_map.mp inRight
  have samePlaces : entry.places = other.places := by
    refine IsSorted.eq_of_mem_iff Place.isLinear_isBefore (leftSorted entry entryMem)
      (rightSorted other otherMem) fun place => ?_
    rw [mem_places_iff_lists leftDistinct entryMem, mem_places_iff_lists rightDistinct otherMem,
      sameKey, sameLists]
  refine ⟨entry, other, entry?_of_mem leftDistinct entryMem, ?_, samePlaces, ?_⟩
  · rw [← sameKey]
    exact entry?_of_mem rightDistinct otherMem
  · rw [leftFlags entry entryMem, rightFlags other otherMem, samePlaces]

section Composition

variable (book : Book) (first second : Observed) (early late joint : UpdateOptions)
  (exists? : String → Bool)

/-- Two partial scans in a row agree with one scan of both parts on every key that the book had
or that is observed in the end; every other entry was added by the first scan, has lost all its
places and is marked as deleted. -/
theorem partialScans_compose (distinct : book.keys.Nodup) (lateFlags : late.keepsFlags = false)
    (jointFlags : joint.keepsFlags = false)
    (there : ∀ path, IsScanned first path → exists? path = true) :
    let once := book.update first early exists?
    let twice := once.book.update second late exists?
    let whole := book.update (overlay first second) joint exists?
    (∀ key, key ∈ book.keys ∨ IsObserved (overlay first second) key →
      twice.book.AgreeOn whole.book key) ∧
    ∀ entry ∈ twice.book.entries,
      entry.key ∉ book.keys → ¬ IsObserved (overlay first second) entry.key →
        entry.key ∈ once.added ∧ entry.isDeleted = true ∧ entry.places = [] := by
  intro once twice whole
  have onceDistinct : once.book.keys.Nodup := nodup_update_keys book first early exists? distinct
  have twiceDistinct : twice.book.keys.Nodup :=
    nodup_update_keys once.book second late exists? onceDistinct
  constructor
  · intro key relevant
    have inWhole : key ∈ whole.book.keys := mem_update_keys.mpr relevant
    have inTwice : key ∈ twice.book.keys := by
      rw [mem_update_keys, mem_update_keys]
      rcases relevant with oldKey | ⟨place, observedAt⟩
      · exact .inl (.inl oldKey)
      · rcases isObservedAt_overlay.mp observedAt with inSecond | ⟨inFirst, _⟩
        · exact .inr ⟨place, inSecond⟩
        · exact .inl (.inr ⟨place, inFirst⟩)
    exact agreeOn_of_lists_iff twiceDistinct
      (nodup_update_keys book (overlay first second) joint exists? distinct)
      (fun _ => update_places_sorted once.book second late exists?)
      (fun _ => update_places_sorted book (overlay first second) joint exists?)
      (fun _ => update_isDeleted_eq lateFlags) (fun _ => update_isDeleted_eq jointFlags)
      inTwice inWhole fun place => lists_update_update there
  · intro entry entryMem unknown unobserved
    have noPlaces : entry.places = [] := by
      refine List.eq_nil_iff_forall_not_mem.mpr fun place placeMem => ?_
      have listed : whole.book.Lists entry.key place :=
        (lists_update_update there).mp ((mem_places_iff_lists twiceDistinct entryMem).mp placeMem)
      obtain ⟨other, otherMem, sameKey, _⟩ := listed
      rcases mem_update_keys.mp (List.mem_map_of_mem otherMem) with oldKey | isObserved
      · exact unknown (sameKey ▸ oldKey)
      · exact unobserved (sameKey ▸ isObserved)
    refine ⟨?_, by rw [update_isDeleted_eq lateFlags entryMem, noPlaces]; rfl, noPlaces⟩
    -- The key was not observed by the second scan, so it was in the book before it.
    rcases mem_update_keys.mp (List.mem_map_of_mem entryMem) with inOnce | ⟨place, observedAt⟩
    · rw [(update_keys_perm book first early exists?).mem_iff, List.mem_append] at inOnce
      exact inOnce.resolve_left unknown
    · exact absurd ⟨place, isObservedAt_overlay.mpr (.inl observedAt)⟩ unobserved

/-- One phrase moves to a file of the second scan, one vanishes from a file of both, one is found
by the first scan alone and one by the second. -/
theorem partialScans_moved_phrase :
    let book : Book := {
      preamble := ""
      entries := [
        { key := "a", places := [⟨"f", 1⟩, ⟨"old", 2⟩] },
        { key := "b", places := [⟨"g", 2⟩] }] }
    let phrase (key : String) (line : Nat) : Phrase :=
      { (default : Phrase) with key, place := ⟨"", line⟩ }
    let first : Observed := [("f", [phrase "a" 3]), ("g", [phrase "b" 4, phrase "c" 5])]
    let second : Observed := [("g", [phrase "a" 6]), ("h", [phrase "d" 7])]
    let exists? (path : String) : Bool := path != "old"
    let once := book.update first {} exists?
    let twice := once.book.update second {} exists?
    let whole := book.update (overlay first second) {} exists?
    book.keys.Nodup ∧ (∀ path, IsScanned first path → exists? path = true) ∧
      twice.book.AgreeOn whole.book "a" ∧ twice.book.AgreeOn whole.book "b" ∧
      twice.book.AgreeOn whole.book "d" ∧
      ∃ entry ∈ twice.book.entries, entry.key = "c" ∧ entry.key ∈ once.added ∧
        entry.isDeleted = true ∧ entry.places = [] := by
  intro book phrase first second exists? once twice whole
  have distinct : book.keys.Nodup := by decide
  have there : ∀ path, IsScanned first path → exists? path = true := by
    intro path scanned
    have cases : path = "f" ∨ path = "g" := by simpa [IsScanned, first] using scanned
    rcases cases with rfl | rfl <;> decide
  obtain ⟨agree, others⟩ :=
    partialScans_compose book first second {} {} {} exists? distinct rfl rfl there
  have observed : IsObserved (overlay first second) "d" :=
    ⟨⟨"h", 7⟩, isObservedAt_overlay.mpr (.inl
      ⟨("h", [phrase "d" 7]), by simp [second], phrase "d" 7, by simp, rfl, rfl⟩)⟩
  have unobserved : ¬ IsObserved (overlay first second) "c" := by
    rintro ⟨_, file, fileMem, seen, seenMem, isC, _⟩
    have others : ∀ file ∈ overlay first second, ∀ phrase ∈ file.2, phrase.key ≠ "c" := by decide
    exact others file fileMem seen seenMem isC
  have added : "c" ∈ twice.book.keys :=
    mem_update_keys.mpr (.inl (mem_update_keys.mpr (.inr
      ⟨⟨"g", 5⟩, ("g", [phrase "b" 4, phrase "c" 5]), by simp [first], phrase "c" 5, by simp,
        rfl, rfl⟩)))
  obtain ⟨entry, entryMem, isC⟩ := List.mem_map.mp added
  refine ⟨distinct, there, agree "a" (.inl (by decide)), agree "b" (.inl (by decide)),
    agree "d" (.inr observed), entry, entryMem, isC, ?_⟩
  exact others entry entryMem (by rw [isC]; decide) (by rwa [isC])

end Composition

end Phrasebook.Book
