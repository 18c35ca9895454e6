import Phrasebook.Book.Writer
import Phrasebook.Proofs.UpdateEffect

/-!
# Returning to earlier sources

After an update every entry is settled: its places are those that the sources
call for, and its flag agrees with them.  An update with other phrases in the
same files disturbs a settled entry only in the places within these files, so
that updating with the former phrases settles it exactly as it was.
-/

namespace Phrasebook.Book

/-- An entry says what an update with these sources would make it say. -/
structure IsSettled (observed : Observed) (exists? : String → Bool) (entry : Entry) : Prop where
  sorted : IsSorted Place.isBefore entry.places
  justified : ∀ place ∈ entry.places,
    (¬ IsScanned observed place.path ∧ exists? place.path = true) ∨
      IsObservedAt observed entry.key place
  complete : ∀ place, IsObservedAt observed entry.key place → place ∈ entry.places
  isDeleted : entry.isDeleted = entry.places.isEmpty

section Settled

variable {observed : Observed} {options : UpdateOptions} {exists? : String → Bool}

theorem isSettled_revised (flags : options.keepsFlags = false) (entry : Entry) :
    IsSettled observed exists? (revised observed options exists? entry) where
  sorted := by
    rw [revised_places]
    exact isSorted_sortedPlaces _
  justified place placeMem := by
    rw [revised_places, mem_currentPlaces] at placeMem
    rw [revised_key]
    exact placeMem.imp_left And.right
  complete place observedAt := by
    rw [revised_key] at observedAt
    rw [revised_places, mem_currentPlaces]
    exact .inr observedAt
  isDeleted := by
    rw [revised_isDeleted, flags, revised_places]
    rfl

theorem isSettled_newEntries {book : Book} {entry : Entry}
    (isNew : entry ∈ newEntries book observed options) : IsSettled observed exists? entry := by
  obtain ⟨_, notDeleted, hasPlaces, sorted, placeIff⟩ := newEntries_facts isNew
  exact {
    sorted
    justified := fun place placeMem => .inr ((placeIff place).mp placeMem)
    complete := fun place observedAt => (placeIff place).mpr observedAt
    isDeleted := by simp [notDeleted, hasPlaces] }

/-- An update settles every entry. -/
theorem isSettled_of_mem_update (flags : options.keepsFlags = false) {book : Book} {entry : Entry}
    (entryMem : entry ∈ (book.update observed options exists?).book.entries) :
    IsSettled observed exists? entry := by
  rcases update_entries_cases book observed options exists? entryMem with ⟨old, _, rfl⟩ | isNew
  · exact isSettled_revised flags old
  · exact isSettled_newEntries isNew

theorem revised_eq_of_places {entry other : Entry} (flags : options.keepsFlags = false)
    (settled : IsSettled observed exists? entry)
    (others : other = { entry with places := other.places, isDeleted := other.isDeleted })
    (samePlaces : ∀ place,
      place ∈ currentPlaces exists? observed (observations observed) other ↔
        place ∈ entry.places) :
    revised observed options exists? other = entry := by
  have places : currentPlaces exists? observed (observations observed) other = entry.places :=
    IsSorted.eq_of_mem_iff Place.isLinear_isBefore (isSorted_sortedPlaces _) settled.sorted
      samePlaces
  rw [revised_eq, revised_places, revised_isDeleted, flags, places, others]
  simp only [Bool.false_eq_true, if_false, ← settled.isDeleted]

/-- An update leaves a settled entry alone. -/
theorem revised_of_isSettled (flags : options.keepsFlags = false) {entry : Entry}
    (settled : IsSettled observed exists? entry) :
    revised observed options exists? entry = entry := by
  refine revised_eq_of_places flags settled rfl fun place => ?_
  rw [mem_currentPlaces]
  constructor
  · rintro (⟨placeMem, _⟩ | observedAt)
    · exact placeMem
    · exact settled.complete place observedAt
  · intro placeMem
    rcases settled.justified place placeMem with unscanned | observedAt
    · exact .inl ⟨placeMem, unscanned⟩
    · exact .inr observedAt

/-- Other phrases in the same files disturb a settled entry only until the former ones are back. -/
theorem revised_revised_of_isSettled {other : Observed} (flags : options.keepsFlags = false)
    (samePaths : ∀ path, IsScanned other path ↔ IsScanned observed path) {entry : Entry}
    (settled : IsSettled observed exists? entry) :
    revised observed options exists? (revised other options exists? entry) = entry := by
  refine revised_eq_of_places flags settled (revised_eq other options exists? entry)
    fun place => ?_
  rw [mem_currentPlaces, revised_places, mem_currentPlaces, revised_key]
  constructor
  · rintro (⟨⟨placeMem, _⟩ | elsewhere, unscanned, _⟩ | observedAt)
    · exact placeMem
    · exact absurd ((samePaths _).mp elsewhere.isScanned) unscanned
    · exact settled.complete place observedAt
  · intro placeMem
    rcases settled.justified place placeMem with ⟨unscanned, isThere⟩ | observedAt
    · have unscannedThere : ¬ IsScanned other place.path :=
        fun scanned => unscanned ((samePaths _).mp scanned)
      exact .inl ⟨.inl ⟨placeMem, unscannedThere, isThere⟩, unscanned, isThere⟩
    · exact .inr observedAt

end Settled

/-! ## Updates that add nothing -/

/-- Every observed key has an entry. -/
def Knows (book : Book) (observed : Observed) : Prop :=
  ∀ file ∈ observed, ∀ phrase ∈ file.2, phrase.key ∈ book.keys

instance (book : Book) (observed : Observed) : Decidable (book.Knows observed) :=
  inferInstanceAs (Decidable (∀ file ∈ observed, ∀ phrase ∈ file.2, phrase.key ∈ book.keys))

section Knows

variable {book : Book} {observed : Observed} {options : UpdateOptions} {exists? : String → Bool}

theorem newEntries_eq_nil (known : book.Knows observed) : newEntries book observed options = [] := by
  refine List.eq_nil_iff_forall_not_mem.mpr fun entry isNew => ?_
  obtain ⟨unknown, _, hasPlaces, _, placeIff⟩ := newEntries_facts isNew
  obtain ⟨place, placeMem⟩ := List.exists_mem_of_ne_nil _ hasPlaces
  obtain ⟨file, fileMem, phrase, phraseMem, sameKey, _⟩ := (placeIff place).mp placeMem
  exact unknown (sameKey ▸ known file fileMem phrase phraseMem)

theorem update_book_of_knows (known : book.Knows observed) :
    (book.update observed options exists?).book =
      { book with entries := book.entries.map (revised observed options exists?) } := by
  rw [update_eq_insertEntries, newEntries_eq_nil known]
  rfl

theorem update_keys_of_knows (known : book.Knows observed) :
    (book.update observed options exists?).book.keys = book.keys := by
  rw [update_book_of_knows known]
  exact map_key_map_revised ..

theorem update_added_of_knows (known : book.Knows observed) :
    (book.update observed options exists?).added = [] := by
  rw [update_added, newEntries_eq_nil known]
  rfl

/-- After an update the book knows what was observed. -/
theorem knows_update : (book.update observed options exists?).book.Knows observed := by
  intro file fileMem phrase phraseMem
  rw [(update_keys_perm book observed options exists?).mem_iff, List.mem_append, update_added,
    map_key_newEntries, map_key_newPhrases, List.mem_eraseDups, List.mem_filter,
    map_key_observations]
  by_cases isOld : phrase.key ∈ book.keys
  · exact .inl isOld
  · refine .inr ⟨List.mem_flatMap.mpr ⟨file, ?_, List.mem_map_of_mem phraseMem⟩, by simpa⟩
    exact (inOrder_perm observed).mem_iff.mpr fileMem

/-- An update whose entries are settled already changes no flag. -/
theorem update_unchanged (flags : options.keepsFlags = false)
    (settled : ∀ entry ∈ book.entries, IsSettled observed exists? entry) :
    (book.update observed options exists?).deleted = [] ∧
      (book.update observed options exists?).restored = [] := by
  have same (entry : Entry) (entryMem : entry ∈ book.entries) :=
    revised_of_isSettled flags (settled entry entryMem)
  constructor
  · rw [update_deleted, List.map_eq_nil_iff, List.filter_eq_nil_iff]
    intro entry entryMem
    simp [same entry entryMem]
  · rw [update_restored, List.map_eq_nil_iff, List.filter_eq_nil_iff]
    intro entry entryMem
    simp [same entry entryMem]

end Knows

/-! ## Three updates -/

section Return

variable (book : Book) (observed other : Observed) (options : UpdateOptions)
  (exists? : String → Bool)

/-- What three updates in a row say, where the first and the third find the same. -/
structure UpdatesReturn (indent : String) (first second third : Updated) : Prop where
  book : third.book = first.book
  text : third.book.text indent = first.book.text indent
  places : third.book.placesByKey = first.book.placesByKey
  added : second.added = [] ∧ third.added = []

/-- An update that changes nothing at all. -/
structure ChangesNothing (former : Book) (updated : Updated) : Prop where
  book : updated.book = former
  added : updated.added = []
  deleted : updated.deleted = []
  restored : updated.restored = []

theorem changesNothing_update {book : Book} {observed : Observed} {options : UpdateOptions}
    {exists? : String → Bool} (flags : options.keepsFlags = false) (known : book.Knows observed)
    (settled : ∀ entry ∈ book.entries, IsSettled observed exists? entry) :
    ChangesNothing book (book.update observed options exists?) where
  book := by
    rw [update_book_of_knows known, List.map_congr_left fun entry entryMem =>
      revised_of_isSettled flags (settled entry entryMem), List.map_id']
  added := update_added_of_knows known
  deleted := (update_unchanged flags settled).1
  restored := (update_unchanged flags settled).2

/-- The former phrases bring the former book back. -/
theorem update_update_update_book (flags : options.keepsFlags = false)
    (samePaths : ∀ path, IsScanned other path ↔ IsScanned observed path)
    (known : (book.update observed options exists?).book.Knows other) :
    (((book.update observed options exists?).book.update other options exists?).book.update
      observed options exists?).book = (book.update observed options exists?).book := by
  have knownAgain : ((book.update observed options exists?).book.update
      other options exists?).book.Knows observed := by
    intro file fileMem phrase phraseMem
    rw [update_keys_of_knows known]
    exact knows_update file fileMem phrase phraseMem
  rw [update_book_of_knows knownAgain, update_book_of_knows known, List.map_map]
  have back (entry : Entry)
      (entryMem : entry ∈ (book.update observed options exists?).book.entries) :
      (revised observed options exists? ∘ revised other options exists?) entry = entry :=
    revised_revised_of_isSettled flags samePaths (isSettled_of_mem_update flags entryMem)
  rw [List.map_congr_left back, List.map_id']

/-- Updating with some phrases, with others in the same files and with the first ones again gives
back the book, its text and its places; and where the phrases stay the same throughout, the second
and the third update change nothing. -/
theorem updatesReturn_update (flags : options.keepsFlags = false)
    (samePaths : ∀ path, IsScanned other path ↔ IsScanned observed path)
    (known : (book.update observed options exists?).book.Knows other) :
    let first := book.update observed options exists?
    let second := first.book.update other options exists?
    let third := second.book.update observed options exists?
    UpdatesReturn options.indent first second third ∧
      (other = observed →
        ChangesNothing first.book second ∧ ChangesNothing second.book third) := by
  intro first second third
  have back : third.book = first.book :=
    update_update_update_book book observed other options exists? flags samePaths known
  have knownAgain : second.book.Knows observed := by
    intro file fileMem phrase phraseMem
    rw [update_keys_of_knows known]
    exact knows_update file fileMem phrase phraseMem
  refine ⟨⟨back, by rw [back], by rw [back], update_added_of_knows known,
    update_added_of_knows knownAgain⟩, ?_⟩
  rintro rfl
  refine ⟨changesNothing_update flags known fun entry entryMem => ?_,
    changesNothing_update flags knownAgain fun entry entryMem => ?_⟩
  · exact isSettled_of_mem_update flags entryMem
  · exact isSettled_of_mem_update flags entryMem

/-- A phrase moves away and back, and with it the flag of its entry. -/
theorem updatesReturn_moved_phrase :
    let book : Book := { preamble := "", entries := [{ key := "a", places := [⟨"g", 2⟩] }] }
    let phrase (key : String) (line : Nat) : Phrase :=
      { (default : Phrase) with key, place := ⟨"", line⟩ }
    let observed : Observed := [("f", [phrase "a" 3, phrase "b" 5])]
    let other : Observed := [("f", [phrase "a" 4])]
    let exists? (path : String) : Bool := path == "g"
    let first := book.update observed {} exists?
    let second := first.book.update other {} exists?
    let third := second.book.update observed {} exists?
    (∀ path, IsScanned other path ↔ IsScanned observed path) ∧ first.book.Knows other ∧
      second.deleted = ["b"] ∧ UpdatesReturn "\t" first second third := by
  intro book phrase observed other exists? first second third
  have samePaths : ∀ path, IsScanned other path ↔ IsScanned observed path := fun _ => Iff.rfl
  have known : first.book.Knows other := by decide +kernel
  have flagged : second.deleted = ["b"] := by decide +kernel
  exact ⟨samePaths, known, flagged,
    (updatesReturn_update book observed other {} exists? rfl samePaths known).1⟩

end Return

end Phrasebook.Book
