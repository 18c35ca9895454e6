import Phrasebook.Proofs.Insertion
import Phrasebook.Proofs.SortedSet

/-!
# The effect of an update

An update revises every old entry in its place and then inserts an entry for
each new key.  `UpdateEffect` says what this does to a book, without reference
to how it is done.
-/

namespace Phrasebook.Book

/-- Whether a phrase with a key was observed at a place. -/
def IsObservedAt (observed : Observed) (key : String) (place : Place) : Prop :=
  ∃ file ∈ observed, ∃ phrase ∈ file.2,
    phrase.key = key ∧ place = ⟨file.1, phrase.place.line⟩

/-- Whether a path was scanned. -/
def IsScanned (observed : Observed) (path : String) : Prop :=
  path ∈ observed.map (·.1)

/-! ## Observations -/

/-- The scanned files in the order of their paths. -/
def inOrder (observed : Observed) : Observed :=
  observed.mergeSort fun left right => decide (left.1 ≤ right.1)

theorem inOrder_perm (observed : Observed) : (inOrder observed).Perm observed :=
  List.mergeSort_perm observed _

theorem pairwise_inOrder (observed : Observed) :
    (inOrder observed).Pairwise fun left right => left.1 ≤ right.1 := by
  have sorted := @List.pairwise_mergeSort (String × List Phrase)
    (fun left right => decide (left.1 ≤ right.1))
    (fun _ _ _ first second => by simpa using le_trans (by simpa using first) (by simpa using second))
    (fun left right => by simpa using le_total left.1 right.1) observed
  exact sorted.imp fun ordered => by simpa using ordered

theorem map_key_observations (observed : Observed) :
    (observations observed).map (·.1.key) =
      (inOrder observed).flatMap fun file => file.2.map (·.key) := by
  simp only [observations, inOrder, List.map_flatMap, List.map_map]
  rfl

theorem mem_observedPlaces {observed : Observed} {key : String} {place : Place} :
    place ∈ observedPlaces (observations observed) key ↔ IsObservedAt observed key place := by
  simp only [observedPlaces, observations, List.mem_map, List.mem_filter, List.mem_flatMap,
    List.mem_mergeSort, IsObservedAt]
  constructor
  · rintro ⟨_, ⟨⟨file, fileMem, phrase, phraseMem, rfl⟩, sameKey⟩, rfl⟩
    exact ⟨file, fileMem, phrase, phraseMem, by simpa using sameKey, rfl⟩
  · rintro ⟨file, fileMem, phrase, phraseMem, sameKey, rfl⟩
    exact ⟨(phrase, ⟨file.1, phrase.place.line⟩),
      ⟨⟨file, fileMem, phrase, phraseMem, rfl⟩, by simpa using sameKey⟩, rfl⟩

theorem IsObservedAt.isScanned {observed : Observed} {key : String} {place : Place}
    (observedAt : IsObservedAt observed key place) : IsScanned observed place.path := by
  obtain ⟨file, fileMem, _, _, _, rfl⟩ := observedAt
  exact List.mem_map.mpr ⟨file, fileMem, rfl⟩

theorem observedPlaces_ne_nil {sightings : List (Phrase × Place)} {key : String}
    (seen : key ∈ sightings.map (·.1.key)) : observedPlaces sightings key ≠ [] := by
  obtain ⟨sighting, sightingMem, sameKey⟩ := List.mem_map.mp seen
  have placeMem : sighting.2 ∈ observedPlaces sightings key :=
    List.mem_map.mpr ⟨sighting, List.mem_filter.mpr ⟨sightingMem, by simpa using sameKey⟩, rfl⟩
  exact List.ne_nil_of_mem placeMem

/-! ## New keys -/

theorem map_key_newPhrases (known : List String) (sightings : List (Phrase × Place)) :
    (newPhrases known sightings).map (·.key) =
      ((sightings.map (·.1.key)).filter (!known.contains ·)).eraseDups := by
  induction sightings generalizing known with
  | nil => rfl
  | cons sighting sightings ih =>
      obtain ⟨phrase, place⟩ := sighting
      rw [newPhrases]
      split
      · rename_i isKnown
        rw [ih, List.map_cons, List.filter_cons_of_neg (by simpa using isKnown)]
      · rename_i notKnown
        rw [List.map_cons, ih, List.map_cons, List.filter_cons_of_pos (by simpa using notKnown),
          List.eraseDups_cons, List.filter_filter]
        congr 3
        funext key
        by_cases sameKey : key = phrase.key <;> simp [sameKey]

theorem mem_newPhrases {known : List String} {sightings : List (Phrase × Place)} {phrase : Phrase}
    (isNew : phrase ∈ newPhrases known sightings) :
    phrase.key ∈ sightings.map (·.1.key) ∧ phrase.key ∉ known := by
  have keyMem : phrase.key ∈ (newPhrases known sightings).map (·.key) :=
    List.mem_map.mpr ⟨phrase, isNew, rfl⟩
  rw [map_key_newPhrases, List.mem_eraseDups, List.mem_filter] at keyMem
  exact ⟨keyMem.1, by simpa using keyMem.2⟩

theorem nodup_map_key_newPhrases (known : List String) (sightings : List (Phrase × Place)) :
    ((newPhrases known sightings).map (·.key)).Nodup := by
  induction sightings generalizing known with
  | nil => exact List.nodup_nil
  | cons sighting sightings ih =>
      obtain ⟨phrase, place⟩ := sighting
      rw [newPhrases]
      split
      · exact ih known
      · refine List.nodup_cons.mpr ⟨fun again => ?_, ih _⟩
        obtain ⟨other, otherMem, sameKey⟩ := List.mem_map.mp again
        have otherKey : other.key = phrase.key := sameKey
        exact (mem_newPhrases otherMem).2 (by simp [otherKey])

/-! ## Revised and new entries -/

section Update

variable (book : Book) (observed : Observed) (options : UpdateOptions) (exists? : String → Bool)

/-- An old entry with the places and the flag that an update gives it. -/
def revised (entry : Entry) : Entry :=
  withPlaces options.keepsFlags entry
    (currentPlaces exists? observed (observations observed) entry)

/-- The entries that an update inserts, in this order. -/
def newEntries : List Entry :=
  (newPhrases book.keys (observations observed)).map fun phrase =>
    newEntry options phrase (sortedPlaces (observedPlaces (observations observed) phrase.key))

/-- The book with all old entries revised, before any is inserted. -/
def reviewed : Updated where
  book := { book with entries := book.entries.map (revised observed options exists?) }
  deleted := (book.entries.filter fun entry =>
    !entry.isDeleted && (revised observed options exists? entry).isDeleted).map (·.key)
  restored := (book.entries.filter fun entry =>
    entry.isDeleted && !(revised observed options exists? entry).isDeleted).map (·.key)

theorem filter_zip_map {α β γ : Type} (values : List α) (revise : α → β)
    (accepts : α → β → Bool) (name : α → γ) :
    ((values.zip (values.map revise)).filter fun (old, new) => accepts old new).map
        (fun pair => name pair.1) =
      (values.filter fun value => accepts value (revise value)).map name := by
  induction values with
  | nil => rfl
  | cons value values ih =>
      by_cases accepted : accepts value (revise value) = true <;>
        simpa [List.filter_cons, accepted] using ih

theorem update_eq_insertEntries :
    book.update observed options exists? =
      insertEntries options.append (reviewed book observed options exists?)
        (newEntries book observed options) := by
  unfold insertEntries newEntries reviewed
  rw [List.foldl_map,
    ← filter_zip_map book.entries (revised observed options exists?)
      (fun old new => !old.isDeleted && new.isDeleted) (·.key),
    ← filter_zip_map book.entries (revised observed options exists?)
      (fun old new => old.isDeleted && !new.isDeleted) (·.key)]
  rfl

theorem update_entries_perm :
    (book.update observed options exists?).book.entries.Perm
      (book.entries.map (revised observed options exists?) ++ newEntries book observed options) := by
  rw [update_eq_insertEntries]
  exact insertEntries_perm ..

theorem sublist_update_entries :
    (book.entries.map (revised observed options exists?)).Sublist
      (book.update observed options exists?).book.entries := by
  rw [update_eq_insertEntries]
  exact sublist_insertEntries options.append (reviewed book observed options exists?) _

theorem update_entries_append (appends : options.append = true) :
    (book.update observed options exists?).book.entries =
      book.entries.map (revised observed options exists?) ++ newEntries book observed options := by
  rw [update_eq_insertEntries, appends]
  exact insertEntries_append ..

theorem map_key_newEntries :
    (newEntries book observed options).map (·.key) =
      (newPhrases book.keys (observations observed)).map (·.key) :=
  List.map_map ..

theorem update_added :
    (book.update observed options exists?).added =
      (newEntries book observed options).map (·.key) := by
  rw [update_eq_insertEntries, insertEntries_added]
  rfl

theorem update_deleted :
    (book.update observed options exists?).deleted =
      (book.entries.filter fun entry =>
        !entry.isDeleted && (revised observed options exists? entry).isDeleted).map (·.key) := by
  rw [update_eq_insertEntries, insertEntries_deleted]
  rfl

theorem update_restored :
    (book.update observed options exists?).restored =
      (book.entries.filter fun entry =>
        entry.isDeleted && !(revised observed options exists? entry).isDeleted).map (·.key) := by
  rw [update_eq_insertEntries, insertEntries_restored]
  rfl

theorem mem_update_entries {entry : Entry} :
    entry ∈ (book.update observed options exists?).book.entries ↔
      (∃ old ∈ book.entries, entry = revised observed options exists? old) ∨
        entry ∈ newEntries book observed options := by
  rw [(update_entries_perm book observed options exists?).mem_iff, List.mem_append, List.mem_map]
  exact or_congr_left ⟨fun ⟨old, oldMem, equal⟩ => ⟨old, oldMem, equal.symm⟩,
    fun ⟨old, oldMem, equal⟩ => ⟨old, oldMem, equal.symm⟩⟩

end Update

section Revised

variable (observed : Observed) (options : UpdateOptions) (exists? : String → Bool)

/-- Only the places and the flag of an old entry change. -/
theorem revised_eq (entry : Entry) :
    revised observed options exists? entry =
      { entry with
        places := (revised observed options exists? entry).places
        isDeleted := (revised observed options exists? entry).isDeleted } := by
  unfold revised withPlaces
  split <;> rfl

@[simp]
theorem revised_key (entry : Entry) :
    (revised observed options exists? entry).key = entry.key := by
  rw [revised_eq]

@[simp]
theorem revised_places (entry : Entry) :
    (revised observed options exists? entry).places =
      currentPlaces exists? observed (observations observed) entry := by
  unfold revised withPlaces
  split <;> rfl

theorem revised_isDeleted (entry : Entry) :
    (revised observed options exists? entry).isDeleted =
      if options.keepsFlags then entry.isDeleted
      else (currentPlaces exists? observed (observations observed) entry).isEmpty := by
  unfold revised withPlaces
  split <;> rfl

theorem map_key_map_revised (entries : List Entry) :
    (entries.map (revised observed options exists?)).map (·.key) = entries.map (·.key) := by
  rw [List.map_map]
  exact List.map_congr_left fun entry _ => revised_key observed options exists? entry

theorem mem_currentPlaces {entry : Entry} {place : Place} :
    place ∈ currentPlaces exists? observed (observations observed) entry ↔
      (place ∈ entry.places ∧ ¬ IsScanned observed place.path ∧ exists? place.path = true) ∨
        IsObservedAt observed entry.key place := by
  rw [currentPlaces, mem_sortedPlaces, List.mem_append, List.mem_filter, mem_observedPlaces]
  simp [IsScanned]

end Revised

/-- What makes an entry one that an update inserts. -/
theorem newEntries_facts {book : Book} {observed : Observed} {options : UpdateOptions}
    {entry : Entry} (isNew : entry ∈ newEntries book observed options) :
    entry.key ∉ book.keys ∧ entry.isDeleted = false ∧ entry.places ≠ [] ∧
      IsSorted Place.isBefore entry.places ∧
      ∀ place, place ∈ entry.places ↔ IsObservedAt observed entry.key place := by
  obtain ⟨phrase, phraseMem, rfl⟩ := List.mem_map.mp isNew
  obtain ⟨seen, unknown⟩ := mem_newPhrases phraseMem
  have placeIff (place : Place) :
      place ∈ sortedPlaces (observedPlaces (observations observed) phrase.key) ↔
        IsObservedAt observed phrase.key place :=
    mem_sortedPlaces.trans mem_observedPlaces
  refine ⟨unknown, rfl, ?_, isSorted_sortedPlaces _, placeIff⟩
  obtain ⟨place, placeMem⟩ := List.exists_mem_of_ne_nil _ (observedPlaces_ne_nil seen)
  exact List.ne_nil_of_mem (mem_sortedPlaces.mpr placeMem)

/-- Where names are distinct, every value is found by its name. -/
theorem find?_name_of_mem {α : Type} {name : α → String} {values : List α}
    (distinct : (values.map name).Nodup) {value : α} (valueMem : value ∈ values) :
    values.find? (fun other => name other == name value) = some value := by
  induction values with
  | nil => simp at valueMem
  | cons first rest ih =>
      obtain ⟨firstNew, restDistinct⟩ := List.nodup_cons.mp distinct
      rcases List.mem_cons.mp valueMem with rfl | inRest
      · simp
      · have otherName : (name first == name value) = false :=
          beq_false_of_ne fun same => firstNew (List.mem_map.mpr ⟨value, inRest, same.symm⟩)
        rw [List.find?_cons, otherName]
        exact ih restDistinct inRest

/-- Where keys are distinct, every entry is found by its key. -/
theorem entry?_of_mem {book : Book} (distinct : book.keys.Nodup) {entry : Entry}
    (entryMem : entry ∈ book.entries) : book.entry? entry.key = some entry :=
  find?_name_of_mem distinct entryMem

section Keys

variable (book : Book) (observed : Observed) (options : UpdateOptions) (exists? : String → Bool)

theorem update_keys_perm :
    (book.update observed options exists?).book.keys.Perm
      (book.keys ++ (book.update observed options exists?).added) := by
  have perm := (update_entries_perm book observed options exists?).map (·.key)
  rwa [List.map_append, map_key_map_revised, ← update_added] at perm

theorem update_keys_sublist :
    book.keys.Sublist (book.update observed options exists?).book.keys := by
  have sublist := (sublist_update_entries book observed options exists?).map (·.key)
  rwa [map_key_map_revised] at sublist

theorem update_keys_append (appends : options.append = true) :
    (book.update observed options exists?).book.keys =
      book.keys ++ (book.update observed options exists?).added := by
  unfold keys
  rw [update_entries_append book observed options exists? appends, List.map_append,
    map_key_map_revised, update_added]

theorem nodup_update_keys (distinct : book.keys.Nodup) :
    (book.update observed options exists?).book.keys.Nodup := by
  rw [(update_keys_perm book observed options exists?).nodup_iff, update_added]
  refine List.nodup_append.mpr ⟨distinct, ?_, ?_⟩
  · rw [map_key_newEntries]
    exact nodup_map_key_newPhrases ..
  · rintro key oldKey _ newKey rfl
    obtain ⟨entry, isNew, rfl⟩ := List.mem_map.mp newKey
    exact (newEntries_facts isNew).1 oldKey

theorem update_entry?_of_mem (distinct : book.keys.Nodup) {old : Entry}
    (oldMem : old ∈ book.entries) :
    (book.update observed options exists?).book.entry? old.key =
      some (revised observed options exists? old) := by
  have revisedMem := (mem_update_entries book observed options exists?).mpr
    (.inl ⟨old, oldMem, rfl⟩)
  have found := entry?_of_mem (nodup_update_keys book observed options exists? distinct) revisedMem
  rwa [revised_key] at found

/-- The entries of an updated book are the revised old ones and, under other keys, new ones. -/
theorem update_entries_cases {entry : Entry}
    (entryMem : entry ∈ (book.update observed options exists?).book.entries) :
    (∃ old ∈ book.entries, entry = revised observed options exists? old) ∨
      entry ∈ newEntries book observed options :=
  (mem_update_entries book observed options exists?).mp entryMem

end Keys

/-! ## The effect -/

/-- What an update does to a book. -/
structure UpdateEffect (book : Book) (observed : Observed) (options : UpdateOptions)
    (exists? : String → Bool) (updated : Updated) : Prop where
  /-- The observed keys that the book lacks are added, each once, in the order in which they occur
  when the files are taken by their paths. -/
  added : ∃ files : Observed, files.Perm observed ∧
    (files.Pairwise fun left right => left.1 ≤ right.1) ∧
    updated.added =
      ((files.flatMap fun file => file.2.map (·.key)).filter (!book.keys.contains ·)).eraseDups
  nodup_keys : updated.book.keys.Nodup
  /-- The keys are the old and the added ones. -/
  keys_perm : updated.book.keys.Perm (book.keys ++ updated.added)
  /-- The old keys keep their order. -/
  keys_sublist : book.keys.Sublist updated.book.keys
  keys_append : options.append = true → updated.book.keys = book.keys ++ updated.added
  places_sorted : ∀ entry ∈ updated.book.entries, IsSorted Place.isBefore entry.places
  /-- An entry has the old places in files that were not scanned and are still there, and the
  places where its key was observed. -/
  mem_places : ∀ entry ∈ updated.book.entries, ∀ place, place ∈ entry.places ↔
    (∃ old ∈ book.entries, old.key = entry.key ∧ place ∈ old.places ∧
      ¬ IsScanned observed place.path ∧ exists? place.path = true) ∨
    IsObservedAt observed entry.key place
  isDeleted_iff : options.keepsFlags = false → ∀ entry ∈ updated.book.entries,
    entry.isDeleted = true ↔ entry.places = []
  isDeleted_kept : options.keepsFlags = true → ∀ old ∈ book.entries,
    ∀ entry ∈ updated.book.entries, entry.key = old.key → entry.isDeleted = old.isDeleted
  /-- The keys of the old entries that were not deleted and are now, in the order of the book. -/
  deleted : updated.deleted = (book.entries.filter fun old =>
    !old.isDeleted && (updated.book.entry? old.key).any (·.isDeleted)).map (·.key)
  /-- The keys of the old entries that were deleted and no longer are, in the order of the book. -/
  restored : updated.restored = (book.entries.filter fun old =>
    old.isDeleted && (updated.book.entry? old.key).any (!·.isDeleted)).map (·.key)
  /-- Nothing but the places and the flag of an old entry changes. -/
  kept : ∀ old ∈ book.entries, ∃ entry ∈ updated.book.entries,
    entry = { old with places := entry.places, isDeleted := entry.isDeleted }

section Effect

variable (book : Book) (observed : Observed) (options : UpdateOptions) (exists? : String → Bool)

theorem update_mem_places (distinct : book.keys.Nodup) {entry : Entry}
    (entryMem : entry ∈ (book.update observed options exists?).book.entries) (place : Place) :
    place ∈ entry.places ↔
      (∃ old ∈ book.entries, old.key = entry.key ∧ place ∈ old.places ∧
        ¬ IsScanned observed place.path ∧ exists? place.path = true) ∨
      IsObservedAt observed entry.key place := by
  rcases update_entries_cases book observed options exists? entryMem with
    ⟨old, oldMem, rfl⟩ | isNew
  · rw [revised_places, mem_currentPlaces, revised_key]
    refine or_congr_left ⟨fun remains => ⟨old, oldMem, rfl, remains⟩, ?_⟩
    rintro ⟨other, otherMem, sameKey, remains⟩
    have same : some other = some old := by
      rw [← entry?_of_mem distinct otherMem, sameKey, entry?_of_mem distinct oldMem]
    exact Option.some.inj same ▸ remains
  · obtain ⟨unknown, _, _, _, placeIff⟩ := newEntries_facts isNew
    rw [placeIff place]
    refine ⟨.inr, fun either => either.resolve_left ?_⟩
    rintro ⟨old, oldMem, sameKey, _⟩
    exact unknown (sameKey ▸ List.mem_map_of_mem oldMem)

theorem update_isDeleted_iff (flags : options.keepsFlags = false) {entry : Entry}
    (entryMem : entry ∈ (book.update observed options exists?).book.entries) :
    entry.isDeleted = true ↔ entry.places = [] := by
  rcases update_entries_cases book observed options exists? entryMem with ⟨old, _, rfl⟩ | isNew
  · rw [revised_isDeleted, flags, revised_places]
    exact List.isEmpty_iff
  · obtain ⟨_, notDeleted, hasPlaces, _⟩ := newEntries_facts isNew
    simp [notDeleted, hasPlaces]

theorem update_isDeleted_kept (distinct : book.keys.Nodup) (flags : options.keepsFlags = true)
    {old entry : Entry} (oldMem : old ∈ book.entries)
    (entryMem : entry ∈ (book.update observed options exists?).book.entries)
    (sameKey : entry.key = old.key) : entry.isDeleted = old.isDeleted := by
  have found := entry?_of_mem (nodup_update_keys book observed options exists? distinct) entryMem
  rw [sameKey, update_entry?_of_mem book observed options exists? distinct oldMem] at found
  rw [← Option.some.inj found, revised_isDeleted, flags]
  rfl

theorem update_places_sorted {entry : Entry}
    (entryMem : entry ∈ (book.update observed options exists?).book.entries) :
    IsSorted Place.isBefore entry.places := by
  rcases update_entries_cases book observed options exists? entryMem with ⟨old, _, rfl⟩ | isNew
  · rw [revised_places]
    exact isSorted_sortedPlaces _
  · exact (newEntries_facts isNew).2.2.2.1

/-- The exact effect of an update. -/
theorem updateEffect_update (distinct : book.keys.Nodup) :
    UpdateEffect book observed options exists? (book.update observed options exists?) where
  added := by
    refine ⟨inOrder observed, inOrder_perm observed, pairwise_inOrder observed, ?_⟩
    rw [update_added, map_key_newEntries, map_key_newPhrases, map_key_observations]
  nodup_keys := nodup_update_keys book observed options exists? distinct
  keys_perm := update_keys_perm book observed options exists?
  keys_sublist := update_keys_sublist book observed options exists?
  keys_append := update_keys_append book observed options exists?
  places_sorted _ := update_places_sorted book observed options exists?
  mem_places _ := update_mem_places book observed options exists? distinct
  isDeleted_iff flags _ := update_isDeleted_iff book observed options exists? flags
  isDeleted_kept flags _ oldMem _ :=
    update_isDeleted_kept book observed options exists? distinct flags oldMem
  deleted := by
    rw [update_deleted]
    refine congrArg (List.map Entry.key) (List.filter_congr fun old oldMem => ?_)
    rw [update_entry?_of_mem book observed options exists? distinct oldMem, Option.any_some]
  restored := by
    rw [update_restored]
    refine congrArg (List.map Entry.key) (List.filter_congr fun old oldMem => ?_)
    rw [update_entry?_of_mem book observed options exists? distinct oldMem, Option.any_some]
  kept old oldMem := by
    refine ⟨revised observed options exists? old, ?_, revised_eq observed options exists? old⟩
    exact (mem_update_entries book observed options exists?).mpr (.inl ⟨old, oldMem, rfl⟩)

end Effect

/-- One entry moves, one comes back, and one is new. -/
theorem updateEffect_two_files :
    let book : Book := {
      preamble := ""
      entries := [
        { key := "a", places := [⟨"f", 1⟩, ⟨"g", 2⟩] },
        { key := "b", isDeleted := true }] }
    let phrase (key : String) (line : Nat) : Phrase :=
      { (default : Phrase) with key, place := ⟨"", line⟩ }
    let observed : Observed := [("h", [phrase "b" 1]), ("f", [phrase "a" 3, phrase "c" 5])]
    let exists? (path : String) : Bool := path == "g"
    book.keys.Nodup ∧ UpdateEffect book observed {} exists? (book.update observed {} exists?) :=
  ⟨by decide, updateEffect_update _ _ _ _ (by decide)⟩

end Phrasebook.Book
