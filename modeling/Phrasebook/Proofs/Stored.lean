import Phrasebook.Proofs.Exclusion
import Phrasebook.Proofs.NamedPlaces
import Phrasebook.Proofs.PartialScan
import Phrasebook.Proofs.Rescan
import Phrasebook.Proofs.StoreRun

/-!
# What an update leaves stored

An update that is no trial leaves the places of its book in the store, whether
it writes the store or finds it up to date.  For the paths that it scanned
these are the places at which it observed phrases, whatever the book and the
store said before.
-/

namespace Phrasebook.Book

/-! ## Observations in source files -/

section Observed

variable {tag : String} {version : Int} {files : List Scan.SourceFile} {observed : Observed}

theorem IsObservedIn.mem_iff (isObserved : IsObservedIn tag version files observed)
    (found : String × List Phrase) :
    found ∈ observed ↔ ∃ file ∈ files, fileOf tag version ⟨file.path, file.source⟩ = .ok found := by
  constructor
  · intro foundMem
    obtain ⟨file, fileMem, -, isFound⟩ := exists_mem_zip_right isObserved foundMem
    exact ⟨file, fileMem, isFound⟩
  · rintro ⟨file, fileMem, isFound⟩
    obtain ⟨other, otherMem, -, isOther⟩ := exists_mem_zip_left isObserved fileMem
    obtain rfl := Except.ok.inj (isFound.symm.trans isOther)
    exact otherMem

theorem IsObservedIn.isScanned_iff (isObserved : IsObservedIn tag version files observed)
    (path : String) : IsScanned observed path ↔ ∃ file ∈ files, file.path = path := by
  constructor
  · intro isScanned
    obtain ⟨found, foundMem, rfl⟩ := List.mem_map.mp isScanned
    obtain ⟨file, fileMem, isFound⟩ := (isObserved.mem_iff found).mp foundMem
    obtain ⟨_, _, rfl⟩ := map_eq_ok_iff.mp isFound
    exact ⟨file, fileMem, rfl⟩
  · rintro ⟨file, fileMem, rfl⟩
    obtain ⟨found, foundMem, -, isFound⟩ := exists_mem_zip_left isObserved fileMem
    obtain ⟨_, _, rfl⟩ := map_eq_ok_iff.mp isFound
    exact List.mem_map_of_mem (f := (·.1)) foundMem

/-- A phrase says itself which file it was found in. -/
theorem IsObservedIn.path_eq (isObserved : IsObservedIn tag version files observed)
    {found : String × List Phrase} (foundMem : found ∈ observed) {phrase : Phrase}
    (phraseMem : phrase ∈ found.2) : phrase.place.path = found.1 := by
  obtain ⟨file, -, isFound⟩ := (isObserved.mem_iff found).mp foundMem
  obtain ⟨phrases, arePhrases, rfl⟩ := map_eq_ok_iff.mp isFound
  obtain ⟨script, _, arePhrases⟩ := bind_eq_ok_iff.mp arePhrases
  obtain ⟨element, -, -, isPhrase⟩ :=
    exists_mem_zip_right (Phrase.forall₂_isPhraseOf arePhrases) phraseMem
  rw [isPhrase.place]

theorem IsObservedIn.isObservedAt_iff (isObserved : IsObservedIn tag version files observed)
    (key : String) (place : Place) :
    IsObservedAt observed key place ↔
      ∃ phrase ∈ observed.flatMap (·.2), phrase.key = key ∧ phrase.place = place := by
  constructor
  · rintro ⟨found, foundMem, phrase, phraseMem, isKey, rfl⟩
    refine ⟨phrase, List.mem_flatMap.mpr ⟨found, foundMem, phraseMem⟩, isKey, ?_⟩
    rw [← isObserved.path_eq foundMem phraseMem]
  · rintro ⟨phrase, phraseMem, isKey, rfl⟩
    obtain ⟨found, foundMem, phraseMem⟩ := List.mem_flatMap.mp phraseMem
    refine ⟨found, foundMem, phrase, phraseMem, isKey, ?_⟩
    rw [← isObserved.path_eq foundMem phraseMem]

/-- In the same files the same is observed. -/
theorem IsObservedIn.mem_congr {others : List Scan.SourceFile} {again : Observed}
    (first : IsObservedIn tag version files observed)
    (second : IsObservedIn tag version others again)
    (same : ∀ file, file ∈ others ↔ file ∈ files) (found : String × List Phrase) :
    found ∈ again ↔ found ∈ observed := by
  rw [first.mem_iff, second.mem_iff]
  exact exists_congr fun file => and_congr_left fun _ => same file

theorem isScanned_congr {again : Observed} (same : ∀ file, file ∈ again ↔ file ∈ observed)
    {path : String} : IsScanned again path ↔ IsScanned observed path := by
  unfold IsScanned
  simp only [List.mem_map, same]

theorem isObservedAt_congr {again : Observed} (same : ∀ file, file ∈ again ↔ file ∈ observed)
    {key : String} {place : Place} :
    IsObservedAt again key place ↔ IsObservedAt observed key place := by
  unfold IsObservedAt
  simp only [same]

end Observed

/-! ## Stores of the places of a book -/

section PlacesByKey

variable {book : Book} {observed : Observed} {options : UpdateOptions} {exists? : String → Bool}
  {store : PlaceStore}

/-- The places of a book whose entries have keys of their own, in files that have a path. -/
def placing (book : Book) (distinct : book.keys.Nodup) (hasPaths : book.HasPaths) : Placing where
  places := book.placesByKey
  distinct := by
    unfold placesByKey
    rwa [List.map_map]
  named entry entryMem := by
    obtain ⟨source, sourceMem, rfl⟩ := List.mem_map.mp entryMem
    exact hasPaths source sourceMem

theorem mem_get_of_holds (holds : store.Holds book.placesByKey) (key : String) (place : Place) :
    place ∈ store.get key ↔ book.Lists key place := by
  rw [holds.members]
  constructor
  · rintro ⟨given, givenMem, placeMem⟩
    obtain ⟨entry, entryMem, same⟩ := List.mem_map.mp givenMem
    obtain ⟨rfl, rfl⟩ := Prod.mk.inj same
    exact ⟨entry, entryMem, rfl, placeMem⟩
  · rintro ⟨entry, entryMem, rfl, placeMem⟩
    exact ⟨entry.places, List.mem_map_of_mem (f := fun entry => (entry.key, entry.places)) entryMem,
      placeMem⟩

/-- After an update the places in a scanned file are those at which phrases were observed. -/
theorem mem_get_of_update
    (holds : store.Holds (book.update observed options exists?).book.placesByKey) (key : String)
    {place : Place} (isScanned : IsScanned observed place.path) :
    place ∈ store.get key ↔ IsObservedAt observed key place := by
  rw [mem_get_of_holds holds, lists_update]
  exact ⟨fun either => either.resolve_left fun isOld => isOld.2.1 isScanned, .inr⟩

end PlacesByKey

end Phrasebook.Book

namespace Phrasebook.Project

open Command
open Text (Source)

/-! ## Writing back -/

section Commit

variable {project : Project} {session last : Session} {store next : PlaceStore}

theorem exists_book_of_readBook (noDots : ".." ∉ session.disk.current) {book : Book} {text : String}
    (done : project.readBook.run.run session = (.ok (book, text), last)) :
    ∃ source, session.disk.read project.bookPath = .ok source ∧ source.lines? = some text ∧
      Book.read (some project.settings.bookFile) project.settings.tag text = .ok book := by
  obtain ⟨source, isRead⟩ := read_of_readBook project done
  obtain ⟨former, holds, isText, isBook⟩ := readBook_eq_ok noDots done
  have isFile := Disk.fileAt?_of_read noDots isRead
  have sameFile : source = former := Option.some.inj (isFile.symm.trans holds.isFile)
  exact ⟨source, isRead, sameFile ▸ isText, isBook⟩

/-- A book that is written leaves the stored places alone: they are in another file, since no file
is read as both. -/
theorem storedPlaces_write_book {disk : Disk} (noDots : ".." ∉ disk.current) {old source : Source}
    {text : String} {path? : Option String} {book : Book}
    (isRead : disk.read project.bookPath = .ok old) (isText : old.lines? = some text)
    (isBook : Book.read path? project.settings.tag text = .ok book)
    (isStored : project.storedPlaces disk = .ok store)
    (done : (disk.write project.bookPath source).1 = .ok ()) :
    project.storedPlaces (disk.write project.bookPath source).2 = .ok store := by
  have sameShape := Disk.sameShape_write isRead (Disk.canWrite_of_write done) source
  have sameRead : (disk.write project.bookPath source).2.read project.placesPath =
      disk.read project.placesPath := by
    unfold Disk.read
    rw [← sameShape.placeOf_eq]
    cases isPlace : disk.placeOf project.placesPath with
    | error kind => rfl
    | ok place =>
        dsimp only
        rw [← sameShape.hasDirectory_eq]
        by_cases apart : (disk.resolve project.bookPath).parts = place
        · exfalso
          have isFile : disk.fileAt? place = some old := apart ▸ Disk.fileAt?_of_read noDots isRead
          unfold storedPlaces Disk.read at isStored
          rw [isPlace] at isStored
          dsimp only at isStored
          rw [isFile] at isStored
          dsimp only at isStored
          rw [isText] at isStored
          exact Book.read_ne_ok (mapError_eq_ok_iff.mp isStored) book isBook
        · rw [Disk.fileAt?_write_of_ne noDots source apart]
  unfold storedPlaces
  rw [sameRead]
  exact isStored

theorem growsBy_persist (noDots : ".." ∉ session.disk.current)
    (done : (project.persist store).run.run session = (.ok next, last)) :
    session.disk.GrowsBy (· = (session.disk.resolve project.placesPath).parts) last.disk := by
  unfold persist at done
  split at done
  · obtain ⟨_, between, isWritten, done⟩ := Book.run_bind_eq_ok_iff.mp done
    cases done
    obtain ⟨isDone, isDisk⟩ := disk_of_writeText isWritten
    rw [isDisk]
    exact Disk.growsBy_write noDots isDone
  · cases done
    exact .refl _ _

/-- What is written back is stored, and only the two files have changed. -/
theorem storedPlaces_of_commit (noDots : ".." ∉ session.disk.current) {old : Source}
    {text : String} {path? : Option String} {book : Book} {updated : Book.Updated}
    {revision : Revision} (isRead : session.disk.read project.bookPath = .ok old)
    (isText : old.lines? = some text)
    (isBook : Book.read path? project.settings.tag text = .ok book)
    (isStored : project.storedPlaces session.disk = .ok store)
    (distinct : updated.book.keys.Nodup) (hasPaths : updated.book.HasPaths)
    (done : (project.commit text updated store false).run.run session = (.ok revision, last)) :
    ∃ stored, project.storedPlaces last.disk = .ok stored ∧
      stored.Holds updated.book.placesByKey ∧
      session.disk.GrowsBy
        (fun place => place = (session.disk.resolve project.bookPath).parts ∨
          place = (session.disk.resolve project.placesPath).parts) last.disk := by
  obtain ⟨between, next, isWritten, isPersisted⟩ := persist_of_commit done
  have fromBetween : project.storedPlaces between.disk = .ok store ∧
      session.disk.GrowsBy (· = (session.disk.resolve project.bookPath).parts) between.disk := by
    rcases isWritten with sameDisk | ⟨source, isDone, isDisk⟩
    · rw [sameDisk]
      exact ⟨isStored, .refl _ _⟩
    · rw [isDisk]
      exact ⟨storedPlaces_write_book noDots isRead isText isBook isStored isDone,
        Disk.growsBy_write noDots isDone⟩
  obtain ⟨isBetween, growsBook⟩ := fromBetween
  have growsPlaces := growsBy_persist (growsBook.current ▸ noDots) isPersisted
  obtain ⟨proper, notChanged⟩ := isProper_of_storedPlaces isBetween
  let placing := updated.book.placing distinct hasPaths
  have describes : Ledger.Describes ⟨placing.mapping, store.mapping⟩ project between.disk
      (store.replace placing.places) := by
    refine ⟨proper.replace placing, funext (store.mapping_replace placing),
      ⟨store, isBetween, rfl⟩, fun isSame => ?_⟩
    exact funext (PlaceStore.mapping_eq_of_replace isSame).2
  obtain ⟨-, -, ⟨stored, isLast, isMapping⟩, -⟩ := describes.persist isPersisted
  refine ⟨stored, isLast, ?_, ?_⟩
  · exact (isProper_of_storedPlaces isLast).1.holds placing.distinct fun key =>
      congrFun isMapping key
  · rw [growsBook.resolve_eq] at growsPlaces
    exact (growsBook.mono fun _ => .inl).trans (growsPlaces.mono fun _ => .inr)

end Commit

/-! ## Updates -/

/-- What an update reads before it writes. -/
structure Reading where
  book : Book
  text : String
  store : PlaceStore
  scope : Scan.Scope
  files : List Scan.SourceFile
  observed : Book.Observed

namespace Reading

/-- A project is read as it is on a disk. -/
structure IsOf (reading : Reading) (project : Project) (disk : Disk) : Prop where
  isText : ∃ source, disk.read project.bookPath = .ok source ∧ source.lines? = some reading.text
  isBook : Book.read (some project.settings.bookFile) project.settings.tag reading.text =
    .ok reading.book
  isStored : project.storedPlaces disk = .ok reading.store
  hasScope : Scan.HasScope disk (disk.resolve project.root) (scanOptions project.settings)
    reading.scope
  areSources : ∀ file, file ∈ reading.files ↔ project.IsSource disk reading.scope file
  isObserved : Book.IsObservedIn project.settings.tag project.settings.version reading.files
    reading.observed

/-- The book that was read with the stored places. -/
def placed (reading : Reading) : Book :=
  reading.store.addToBook reading.book

/-- What becomes of the book on a disk. -/
def updated (reading : Reading) (project : Project) (disk : Disk) (append? : Option Bool) :
    Book.Updated :=
  reading.placed.update reading.observed
    (updateOptions project.settings (append?.getD project.settings.appends) false)
    fun file => disk.exists? (project.pathOf file)

section IsOf

variable {reading : Reading} {project : Project} {disk : Disk}

theorem IsOf.distinct (isReading : reading.IsOf project disk) : reading.placed.keys.Nodup := by
  rw [placed, Book.keys_eq_of_forall₂ (Book.forall₂_isLater_addToBook _ _)]
  exact Book.nodup_keys_of_read isReading.isBook

theorem IsOf.hasPaths (isReading : reading.IsOf project disk) : reading.placed.HasPaths :=
  (Book.hasPaths_of_read isReading.isBook).addToBook (isProper_of_storedPlaces isReading.isStored).1

theorem IsOf.path_ne_empty (isReading : reading.IsOf project disk) {path : String}
    (isScanned : Book.IsScanned reading.observed path) : path ≠ "" := by
  obtain ⟨file, fileMem, rfl⟩ := (isReading.isObserved.isScanned_iff path).mp isScanned
  exact Scan.path_ne_empty ((isReading.areSources file).mp fileMem).isIncluded

theorem IsOf.nodup_updated (isReading : reading.IsOf project disk) (append? : Option Bool) :
    (reading.updated project disk append?).book.keys.Nodup :=
  Book.nodup_update_keys _ _ _ _ isReading.distinct

theorem IsOf.hasPaths_updated (isReading : reading.IsOf project disk) (append? : Option Bool) :
    (reading.updated project disk append?).book.HasPaths :=
  isReading.hasPaths.update isReading.distinct (fun _ => isReading.path_ne_empty) _ _

end IsOf

end Reading

/-- What an update leaves behind: the sources in which it observed phrases, and the places that it
stored for their keys. -/
structure LeavesStored (project : Project) (before after : Disk) (scope : Scan.Scope)
    (observed : Book.Observed) (stored : PlaceStore) : Prop where
  hasScope : Scan.HasScope before (before.resolve project.root) (scanOptions project.settings) scope
  isObserved : ∃ files, (∀ file, file ∈ files ↔ project.IsSource before scope file) ∧
    Book.IsObservedIn project.settings.tag project.settings.version files observed
  grows : before.GrowsBy
    (fun place => place = (before.resolve project.bookPath).parts ∨
      place = (before.resolve project.placesPath).parts) after
  isStored : project.storedPlaces after = .ok stored
  members : ∀ key place, Book.IsScanned observed place.path →
    (place ∈ stored.get key ↔ Book.IsObservedAt observed key place)
  areThere : ∀ key, ∀ place ∈ stored.get key, ¬Book.IsScanned observed place.path →
    before.exists? (project.pathOf place.path) = true

section Update

variable {environment : Settings.Environment} {path : String} {session loaded last : Session}
  {project : Project} {append? : Option Bool} {isTrial : Bool} {revision : Revision}

/-- To bring a book up to date is to say something besides. -/
theorem updated_of_updateBook {options : Book.UpdateOptions} {observed : Book.Observed}
    {book : Book} {updated : Book.Updated}
    (done : (project.updateBook options observed book).run.run session = (.ok updated, last)) :
    updated = book.update observed options
      fun file => session.disk.exists? (project.pathOf file) := by
  obtain ⟨disk, _, isDisk, done⟩ := Book.run_bind_eq_ok_iff.mp done
  cases isDisk
  obtain ⟨_, _, _, done⟩ := Book.run_bind_eq_ok_iff.mp done
  cases done
  rfl

/-- An update that succeeds has read the project, and it has written what becomes of the book. -/
theorem exists_reading_of_update (noDots : ".." ∉ session.disk.current)
    (isLoaded : (load environment path).run.run session = (.ok project, loaded))
    (done : (update environment path append? isTrial).run.run session = (.ok revision, last)) :
    ∃ (reading : Reading) (before : Session), reading.IsOf project session.disk ∧
      before.disk = session.disk ∧
      (project.commit reading.text (reading.updated project session.disk append?) reading.store
        isTrial).run.run before = (.ok revision, last) := by
  obtain ⟨found, between, isFound, done⟩ := Book.run_bind_eq_ok_iff.mp done
  cases isLoaded.symm.trans isFound
  obtain ⟨⟨book, text⟩, afterBook, isBook, done⟩ := Book.run_bind_eq_ok_iff.mp done
  obtain ⟨store, afterPlaces, isStore, done⟩ := Book.run_bind_eq_ok_iff.mp done
  obtain ⟨files, afterFiles, areFiles, done⟩ := Book.run_bind_eq_ok_iff.mp done
  obtain ⟨observed, afterObserved, isObserved, done⟩ := Book.run_bind_eq_ok_iff.mp done
  obtain ⟨updated, afterUpdate, isUpdated, done⟩ := Book.run_bind_eq_ok_iff.mp done
  -- nothing is written before the commit
  have atBook : loaded.disk = session.disk := (keepsDisk_load environment path).disk_eq isLoaded
  have atPlaces : afterBook.disk = session.disk :=
    ((keepsDisk_readBook project).disk_eq isBook).trans atBook
  have atFiles : afterPlaces.disk = session.disk :=
    ((keepsDisk_readPlaces project).disk_eq isStore).trans atPlaces
  have atObserved : afterFiles.disk = session.disk :=
    ((keepsDisk_sourceFiles project).disk_eq areFiles).trans atFiles
  have atUpdate : afterObserved.disk = session.disk :=
    ((keepsDisk_observe project files _).disk_eq isObserved).trans atObserved
  have atCommit : afterUpdate.disk = session.disk :=
    ((keepsDisk_updateBook project _ observed _).disk_eq isUpdated).trans atUpdate
  obtain ⟨old, isRead, isText, isBook⟩ := exists_book_of_readBook (atBook ▸ noDots) isBook
  have isStored := storedPlaces_of_readPlaces isStore
  obtain ⟨scope, hasScope, areSources⟩ := isSource_of_sourceFiles areFiles
  have isObserved := Book.isObservedIn_of_observe isObserved
  have isUpdated := updated_of_updateBook isUpdated
  rw [atBook] at isRead
  rw [atPlaces] at isStored
  rw [atFiles] at hasScope areSources
  rw [atUpdate] at isUpdated
  subst isUpdated
  exact ⟨⟨book, text, store, scope, files, observed⟩, afterUpdate,
    ⟨⟨old, isRead, isText⟩, isBook, isStored, hasScope, areSources, isObserved⟩, atCommit, done⟩

theorem leavesStored_of_update (noDots : ".." ∉ session.disk.current)
    (isLoaded : (load environment path).run.run session = (.ok project, loaded))
    (done : (update environment path append? false).run.run session = (.ok revision, last)) :
    ∃ scope observed stored, LeavesStored project session.disk last.disk scope observed stored := by
  obtain ⟨reading, before, isReading, sameDisk, done⟩ :=
    exists_reading_of_update noDots isLoaded done
  obtain ⟨old, isRead, isText⟩ := isReading.isText
  have isStored := isReading.isStored
  rw [← sameDisk] at noDots isRead isStored
  obtain ⟨stored, isLast, holds, grows⟩ := storedPlaces_of_commit noDots isRead isText
    isReading.isBook isStored (isReading.nodup_updated append?)
    (isReading.hasPaths_updated append?) done
  rw [sameDisk] at grows
  refine ⟨reading.scope, reading.observed, stored, isReading.hasScope,
    ⟨reading.files, isReading.areSources, isReading.isObserved⟩, grows, isLast,
    fun key place isScanned => Book.mem_get_of_update holds key isScanned,
    fun key place placeMem unscanned => ?_⟩
  have isListed := (Book.mem_get_of_holds holds key place).mp placeMem
  rw [Reading.updated, Book.lists_update] at isListed
  rcases isListed with isOld | isObserved
  · exact isOld.2.2
  · exact absurd isObserved.isScanned unscanned

end Update

end Phrasebook.Project
