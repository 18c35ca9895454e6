import Phrasebook.Proofs.Difference
import Phrasebook.Proofs.Listing
import Phrasebook.Proofs.UpdateReturn

/-!
# Repeated updates

An update that is repeated at once finds the phrases that it has found before.
It changes nothing if the book that it wrote reads back: then the entries are
settled, the text is the one in the file, and the store holds their places.
-/

namespace Phrasebook

/-! ## Entries with stored places -/

namespace PlaceStore

section AddTo

variable {store : PlaceStore} {book : Book} {entry : Entry}

theorem addTo_eq (store : PlaceStore) (entry : Entry) :
    store.addTo entry = { entry with places := (store.addTo entry).places } := by
  unfold addTo
  split <;> rfl

theorem key_addTo (store : PlaceStore) (entry : Entry) : (store.addTo entry).key = entry.key := by
  rw [addTo_eq]

/-- An entry that lists nothing but what is stored has the stored places. -/
theorem places_addTo (proper : store.IsProper) (isStored : entry.places ⊆ store.get entry.key) :
    (store.addTo entry).places = store.get entry.key := by
  unfold addTo
  split
  · rename_i isEmpty
    rw [isEmpty] at isStored ⊢
    exact List.eq_nil_of_subset_nil isStored
  · refine IsSorted.eq_of_mem_iff Place.isLinear_isBefore (isSorted_sortedPlaces _)
      (proper.sorted_get entry.key) fun place => ?_
    rw [mem_sortedPlaces, List.mem_append]
    exact or_iff_right_of_imp fun placeMem => isStored placeMem

theorem keys_addToBook (store : PlaceStore) (book : Book) :
    (store.addToBook book).keys = book.keys :=
  Book.keys_eq_of_forall₂ (Book.forall₂_isLater_addToBook book store)

/-- The text of a book does not show the places of its entries. -/
theorem text_addToBook (store : PlaceStore) (book : Book) (indent : String) :
    (store.addToBook book).text indent = book.text indent := by
  have sameText (entry : Entry) :
      Book.entryText indent (store.addTo entry) = Book.entryText indent entry := by
    rw [addTo_eq]
    rfl
  simp only [Book.text, addToBook, List.map_map, Function.comp_def, sameText]

/-- A store is left alone by the places that it has. -/
theorem replace_eq_self (proper : store.IsProper) (placing : Placing)
    (same : ∀ key, placing.mapping key = store.mapping key) :
    store.replace placing.places = store := by
  have distinct := (map_key_sorted placing.places).symm ▸ placing.distinct
  have sameKeys : (placing.places.map (·.1)).Perm (store.places.map (·.1)) := by
    refine (List.perm_ext_iff_of_nodup placing.distinct proper.distinct).mpr fun key => ?_
    rw [← isSome_lookup_iff, ← isSome_lookup_iff]
    change _ ↔ (store.mapping key).isSome = true
    rw [← same, Placing.mapping, Option.isSome_map]
  have sameSize : placing.places.length = store.places.length := by
    simpa using sameKeys.length_eq
  have isSame : sameMapping (placing.places.map fun entry => (entry.1, sortedPlaces entry.2))
      store.places = true := by
    rw [sameMapping, Bool.and_eq_true, beq_iff_eq, List.all_eq_true]
    refine ⟨by rw [List.length_map, sameSize], fun entry entryMem => ?_⟩
    change (store.mapping entry.1 == some entry.2) = true
    rw [← same, Placing.mapping, ← lookup_sorted, Book.lookup_of_mem distinct entryMem]
    exact beq_self_eq_true _
  unfold replace
  exact if_pos isSame

end AddTo

end PlaceStore

namespace Project

open Command
open Text (Source)

/-! ## Files in step -/

/-- The files of a project are in step: the book that is read from its file is written as it stands
there, and every entry is flagged as the places call for that are stored for it. -/
structure IsInStep (project : Project) (disk : Disk) (book : Book) (stored : PlaceStore) :
    Prop where
  isText : ∃ source, disk.read project.bookPath = .ok source ∧
    source.lines? = some (book.text project.settings.indent)
  isBook : Book.read (some project.settings.bookFile) project.settings.tag
    (book.text project.settings.indent) = .ok book
  isStored : project.storedPlaces disk = .ok stored
  keys : ∀ key, key ∈ stored.keys ↔ key ∈ book.keys
  places : ∀ entry ∈ book.entries, entry.places ⊆ stored.get entry.key
  isDeleted : ∀ entry ∈ book.entries, entry.isDeleted = (stored.get entry.key).isEmpty

section InStep

variable {project : Project} {disk : Disk} {book : Book} {stored : PlaceStore}
  {observed : Book.Observed} {exists? : String → Bool}

/-- The entries of a book in step are settled by what was observed when they were stored. -/
theorem IsInStep.isSettled (inStep : project.IsInStep disk book stored)
    (members : ∀ key place, Book.IsScanned observed place.path →
      (place ∈ stored.get key ↔ Book.IsObservedAt observed key place))
    (areThere : ∀ key, ∀ place ∈ stored.get key, ¬Book.IsScanned observed place.path →
      exists? place.path = true) {entry : Entry}
    (entryMem : entry ∈ (stored.addToBook book).entries) :
    Book.IsSettled observed exists? entry := by
  have proper := (isProper_of_storedPlaces inStep.isStored).1
  obtain ⟨old, oldMem, rfl⟩ := List.mem_map.mp entryMem
  have samePlaces := PlaceStore.places_addTo proper (inStep.places old oldMem)
  have sameFlag : (stored.addTo old).isDeleted = old.isDeleted := by rw [PlaceStore.addTo_eq]
  refine ⟨?_, fun place placeMem => ?_, fun place isObserved => ?_, ?_⟩
  · rw [samePlaces]
    exact proper.sorted_get old.key
  · rw [samePlaces] at placeMem
    rw [PlaceStore.key_addTo]
    by_cases isScanned : Book.IsScanned observed place.path
    · exact .inr ((members old.key place isScanned).mp placeMem)
    · exact .inl ⟨isScanned, areThere old.key place placeMem isScanned⟩
  · rw [PlaceStore.key_addTo] at isObserved
    rw [samePlaces]
    exact (members old.key place isObserved.isScanned).mpr isObserved
  · rw [sameFlag, samePlaces]
    exact inStep.isDeleted old oldMem

theorem IsInStep.knows (inStep : project.IsInStep disk book stored)
    (isObserved : ∀ file ∈ observed, ∀ phrase ∈ file.2, ∃ place, place ∈ stored.get phrase.key) :
    (stored.addToBook book).Knows observed := by
  intro file fileMem phrase phraseMem
  obtain ⟨place, placeMem⟩ := isObserved file fileMem phrase phraseMem
  rw [PlaceStore.keys_addToBook, ← inStep.keys, PlaceStore.keys, mem_sortedTexts]
  rcases stored.get_cases phrase.key with isEmpty | isStored
  · rw [isEmpty] at placeMem
    contradiction
  · exact List.mem_map_of_mem (f := (·.1)) isStored

theorem IsInStep.lookup_eq (inStep : project.IsInStep disk book stored) (key : String) :
    (stored.addToBook book).placesByKey.lookup key = stored.mapping key := by
  have proper := (isProper_of_storedPlaces inStep.isStored).1
  have sameKeys : (stored.addToBook book).placesByKey.map (·.1) = book.keys := by
    rw [← PlaceStore.keys_addToBook stored book, Book.placesByKey, List.map_map]
    rfl
  have isKey : key ∈ book.keys ↔ (stored.mapping key).isSome = true := by
    rw [← inStep.keys, PlaceStore.keys, mem_sortedTexts]
    exact PlaceStore.isSome_lookup_iff.symm
  by_cases keyMem : key ∈ book.keys
  · obtain ⟨places, isStored⟩ := Option.isSome_iff_exists.mp (isKey.mp keyMem)
    obtain ⟨entry, entryMem, rfl⟩ := List.mem_map.mp keyMem
    have isListed : (entry.key, stored.get entry.key) ∈ (stored.addToBook book).placesByKey := by
      rw [← PlaceStore.places_addTo proper (inStep.places entry entryMem),
        ← PlaceStore.key_addTo stored entry]
      exact List.mem_map_of_mem (f := fun entry : Entry => (entry.key, entry.places))
        (List.mem_map_of_mem entryMem)
    rw [Book.lookup_of_mem (sameKeys ▸ Book.nodup_keys_of_read inStep.isBook) isListed, isStored]
    exact congrArg some (congrArg (Option.getD · []) isStored)
  · rw [Option.not_isSome_iff_eq_none.mp (mt isKey.mpr keyMem)]
    refine Option.not_isSome_iff_eq_none.mp fun isListed => keyMem ?_
    rwa [PlaceStore.isSome_lookup_iff, sameKeys] at isListed

theorem IsInStep.replace_eq (inStep : project.IsInStep disk book stored) :
    stored.replace (stored.addToBook book).placesByKey = stored := by
  have proper := (isProper_of_storedPlaces inStep.isStored).1
  have distinct : (stored.addToBook book).keys.Nodup := by
    rw [PlaceStore.keys_addToBook]
    exact Book.nodup_keys_of_read inStep.isBook
  have hasPaths := (Book.hasPaths_of_read inStep.isBook).addToBook proper
  refine PlaceStore.replace_eq_self proper ((stored.addToBook book).placing distinct hasPaths)
    fun key => ?_
  rw [proper.mapping_eq]
  exact congrArg (Option.map sortedPlaces) (inStep.lookup_eq key)

end InStep

/-- A book with a rendering for one phrase as it is written, and the place that is stored for it. -/
theorem isInStep_one_entry :
    let project : Project := ⟨.ofParts ["p"], { bookFile := "book.js", marker := "O" }⟩
    let text := "export default \x7b\n\t\"k\": \x7b\n\t\t\"en\": () => <O>hi</O>,\n\t\x7d,\n\x7d\n"
    let disk : Disk := {
      files := [
        (["p", "book.js"], Source.ofString text),
        (["p", ".jsxlate", "refs.json"],
          Source.ofString "\x7b\"version\": 1, \"refs\": \x7b\"k\": [\"a.js:1\"]\x7d\x7d")]
      directories := [["p"], ["p", ".jsxlate"]] }
    ∃ book stored, book.keys = ["k"] ∧ project.IsInStep disk book stored := by
  intro project text disk
  have isRead : (Book.read (some project.settings.bookFile) project.settings.tag text).toOption.map
      (fun book => decide (book.text project.settings.indent = text ∧ book.keys = ["k"] ∧
        ∀ entry ∈ book.entries, entry.places = [] ∧ entry.isDeleted = false)) = some true := by
    decide +kernel
  have isStored : (project.storedPlaces disk).toOption.map
      (fun stored => decide (stored.keys = ["k"] ∧ stored.get "k" = [⟨"a.js", 1⟩])) =
        some true := by
    decide +kernel
  have isFile : (disk.read project.bookPath).toOption = some (Source.ofString text) := by
    decide +kernel
  have isLines : (Source.ofString text).lines? = some text := by
    decide +kernel
  clear_value project text disk
  obtain ⟨book, isBook, holds⟩ := Option.map_eq_some_iff.mp isRead
  obtain ⟨isText, isKey, isPlain⟩ := of_decide_eq_true holds
  obtain ⟨stored, areStored, holds⟩ := Option.map_eq_some_iff.mp isStored
  obtain ⟨isStoredKey, isPlace⟩ := of_decide_eq_true holds
  have keyOf (entry : Entry) (entryMem : entry ∈ book.entries) : entry.key = "k" := by
    have keyMem : entry.key ∈ book.keys := List.mem_map_of_mem entryMem
    rwa [isKey, List.mem_singleton] at keyMem
  rw [← isText] at isFile isLines isBook
  exact ⟨book, stored, isKey, {
    isText := ⟨_, toOption_eq_some_iff.mp isFile, isLines⟩
    isBook := toOption_eq_some_iff.mp isBook
    isStored := toOption_eq_some_iff.mp areStored
    keys := fun key => by rw [isKey, isStoredKey]
    places := fun entry entryMem => by
      rw [(isPlain entry entryMem).1]
      exact List.nil_subset _
    isDeleted := fun entry entryMem => by
      rw [(isPlain entry entryMem).2, keyOf entry entryMem, isPlace]
      rfl }⟩

/-! ## Runs -/

section Runs

variable {project : Project} {session : Session} {book : Book} {text : String}

/-- A command that ends with a loop returns if each of the rounds goes on. -/
theorem exists_run_forIn_pure {α β : Type} {values : List α}
    {round : α → PUnit → Command (ForInStep PUnit)} {result : β}
    (goesOn : ∀ value session, ∃ last,
      (round value PUnit.unit).run.run session = (.ok (.yield PUnit.unit), last))
    (session : Session) :
    ∃ last, (forIn values PUnit.unit round >>= fun _ => pure result : Command β).run.run session =
      (.ok result, last) := by
  obtain ⟨last, isLoop⟩ := exists_run_forIn goesOn session
  rw [run_bind_of_ok isLoop]
  exact ⟨last, rfl⟩

theorem exists_run_sayObstacles (tag text : String) (isBefore : Nat → Bool) (session : Session) :
    ∃ last, (sayObstacles tag text isBefore).run.run session = (.ok (), last) := by
  refine exists_run_forIn_pure (fun obstacle session => ?_) session
  dsimp only
  split <;> exact ⟨_, rfl⟩

theorem run_readText {path : Disk.Path} {source : Source}
    (isRead : session.disk.read path = .ok source) (isText : source.lines? = some text) :
    (readText path).run.run session = (.ok text, session) := by
  have isSource : (readFile path).run.run session = (.ok source, session) := by
    have isDisk : (Command.disk : Command Disk).run.run session = (.ok session.disk, session) := rfl
    unfold readFile
    rw [run_bind_of_ok isDisk, isRead]
    rfl
  unfold readText
  rw [run_bind_of_ok isSource, isText]
  rfl

theorem exists_run_readBook {source : Source}
    (isRead : session.disk.read project.bookPath = .ok source)
    (isText : source.lines? = some text)
    (isBook : Book.read (some project.settings.bookFile) project.settings.tag text = .ok book) :
    ∃ last, project.readBook.run.run session = (.ok (book, text), last) := by
  have isDisk : (Command.disk : Command Disk).run.run session = (.ok session.disk, session) := rfl
  have isThere : session.disk.exists? project.bookPath = true := by
    rw [Disk.exists?_eq, isRead]
  obtain ⟨said, isSaid⟩ := exists_run_sayObstacles project.settings.tag text (fun _ => true) session
  unfold readBook
  dsimp only
  rw [run_bind_of_ok isDisk, isThere, if_neg (by decide),
    run_bind_of_ok (run_readText isRead isText), isBook]
  dsimp only
  rw [run_bind_of_ok isSaid]
  exact ⟨_, rfl⟩

theorem exists_run_updateBook (project : Project) (options : Book.UpdateOptions)
    (observed : Book.Observed) (book : Book) (session : Session) :
    ∃ last, (project.updateBook options observed book).run.run session =
      (.ok (book.update observed options
        fun file => session.disk.exists? (project.pathOf file)), last) := by
  have isDisk : (Command.disk : Command Disk).run.run session = (.ok session.disk, session) := rfl
  unfold updateBook
  rw [run_bind_of_ok isDisk]
  exact exists_run_forIn_pure (fun _ _ => ⟨_, rfl⟩) session

/-- An update whose reading succeeds comes to the commit. -/
theorem exists_run_update {environment : Settings.Environment} {path : String} {loaded : Session}
    {source : Source} {store : PlaceStore} (holds : Book.Observed → Prop)
    (isLoaded : (load environment path).run.run session = (.ok project, loaded))
    (isRead : session.disk.read project.bookPath = .ok source) (isText : source.lines? = some text)
    (isBook : Book.read (some project.settings.bookFile) project.settings.tag text = .ok book)
    (isStored : project.storedPlaces session.disk = .ok store)
    (observes : ∀ here : Session, here.disk = session.disk → ∃ files observed scanned final,
      project.sourceFiles.run.run here = (.ok files, scanned) ∧
        (project.observe files project.settings.version).run.run scanned = (.ok observed, final) ∧
        holds observed)
    (append? : Option Bool) (isTrial : Bool) :
    ∃ observed before, holds observed ∧ before.disk = session.disk ∧
      (update environment path append? isTrial).run.run session =
        (project.commit text ((store.addToBook book).update observed
          (updateOptions project.settings (append?.getD project.settings.appends) false)
          fun file => session.disk.exists? (project.pathOf file)) store isTrial).run.run before := by
  have atLoad : loaded.disk = session.disk := (keepsDisk_load environment path).disk_eq isLoaded
  obtain ⟨afterBook, bookRead⟩ := exists_run_readBook (atLoad ▸ isRead) isText isBook
  have atBook : afterBook.disk = session.disk :=
    ((keepsDisk_readBook project).disk_eq bookRead).trans atLoad
  obtain ⟨records, placesRead⟩ := run_readPlaces project afterBook
  rw [atBook, isStored] at placesRead
  obtain ⟨files, observed, scanned, final, areFiles, isObserved, isGood⟩ :=
    observes { disk := session.disk, records } rfl
  have atScan : scanned.disk = session.disk := by
    have kept := keepsDisk_sourceFiles project { disk := session.disk, records }
    rwa [areFiles] at kept
  have atFinal : final.disk = session.disk :=
    ((keepsDisk_observe project files _).disk_eq isObserved).trans atScan
  obtain ⟨before, isUpdated⟩ := exists_run_updateBook project
    (updateOptions project.settings (append?.getD project.settings.appends) false) observed
    (store.addToBook book) final
  have atBefore : before.disk = session.disk :=
    ((keepsDisk_updateBook project _ _ _).disk_eq isUpdated).trans atFinal
  refine ⟨observed, before, isGood, atBefore, ?_⟩
  unfold update
  rw [run_bind_of_ok isLoaded, run_bind_of_ok bookRead]
  dsimp only
  rw [run_bind_of_ok placesRead, run_bind_of_ok areFiles, run_bind_of_ok isObserved,
    run_bind_of_ok isUpdated, atFinal]

/-- A commit writes nothing where the text and the places are those that were read. -/
theorem exists_run_commit {updated : Book.Updated} {store : PlaceStore}
    (sameText : updated.book.text project.settings.indent = text)
    (notChanged : (store.replace updated.book.placesByKey).isChanged = false) (isTrial : Bool)
    (session : Session) :
    ∃ revision last,
      (project.commit text updated store isTrial).run.run session = (.ok revision, last) ∧
        last.disk = session.disk ∧ revision.isChange = false ∧ revision.added = updated.added ∧
        revision.deleted = updated.deleted ∧ revision.restored = updated.restored := by
  have noDifference : Difference.unified project.settings.bookFile text text = "" :=
    (Difference.unified_eq_empty_iff _ _ _).mpr rfl
  unfold commit
  dsimp only
  rw [sameText, noDifference]
  cases isTrial with
  | true => exact ⟨_, _, rfl, rfl, rfl, rfl, rfl, rfl⟩
  | false =>
      rw [notChanged, bne_self_eq_false]
      exact ⟨_, _, rfl, rfl, rfl, rfl, rfl, rfl⟩

end Runs

/-! ## Updates in a row -/

section Repetition

variable {environment : Settings.Environment} {path : String} {session loaded last : Session}
  {project : Project} {append? : Option Bool} {revision : Revision} {book : Book}
  {stored : PlaceStore}

/-- An update that is repeated at once succeeds and changes nothing, if the files that the first one
has left are in step. -/
theorem changesNothing_update_again (noDots : ".." ∉ session.disk.current)
    (isLoaded : (load environment path).run.run session = (.ok project, loaded))
    (done : (update environment path append? false).run.run session = (.ok revision, last))
    (alike : GuidesAlike environment path project session.disk last.disk)
    (apart : project.KeepsSourcesApart last) (inStep : project.IsInStep last.disk book stored)
    (appendAgain? : Option Bool) (isTrial : Bool) :
    ∃ again final,
      (update environment path appendAgain? isTrial).run.run last = (.ok again, final) ∧
        final.disk = last.disk ∧ again.isChange = false ∧ again.added = [] ∧
        again.deleted = [] ∧ again.restored = [] := by
  obtain ⟨scope, observed, held, leaves⟩ := leavesStored_of_update noDots isLoaded done
  obtain rfl : held = stored := Except.ok.inj (leaves.isStored.symm.trans inStep.isStored)
  -- everything is read as the first update has left it
  obtain ⟨afterLoad, isLoadedAgain⟩ := load_of_growsBy leaves.grows alike.settings isLoaded
  obtain ⟨source, isRead, isText⟩ := inStep.isText
  obtain ⟨found, before, sameFound, atBefore, run⟩ :=
    exists_run_update (fun found => ∀ file, file ∈ found ↔ file ∈ observed) isLoadedAgain
      isRead isText inStep.isBook inStep.isStored (fun here sameDisk => by
        obtain ⟨files, found, scanned, final, areFiles, -, isFound, sameFound⟩ :=
          leaves.observesAgain alike apart sameDisk
        exact ⟨files, found, scanned, final, areFiles, isFound, sameFound⟩) appendAgain? isTrial
  -- so the entries are settled, and all keys are known
  have members (key : String) (place : Place) (isScanned : Book.IsScanned found place.path) :
      place ∈ held.get key ↔ Book.IsObservedAt found key place := by
    rw [Book.isScanned_congr sameFound] at isScanned
    rw [Book.isObservedAt_congr sameFound]
    exact leaves.members key place isScanned
  have areThere (key : String) (place : Place) (placeMem : place ∈ held.get key)
      (unscanned : ¬Book.IsScanned found place.path) :
      last.disk.exists? (project.pathOf place.path) = true := by
    rw [Book.isScanned_congr sameFound] at unscanned
    exact leaves.grows.exists? (leaves.areThere key place placeMem unscanned)
  have areStored (file : String × List Phrase) (fileMem : file ∈ found) (phrase : Phrase)
      (phraseMem : phrase ∈ file.2) : ∃ place, place ∈ held.get phrase.key := by
    have isObserved : Book.IsObservedAt found phrase.key ⟨file.1, phrase.place.line⟩ :=
      ⟨file, fileMem, phrase, phraseMem, rfl, rfl⟩
    exact ⟨_, (members _ _ isObserved.isScanned).mpr isObserved⟩
  have changesNothing : Book.ChangesNothing (held.addToBook book)
      ((held.addToBook book).update found
        (updateOptions project.settings (appendAgain?.getD project.settings.appends) false)
        fun file => last.disk.exists? (project.pathOf file)) :=
    Book.changesNothing_update rfl (inStep.knows areStored) fun _ =>
      inStep.isSettled members areThere
  obtain ⟨isSame, noneAdded, noneDeleted, noneRestored⟩ := changesNothing
  have sameText := PlaceStore.text_addToBook held book project.settings.indent
  have notChanged := (isProper_of_storedPlaces inStep.isStored).2
  rw [← inStep.replace_eq, ← isSame] at notChanged
  rw [← isSame] at sameText
  obtain ⟨again, final, isCommitted, sameDisk, noChange, sameAdded, sameDeleted, sameRestored⟩ :=
    exists_run_commit sameText notChanged isTrial before
  exact ⟨again, final, run.trans isCommitted, sameDisk.trans atBefore, noChange,
    sameAdded.trans noneAdded, sameDeleted.trans noneDeleted, sameRestored.trans noneRestored⟩

end Repetition

end Project

end Phrasebook
