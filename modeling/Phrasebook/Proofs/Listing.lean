import Phrasebook.Proofs.Stored

/-!
# Listings

A listing observes the sources once more.  After an update it gives what the
update has stored for them, as long as the project is found and scanned as
before.
-/

namespace Phrasebook.Disk

section Exists

variable {disk other : Disk} {path : Path}

theorem walk_ne_isDirectory {here parts : List String} {kind : FaultKind}
    (failed : disk.walk here parts = .error kind) : kind ≠ .isDirectory := by
  induction parts generalizing here with
  | nil => contradiction
  | cons part parts ih =>
      rw [walk] at failed
      split at failed
      · exact ih failed
      · split at failed <;> (cases failed; decide)

/-- What is read at a path tells whether something is there. -/
theorem exists?_eq (disk : Disk) (path : Path) :
    disk.exists? path = match disk.read path with
      | .ok _ => true
      | .error fault => fault.kind == .isDirectory := by
  unfold exists? isFile isDirectory read
  cases isPlace : disk.placeOf path with
  | error kind => exact (beq_eq_false_iff_ne.mpr (walk_ne_isDirectory isPlace)).symm
  | ok place =>
      dsimp only
      cases disk.fileAt? place with
      | some source => rfl
      | none => cases disk.hasDirectory place <;> rfl

end Exists

end Phrasebook.Disk

namespace Phrasebook.Project

open Command
open Text (Source)

/-! ## Loading again -/

section Load

variable {environment : Settings.Environment} {path : String} {session last : Session}
  {project : Project}

/-- Where a project is looked for. -/
def rootOf (disk : Disk) (environment : Settings.Environment) (path : String) : Disk.Path :=
  disk.resolve (expandHome environment (Disk.Path.ofString path))

/-- A loop returns if each of its rounds goes on. -/
theorem exists_run_forIn {α : Type} {values : List α}
    {round : α → PUnit → Command (ForInStep PUnit)}
    (goesOn : ∀ value session, ∃ last,
      (round value PUnit.unit).run.run session = (.ok (.yield PUnit.unit), last))
    (session : Session) :
    ∃ last, (forIn values PUnit.unit round).run.run session = (.ok PUnit.unit, last) := by
  induction values generalizing session with
  | nil => exact ⟨session, rfl⟩
  | cons value values ih =>
      obtain ⟨between, first⟩ := goesOn value session
      rw [List.forIn_cons, run_bind_of_ok first]
      exact ih between

/-- A project is found where something is and where its settings can be read. -/
theorem load_eq_ok_iff :
    (∃ last, (load environment path).run.run session = (.ok project, last)) ↔
      session.disk.exists? (rootOf session.disk environment path) = true ∧
        ofPath session.disk environment (rootOf session.disk environment path) = .ok project := by
  have isDisk : (disk : Command Disk).run.run session = (.ok session.disk, session) := rfl
  unfold load
  rw [run_bind_of_ok isDisk]
  change (∃ last, (if !session.disk.exists? (rootOf session.disk environment path) then _
    else _ : Command Project).run.run session = (.ok project, last)) ↔ _
  cases session.disk.exists? (rootOf session.disk environment path) with
  | false =>
      constructor
      · rintro ⟨last, done⟩
        cases done
      · rintro ⟨isThere, -⟩
        contradiction
  | true =>
      constructor
      · rintro ⟨last, done⟩
        obtain ⟨found, _, isFound, done⟩ := Book.run_bind_eq_ok_iff.mp done
        obtain ⟨_, _, _, done⟩ := Book.run_bind_eq_ok_iff.mp done
        cases done
        exact ⟨rfl, Book.run_orFail_eq_ok isFound⟩
      · rintro ⟨-, isProject⟩
        have isFound : (orFail id (ofPath session.disk environment
            (rootOf session.disk environment path))).run.run session = (.ok project, session) := by
          rw [isProject]
          rfl
        let sayOption : String × String → PUnit → Command (ForInStep PUnit) := fun option _ => do
          say .debug "orchestrator" ("option " ++ option.1 ++ ": " ++ option.2)
          return .yield PUnit.unit
        have isSaid : ∃ said, (forIn project.settings.described PUnit.unit sayOption).run.run
            session = (.ok PUnit.unit, said) :=
          exists_run_forIn (fun _ _ => ⟨_, rfl⟩) session
        obtain ⟨said, isSaid⟩ := isSaid
        refine ⟨said, ?_⟩
        rw [if_neg (by decide)]
        change (orFail id (ofPath session.disk environment
            (rootOf session.disk environment path)) >>= _).run.run session = _
        rw [run_bind_of_ok isFound, run_bind_of_ok isSaid]
        rfl

/-- A project is found again if something is there still and its settings are read as before. -/
theorem load_of_growsBy {places : List String → Prop} {other : Session}
    (grows : session.disk.GrowsBy places other.disk)
    (sameSettings :
      other.disk.read (settingsPath session.disk (rootOf session.disk environment path)) =
        session.disk.read (settingsPath session.disk (rootOf session.disk environment path)))
    (isLoaded : (load environment path).run.run session = (.ok project, last)) :
    ∃ again, (load environment path).run.run other = (.ok project, again) := by
  obtain ⟨isThere, isProject⟩ := load_eq_ok_iff.mp ⟨last, isLoaded⟩
  have sameRoot : rootOf other.disk environment path = rootOf session.disk environment path := by
    rw [rootOf, rootOf, grows.resolve_eq]
  have sameFile : settingsPath other.disk (rootOf session.disk environment path) =
      settingsPath session.disk (rootOf session.disk environment path) := by
    rw [settingsPath, settingsPath, grows.isDirectory_eq isThere, grows.resolve_eq]
  rw [load_eq_ok_iff, sameRoot]
  refine ⟨grows.exists? isThere, ?_⟩
  unfold ofPath at isProject ⊢
  dsimp only at isProject ⊢
  rw [sameFile, Disk.exists?_eq, sameSettings, ← Disk.exists?_eq]
  exact isProject

end Load

/-! ## Observing again -/

section Observe

variable {project : Project} {files : List Scan.SourceFile} {version : Int}

theorem exists_run_mapM {α β : Type} {values : List α} {command : α → Command β}
    (each : ∀ value ∈ values, ∀ session, ∃ result last,
      (command value).run.run session = (.ok result, last)) (session : Session) :
    ∃ results last, (values.mapM command).run.run session = (.ok results, last) := by
  induction values generalizing session with
  | nil => exact ⟨[], session, rfl⟩
  | cons value values ih =>
      obtain ⟨result, between, first⟩ := each value List.mem_cons_self session
      obtain ⟨results, last, rest⟩ :=
        ih (fun other otherMem => each other (List.mem_cons_of_mem _ otherMem)) between
      rw [List.mapM_cons, run_bind_of_ok first, run_bind_of_ok rest]
      exact ⟨_, last, rfl⟩

/-- Files in each of which phrases are found can be observed. -/
theorem exists_run_observe
    (found : ∀ file ∈ files, ∃ result,
      Book.fileOf project.settings.tag version ⟨file.path, file.source⟩ = .ok result)
    (session : Session) :
    ∃ observed last, (project.observe files version).run.run session = (.ok observed, last) := by
  have each : ∀ file ∈ files, ∀ session, ∃ result last,
      (do return (file.path, ← phrasesOf project.settings.tag version ⟨file.path, file.source⟩) :
        Command (String × List Phrase)).run.run session = (.ok result, last) := by
    intro file fileMem session
    obtain ⟨result, isFound⟩ := found file fileMem
    obtain ⟨phrases, arePhrases, rfl⟩ := map_eq_ok_iff.mp isFound
    unfold phrasesOf
    rw [arePhrases]
    exact ⟨_, _, rfl⟩
  obtain ⟨observed, between, isObserved⟩ := exists_run_mapM each session
  unfold observe
  rw [run_bind_of_ok isObserved]
  exact ⟨observed, _, rfl⟩

end Observe

/-! ## Lines -/

section Lines

/-- The line for a place and a key. -/
def lineOf (pair : Place × String) : String :=
  pair.1.toString ++ "\t" ++ pair.2

/-- The places and keys of phrases, in the order of the places. -/
def listed (phrases : List Phrase) : List (Place × String) :=
  (phrases.mergeSort fun phrase other => phrase.place.isUpTo other.place).map fun phrase =>
    (phrase.place, phrase.key)

theorem mem_listed {phrases : List Phrase} {place : Place} {key : String} :
    (place, key) ∈ listed phrases ↔
      ∃ phrase ∈ phrases, phrase.key = key ∧ phrase.place = place := by
  simp only [listed, List.mem_map, List.mem_mergeSort, Prod.mk.injEq]
  exact exists_congr fun phrase => and_congr_right fun _ => and_comm

theorem pairwise_listed (phrases : List Phrase) :
    (listed phrases).Pairwise fun left right => left.1.isUpTo right.1 = true := by
  have sorted := @List.pairwise_mergeSort Phrase
    (fun phrase other => phrase.place.isUpTo other.place)
    (fun _ _ _ => Place.isUpTo_trans) (fun _ _ => Place.isUpTo_total _ _) phrases
  exact List.pairwise_map.mpr sorted

/-- Lines give the stored places in source files with their keys, in the order of the places. -/
def GivesStored (stored : PlaceStore) (sources : List Scan.SourceFile) (lines : List String) :
    Prop :=
  ∃ pairs : List (Place × String), lines = pairs.map lineOf ∧
    (pairs.Pairwise fun left right => left.1.isUpTo right.1 = true) ∧
    ∀ place key, (place, key) ∈ pairs ↔
      place ∈ stored.get key ∧ ∃ source ∈ sources, source.path = place.path

/-- The phrases of a project are listed, and the lines are what is stored for its sources. -/
def ListsStored (environment : Settings.Environment) (path : String) (project : Project)
    (session : Session) : Prop :=
  ∃ stored sources lines afterPlaces afterSources afterListing,
    project.readPlaces.run.run session = (.ok stored, afterPlaces) ∧
    project.sourceFiles.run.run session = (.ok sources, afterSources) ∧
    (listPhrases environment path).run.run session = (.ok lines, afterListing) ∧
    GivesStored stored sources lines

/-- What is observed in source files gives what is stored for them, if it is the same. -/
theorem givesStored_of_observed {tag : String} {version : Int} {sources : List Scan.SourceFile}
    {observed : Book.Observed} {stored : PlaceStore}
    (isObserved : Book.IsObservedIn tag version sources observed)
    (members : ∀ key place, Book.IsScanned observed place.path →
      (place ∈ stored.get key ↔ Book.IsObservedAt observed key place)) :
    GivesStored stored sources ((listed (observed.flatMap (·.2))).map lineOf) := by
  refine ⟨_, rfl, pairwise_listed _, fun place key => ?_⟩
  rw [mem_listed, ← isObserved.isObservedAt_iff, ← isObserved.isScanned_iff]
  constructor
  · intro isThere
    exact ⟨(members key place isThere.isScanned).mpr isThere, isThere.isScanned⟩
  · rintro ⟨isThere, isScanned⟩
    exact (members key place isScanned).mp isThere

theorem GivesStored.of_mem_iff {stored : PlaceStore} {sources others : List Scan.SourceFile}
    {lines : List String} (gives : GivesStored stored sources lines)
    (same : ∀ source, source ∈ others ↔ source ∈ sources) : GivesStored stored others lines := by
  obtain ⟨pairs, areLines, sorted, members⟩ := gives
  refine ⟨pairs, areLines, sorted, fun place key => (members place key).trans ?_⟩
  exact and_congr_right fun _ =>
    exists_congr fun source => and_congr_left fun _ => (same source).symm

theorem run_listPhrases {environment : Settings.Environment} {path : String} {project : Project}
    {session loaded scanned last : Session} {sources : List Scan.SourceFile}
    {observed : Book.Observed}
    (isLoaded : (load environment path).run.run session = (.ok project, loaded))
    (areSources : project.sourceFiles.run.run loaded = (.ok sources, scanned))
    (isObserved : (project.observe sources project.settings.version).run.run scanned =
      (.ok observed, last)) :
    (listPhrases environment path).run.run session =
      (.ok ((listed (observed.flatMap (·.2))).map lineOf), last) := by
  unfold listPhrases listed
  rw [run_bind_of_ok isLoaded, run_bind_of_ok areSources, run_bind_of_ok isObserved, List.map_map]
  rfl

end Lines

/-! ## Listings after updates -/

/-- The settings of a project and the rules of its ignore file are read as before. -/
structure GuidesAlike (environment : Settings.Environment) (path : String) (project : Project)
    (before after : Disk) : Prop where
  settings : after.read (settingsPath before (rootOf before environment path)) =
    before.read (settingsPath before (rootOf before environment path))
  rules : after.read ((before.resolve project.root).join (Disk.Path.ofString ".gitignore")) =
    before.read ((before.resolve project.root).join (Disk.Path.ofString ".gitignore"))

/-- The places of a project are not stored in one of its sources. -/
def KeepsSourcesApart (project : Project) (session : Session) : Prop :=
  ∀ sources final, project.sourceFiles.run.run session = (.ok sources, final) →
    ∀ source ∈ sources, (session.disk.resolve project.root).parts ++ source.parts ≠
      (session.disk.resolve project.placesPath).parts

section Conditions

variable (environment : Settings.Environment) (path : String) (project : Project)

instance (before after : Disk) : Decidable (GuidesAlike environment path project before after) :=
  decidable_of_iff (_ ∧ _) ⟨fun ⟨settings, rules⟩ => ⟨settings, rules⟩,
    fun ⟨settings, rules⟩ => ⟨settings, rules⟩⟩

theorem keepsSourcesApart_iff (session : Session) :
    project.KeepsSourcesApart session ↔
      ∀ source ∈ (project.sourceFiles.run.run session).1.toOption.getD [],
        (session.disk.resolve project.root).parts ++ source.parts ≠
          (session.disk.resolve project.placesPath).parts := by
  unfold KeepsSourcesApart
  rcases project.sourceFiles.run.run session with ⟨failure | sources, final⟩
  · constructor
    · exact fun _ _ sourceMem => nomatch sourceMem
    · intro _ sources final areSources
      cases areSources
  · constructor
    · exact fun apart => apart sources final rfl
    · intro apart others final areSources
      cases areSources
      exact apart

instance (session : Session) : Decidable (project.KeepsSourcesApart session) :=
  decidable_of_iff' _ (project.keepsSourcesApart_iff session)

end Conditions

section Listing

variable {environment : Settings.Environment} {path : String} {session loaded last : Session}
  {project : Project} {append? : Option Bool} {revision : Revision}

theorem LeavesStored.hasScope_after {scope : Scan.Scope} {observed : Book.Observed}
    {stored : PlaceStore}
    (leaves : LeavesStored project session.disk last.disk scope observed stored)
    (alike : GuidesAlike environment path project session.disk last.disk) :
    Scan.HasScope last.disk (last.disk.resolve project.root) (scanOptions project.settings)
      scope := by
  rw [leaves.grows.resolve_eq]
  exact leaves.hasScope.of_growsBy leaves.grows alike.rules

/-- The sources that are scanned after an update are those that the update has scanned, and the same
is observed in them. -/
theorem LeavesStored.observesAgain {scope : Scan.Scope} {observed : Book.Observed}
    {stored : PlaceStore}
    (leaves : LeavesStored project session.disk last.disk scope observed stored)
    (alike : GuidesAlike environment path project session.disk last.disk)
    (apart : project.KeepsSourcesApart last) {here : Session} (sameDisk : here.disk = last.disk) :
    ∃ sources found scanned final,
      project.sourceFiles.run.run here = (.ok sources, scanned) ∧
      (∀ source, source ∈ sources ↔ project.IsSource last.disk scope source) ∧
      (project.observe sources project.settings.version).run.run scanned = (.ok found, final) ∧
      ∀ file, file ∈ found ↔ file ∈ observed := by
  have hasScope := leaves.hasScope_after alike
  obtain ⟨-, ⟨files, areFiles, isObserved⟩, grows, -, -, -⟩ := leaves
  have sameFiles (file : Scan.SourceFile) :
      project.IsSource last.disk scope file ↔ file ∈ files := by
    obtain ⟨sources, afterSources, areSources, -, isSource⟩ := exists_sourceFiles hasScope
    rw [areFiles]
    refine isSource_iff_of_growsBy grows (fun source isThere => ?_) file
    rw [← grows.resolve_eq project.placesPath]
    exact apart sources afterSources areSources source ((isSource source).mpr isThere)
  rw [← sameDisk] at hasScope
  obtain ⟨sources, scanned, areSources, -, isSource⟩ := exists_sourceFiles hasScope
  rw [sameDisk] at isSource
  have sameSources (file : Scan.SourceFile) : file ∈ sources ↔ file ∈ files :=
    (isSource file).trans (sameFiles file)
  have isFound : ∀ file ∈ sources, ∃ result, Book.fileOf project.settings.tag
      project.settings.version ⟨file.path, file.source⟩ = .ok result := by
    intro file fileMem
    obtain ⟨result, -, -, isResult⟩ :=
      exists_mem_zip_left isObserved ((sameSources file).mp fileMem)
    exact ⟨result, isResult⟩
  obtain ⟨found, final, areFound⟩ := exists_run_observe isFound scanned
  exact ⟨sources, found, scanned, final, areSources, isSource, areFound,
    isObserved.mem_congr (Book.isObservedIn_of_observe areFound) sameSources⟩

/-- After an update the phrases can be listed, and the lines are what the update has stored. -/
theorem listsStored_of_update (noDots : ".." ∉ session.disk.current)
    (isLoaded : (load environment path).run.run session = (.ok project, loaded))
    (done : (update environment path append? false).run.run session = (.ok revision, last))
    (alike : GuidesAlike environment path project session.disk last.disk)
    (apart : project.KeepsSourcesApart last) :
    ListsStored environment path project last := by
  obtain ⟨scope, observed, stored, leaves⟩ := leavesStored_of_update noDots isLoaded done
  -- the project is found again, and the same phrases are observed in its sources
  obtain ⟨again, isAgain⟩ := load_of_growsBy leaves.grows alike.settings isLoaded
  have sameDisk : again.disk = last.disk := (keepsDisk_load environment path).disk_eq isAgain
  obtain ⟨sources, -, afterSources, -, areSources, isSource, -, -⟩ :=
    leaves.observesAgain alike apart rfl
  obtain ⟨others, found, _, afterListing, areOthers, isOther, isListed, sameFound⟩ :=
    leaves.observesAgain alike apart sameDisk
  have members (key : String) (place : Place) (isScanned : Book.IsScanned found place.path) :
      place ∈ stored.get key ↔ Book.IsObservedAt found key place := by
    rw [Book.isScanned_congr sameFound] at isScanned
    rw [Book.isObservedAt_congr sameFound]
    exact leaves.members key place isScanned
  have gives := givesStored_of_observed (Book.isObservedIn_of_observe isListed) members
  obtain ⟨records, isRead⟩ := run_readPlaces project last
  rw [leaves.isStored] at isRead
  exact ⟨stored, sources, _, _, afterSources, afterListing, isRead, areSources,
    run_listPhrases isAgain areOthers isListed,
    gives.of_mem_iff fun source => (isSource source).trans (isOther source).symm⟩

end Listing

/-- Two phrases with one key on one line, and an entry without a phrase for which there are stored a
place in the source, one in a file that is not scanned and one in a file that is gone: of these the
second one is kept, and it alone is not listed. -/
theorem listsStored_two_keys :
    let environment := [("JSXLATE_TRANSLATIONS_FILE", "book.js")]
    let session : Session := { disk := {
      files := [
        (["p", "book.js"], Source.ofString
          "export default \x7b\"old\": \x7b\"en\": () => <O>x</O>,\x7d,\x7d"),
        (["p", "c.jsx"], Source.ofString ""),
        (["p", ".jsxlate", "refs.json"], Source.ofString ("\x7b\"version\": 1, \"refs\": \x7b" ++
          "\"old\": [\"src/a.jsx:2\", \"c.jsx:5\", \"src/gone.jsx:1\"]\x7d\x7d")),
        (["p", "src", "a.jsx"], Source.ofString "<T>hi</T>;<T>hi</T>")]
      directories := [["p"], ["p", ".jsxlate"], ["p", "src"]] } }
    let last := ((update environment "/p" none false).run.run session).2
    ".." ∉ session.disk.current ∧
      ∃ project loaded revision,
        (load environment "/p").run.run session = (.ok project, loaded) ∧
        (update environment "/p" none false).run.run session = (.ok revision, last) ∧
        GuidesAlike environment "/p" project session.disk last.disk ∧
        project.KeepsSourcesApart last ∧
        (project.readPlaces.run.run last).1.toOption.map (·.places) = some
          [("604c28cbe54b", [⟨"src/a.jsx", 1⟩]), ("old", [⟨"c.jsx", 5⟩])] ∧
        ListsStored environment "/p" project last := by
  intro environment session last
  have isFound : ((load environment "/p").run.run session).1.toOption.map (fun project =>
      decide (((update environment "/p" none false).run.run session).1.toOption.isSome = true ∧
        GuidesAlike environment "/p" project session.disk last.disk ∧
        project.KeepsSourcesApart last ∧
        (project.readPlaces.run.run last).1.toOption.map (·.places) = some
          [("604c28cbe54b", [⟨"src/a.jsx", 1⟩]), ("old", [⟨"c.jsx", 5⟩])])) = some true := by
    decide +kernel
  obtain ⟨project, isProject, holds⟩ := Option.map_eq_some_iff.mp isFound
  obtain ⟨succeeds, alike, apart, arePlaces⟩ := of_decide_eq_true holds
  have isLoaded : (load environment "/p").run.run session =
      (.ok project, ((load environment "/p").run.run session).2) :=
    eq_ok_of_toOption isProject
  obtain ⟨revision, isRevision⟩ := Option.isSome_iff_exists.mp succeeds
  have done : (update environment "/p" none false).run.run session = (.ok revision, last) :=
    eq_ok_of_toOption isRevision
  exact ⟨List.not_mem_nil, project, _, revision, isLoaded, done, alike, apart, arePlaces,
    listsStored_of_update List.not_mem_nil isLoaded done alike apart⟩

/-- A book that is kept in the ignore file tells what is scanned: once it has been written again, a
directory is no longer ignored, and a phrase is listed that no update has stored. -/
theorem exists_listed_not_stored :
    let environment := [("JSXLATE_TRANSLATIONS_FILE", ".gitignore")]
    let session : Session := { disk := {
      files := [
        (["p", ".gitignore"], Source.ofString "export default\n\x7b\x7d"),
        (["p", ".jsxlate", "refs.json"],
          Source.ofString "\x7b\"version\": 1, \"refs\": \x7b\x7d\x7d"),
        (["p", "src", "\x7b\x7d", "a.jsx"], Source.ofString "<T>hi</T>")]
      directories := [["p"], ["p", ".jsxlate"], ["p", "src"], ["p", "src", "\x7b\x7d"]] } }
    let last := ((update environment "/p" none false).run.run session).2
    ∃ project loaded revision,
      (load environment "/p").run.run session = (.ok project, loaded) ∧
      (update environment "/p" none false).run.run session = (.ok revision, last) ∧
      project.KeepsSourcesApart last ∧ ¬ListsStored environment "/p" project last := by
  intro environment session last
  have isFound : ((load environment "/p").run.run session).1.toOption.map (fun project =>
      decide (project.KeepsSourcesApart last ∧
        (project.readPlaces.run.run last).1.toOption.map (·.places.length) = some 0)) =
      some true := by
    decide +kernel
  obtain ⟨project, isProject, holds⟩ := Option.map_eq_some_iff.mp isFound
  obtain ⟨apart, noPlaces⟩ := of_decide_eq_true holds
  have succeeds :
      ((update environment "/p" none false).run.run session).1.toOption.isSome = true := by
    decide +kernel
  obtain ⟨revision, isRevision⟩ := Option.isSome_iff_exists.mp succeeds
  have areLines : ((listPhrases environment "/p").run.run last).1.toOption =
      some ["src/\x7b\x7d/a.jsx:1\t604c28cbe54b"] := by
    decide +kernel
  refine ⟨project, _, revision, eq_ok_of_toOption isProject,
    eq_ok_of_toOption isRevision, apart, ?_⟩
  rintro ⟨stored, sources, lines, _, _, _, isStored, -, isListed, pairs, rfl, -, members⟩
  rw [isListed] at areLines
  rw [isStored] at noPlaces
  have isEmpty : stored.places = [] := List.length_eq_zero_iff.mp (Option.some.inj noPlaces)
  cases pairs with
  | nil => cases Option.some.inj areLines
  | cons pair pairs =>
      have isThere := ((members pair.1 pair.2).mp List.mem_cons_self).1
      rw [PlaceStore.get, isEmpty] at isThere
      exact absurd isThere List.not_mem_nil

end Phrasebook.Project
