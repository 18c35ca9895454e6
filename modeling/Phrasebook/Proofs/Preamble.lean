import Phrasebook.Proofs.Places
import Phrasebook.Proofs.Provenance
import Phrasebook.Proofs.Reading
import Phrasebook.Proofs.Trial
import Phrasebook.Proofs.UpdateEffect

/-!
# What stands before the export of a book

The text before the list of entries is written back as it was read.  It was
read with every line end as a line feed, so the bytes of the file stay if no
carriage return is among them.
-/

namespace Phrasebook.Text

/-! ## Line ends and bytes -/

section LineEnds

theorem unifyLineEnds_cons {character : Char} (notReturn : character ≠ '\r') (text : List Char) :
    unifyLineEnds (character :: text) = character :: unifyLineEnds text := by
  rw [unifyLineEnds]
  · rw [if_neg (by simpa using notReturn)]
  · rintro rest rfl
    contradiction

/-- The start of a text is the same under unified line ends if it has no carriage return. -/
theorem prefix_of_prefix_unifyLineEnds {front text : List Char}
    (isPrefix : front <+: unifyLineEnds text) (noReturn : '\r' ∉ text.take front.length) :
    front <+: text := by
  induction text generalizing front with
  | nil => exact isPrefix
  | cons character text ih =>
      obtain _ | ⟨first, front⟩ := front
      · exact List.nil_prefix
      · rw [List.length_cons, List.take_succ_cons, List.mem_cons, not_or] at noReturn
        rw [unifyLineEnds_cons (Ne.symm noReturn.1)] at isPrefix
        obtain ⟨rfl, others⟩ := List.cons_prefix_cons.mp isPrefix
        exact List.cons_prefix_cons.mpr ⟨rfl, ih others noReturn.2⟩

theorem bytesFrom_nil (offset : Nat) (characters : List Char) :
    Source.bytesFrom [] offset characters = characters.flatMap String.utf8EncodeChar := by
  induction characters generalizing offset with
  | nil => rfl
  | cons character characters ih =>
      rw [Source.bytesFrom, List.lookup_nil, List.flatMap_cons]
      dsimp only
      rw [ih]

/-- The bytes of a text start with those of its start. -/
theorem bytes_prefix {source : Source} {front : List Char} (isText : source.stray = [])
    (isPrefix : front <+: source.characters) :
    front.flatMap String.utf8EncodeChar <+: source.bytes := by
  obtain ⟨rest, whole⟩ := isPrefix
  rw [Source.bytes, isText, bytesFrom_nil, ← whole, List.flatMap_append]
  exact List.prefix_append _ _

theorem lines?_eq_some {source : Source} {text : String} (isText : source.lines? = some text) :
    source.stray = [] ∧ text.toList = unifyLineEnds source.characters := by
  obtain ⟨characters, isCharacters, rfl⟩ := Option.map_eq_some_iff.mp isText
  obtain ⟨noStray, same⟩ := Option.ite_none_right_eq_some.mp isCharacters
  obtain rfl := Option.some.inj same
  rw [String.toList_ofList, String.toList_ofList]
  exact ⟨List.isEmpty_iff.mp noStray, rfl⟩

/-- A text without carriage returns has the lines of its file. -/
theorem lines?_ofString {text : String} (noReturn : '\r' ∉ text.toList) :
    (Source.ofString text).lines? = some text := by
  have sameText (characters : List Char) (noReturn : '\r' ∉ characters) :
      unifyLineEnds characters = characters := by
    induction characters with
    | nil => rfl
    | cons character characters ih =>
        rw [List.mem_cons, not_or] at noReturn
        rw [unifyLineEnds_cons (Ne.symm noReturn.1), ih noReturn.2]
  change some (String.ofList (unifyLineEnds (String.ofList text.toList).toList)) = _
  rw [String.toList_ofList, sameText _ noReturn, String.ofList_toList]

end LineEnds

end Phrasebook.Text

namespace Phrasebook

/-! ## Preambles of books -/

section Preambles

variable {book : Book}

theorem PlaceStore.preamble_addToBook (store : PlaceStore) (book : Book) :
    (store.addToBook book).preamble = book.preamble :=
  rfl

theorem Book.preamble_update (book : Book) (observed : Book.Observed)
    (options : Book.UpdateOptions) (exists? : String → Bool) :
    (book.update observed options exists?).book.preamble = book.preamble := by
  rw [Book.update_eq_insertEntries, Book.insertEntries_preamble]
  rfl

theorem Book.preamble_rekey {renamed : Book} {keys changes : Book.KeyMap}
    (done : book.rekey keys = .ok (renamed, changes)) : renamed.preamble = book.preamble := by
  obtain ⟨found, _, done⟩ := bind_eq_ok_iff.mp done
  split at done
  · contradiction
  · split at done
    · contradiction
    · obtain ⟨rfl, _⟩ := Prod.mk.inj (Except.ok.inj done)
      rfl

theorem Exchange.preamble_fillEntries (indent marker : String) (document : Exchange.Document)
    (imported : Exchange.Imported) (entries : List Entry) :
    (Exchange.fillEntries indent marker document imported entries).book.preamble =
      imported.book.preamble := by
  induction entries generalizing imported with
  | nil => rfl
  | cons entry entries ih =>
      unfold Exchange.fillEntries
      dsimp only
      split <;> rw [ih]

theorem Exchange.preamble_importDocument (indent marker : String) (document : Exchange.Document)
    (book : Book) :
    (Exchange.importDocument indent marker document book).book.preamble = book.preamble :=
  Exchange.preamble_fillEntries indent marker document _ book.entries

theorem Book.text_eq (indent : String) (book : Book) :
    book.text indent = book.preamble ++ "export default \x7b\n" ++
      ("\n".intercalate (book.entries.map (Book.entryText indent)) ++ "\x7d\n") := by
  rw [Book.text, String.append_assoc]

/-- A text is the preamble of the book that it is read as, its export and what follows. -/
theorem Book.preamble_prefix_of_read {path? : Option String} {tag text : String}
    (isRead : Book.read path? tag text = .ok book) : book.preamble.toList <+: text.toList := by
  obtain ⟨⟨preamble, object⟩, isListing, isRead⟩ := bind_eq_ok_iff.mp isRead
  obtain ⟨entries, _, isRead⟩ := bind_eq_ok_iff.mp isRead
  obtain rfl := Except.ok.inj isRead
  obtain ⟨script, site, isScript, siteMem, _, rfl, _⟩ := Book.listing_eq_ok isListing
  have siteMem := Markup.Site.mem_walk_of_mem_children (Markup.Site.self_mem_walk _) siteMem
  obtain ⟨back, whole⟩ := Markup.Site.text_eq_of_mem_walk_root siteMem
  rw [← (Markup.Script.isScriptOf_of_read isScript).text, whole, String.toList_ofList,
    List.append_assoc]
  exact List.prefix_append _ _

end Preambles

end Phrasebook

namespace Phrasebook.Project

open Command
open Text (Source)

/-! ## Successful commands -/

/-- What holds of the disk after a command that succeeds. -/
def Ensures {α : Type} (session : Session) (ends : Disk → Prop) (command : Command α) : Prop :=
  ∀ value last, command.run.run session = (.ok value, last) → ends last.disk

section Ensures

variable {α β : Type} {session : Session} {ends : Disk → Prop}

/-- What is read before does not matter. -/
theorem Ensures.bind {command : Command α} {next : α → Command β} (first : KeepsDisk command)
    (rest : ∀ value between, command.run.run session = (.ok value, between) →
      between.disk = session.disk → Ensures between ends (next value)) :
    Ensures session ends (command >>= next) := by
  intro result last done
  obtain ⟨value, between, isFirst, done⟩ := Book.run_bind_eq_ok_iff.mp done
  have kept := first session
  rw [isFirst] at kept
  exact rest value between isFirst kept result last done

theorem Ensures.andThen {command : Command α} {tail : α → Command β}
    (ensures : Ensures session ends command) (keeps : ∀ value, KeepsDisk (tail value)) :
    Ensures session ends (command >>= tail) := by
  intro result last done
  obtain ⟨value, between, isFirst, done⟩ := Book.run_bind_eq_ok_iff.mp done
  have kept := keeps value between
  rw [done] at kept
  dsimp only at kept
  rw [kept]
  exact ensures value between isFirst

theorem ensures_throw (failure : Failure) :
    Ensures session ends (throw failure : Command α) := by
  intro value last done
  cases done

end Ensures

/-! ## Writing back -/

/-- The place of the book of a project, as seen from the current directory. -/
def bookPlace (project : Project) (current : List String) : List String :=
  (project.bookPath.resolved current).parts

/-- The stored places are not kept in the file of the book. -/
def KeepsPlacesApart (project : Project) (current : List String) : Prop :=
  (project.placesPath.resolved current).parts ≠ project.bookPlace current

instance (project : Project) (current : List String) :
    Decidable (project.KeepsPlacesApart current) :=
  inferInstanceAs (Decidable (_ ≠ _))

/-- The file of a book goes on as it was, or as a text that begins with the preamble and the
export. -/
def GoesOn (preamble : String) (former after : Source) : Prop :=
  after = former ∨ ∃ rest, after = Source.ofString (preamble ++ "export default \x7b\n" ++ rest)

/-- What the file of a book is. -/
structure HoldsBook (project : Project) (current : List String) (file : Source) (disk : Disk) :
    Prop where
  isCurrent : disk.current = current
  isFile : disk.fileAt? (project.bookPlace current) = some file

/-- What the file of a book may be after a revision. -/
def IsRevised (project : Project) (current : List String) (preamble : String) (former : Source)
    (disk : Disk) : Prop :=
  ∃ after, HoldsBook project current after disk ∧ GoesOn preamble former after

section Commit

variable {project : Project} {session last : Session} {current : List String}
  {former file : Source}

theorem HoldsBook.bind {α β : Type} {ends : Disk → Prop} {command : Command α}
    {next : α → Command β} (holds : HoldsBook project current file session.disk)
    (first : KeepsDisk command)
    (rest : ∀ value between, command.run.run session = (.ok value, between) →
      HoldsBook project current file between.disk → Ensures between ends (next value)) :
    Ensures session ends (command >>= next) :=
  .bind first fun value between isFirst sameDisk => rest value between isFirst (sameDisk ▸ holds)

theorem disk_of_writeText {path : Disk.Path} {text : String}
    (done : (writeText path text).run.run session = (.ok (), last)) :
    (session.disk.write path (Source.ofString text)).1 = .ok () ∧
      last.disk = (session.disk.write path (Source.ofString text)).2 := by
  have isDisk := disk_writeText session path text
  rw [done] at isDisk
  rw [run_writeText_eq_orFail] at done
  exact ⟨Book.run_orFail_eq_ok done, isDisk⟩

theorem ensures_writeBook (isCurrent : session.disk.current = current) (noDots : ".." ∉ current)
    (text : String) :
    Ensures session (HoldsBook project current (Source.ofString text))
      (writeText project.bookPath text) := by
  intro _ last done
  subst isCurrent
  obtain ⟨succeeded, isDisk⟩ := disk_of_writeText done
  rw [isDisk]
  refine ⟨(Disk.write_cases noDots _ _).1, ?_⟩
  rw [Disk.fileAt?_write noDots succeeded]
  exact if_pos rfl

theorem ensures_writePlaces (holds : HoldsBook project current file session.disk)
    (noDots : ".." ∉ current) (apart : KeepsPlacesApart project current) (text : String) :
    Ensures session (HoldsBook project current file) (writeText project.placesPath text) := by
  intro _ last done
  obtain ⟨rfl, isFile⟩ := holds
  obtain ⟨_, isDisk⟩ := disk_of_writeText done
  rw [isDisk]
  exact ⟨(Disk.write_cases noDots _ _).1,
    (Disk.fileAt?_write_of_ne noDots _ apart).trans isFile⟩

/-- What follows once the book is written or left. -/
theorem ensures_storePlaces (holds : HoldsBook project current file session.disk)
    (noDots : ".." ∉ current) (apart : KeepsPlacesApart project current) (store : PlaceStore)
    (revision : Revision) :
    Ensures session (HoldsBook project current file)
      (if store.isChanged then (do writeText project.placesPath store.render; return revision)
      else return revision) := by
  split
  · exact (ensures_writePlaces holds noDots apart _).andThen fun _ => keepsDisk_pure _
  · intro _ last done
    cases done
    exact holds

/-- Writing back leaves the file of the book, or writes the preamble and the export to it. -/
theorem ensures_commit (holds : HoldsBook project current former session.disk)
    (noDots : ".." ∉ current) (apart : KeepsPlacesApart project current) (text : String)
    (updated : Book.Updated) (store : PlaceStore) (isTrial : Bool) :
    Ensures session (IsRevised project current updated.book.preamble former)
      (project.commit text updated store isTrial) := by
  unfold commit
  dsimp only
  refine holds.bind (keepsDisk_say _ _ _) fun _ between _ holds => ?_
  split
  · intro _ last done
    cases done
    exact ⟨former, holds, .inl rfl⟩
  · split
    · intro revision last done
      obtain ⟨_, written, isWritten, done⟩ := Book.run_bind_eq_ok_iff.mp done
      have isThere := ensures_writeBook holds.isCurrent noDots _ _ _
        (run_writeText_of_writeBook isWritten)
      have stored := isThere.bind (keepsDisk_say _ _ _)
        (fun _ said _ isThere => ensures_storePlaces isThere noDots apart _ _) revision last done
      exact ⟨_, stored, .inr ⟨_, congrArg Source.ofString (Book.text_eq _ _)⟩⟩
    · intro revision last done
      exact ⟨former, ensures_storePlaces holds noDots apart _ _ _ _ done, .inl rfl⟩

theorem preamble_of_updateBook {between : Session} {options : Book.UpdateOptions}
    {observed : Book.Observed} {book : Book} {updated : Book.Updated}
    (done : (project.updateBook options observed book).run.run session = (.ok updated, between)) :
    updated.book.preamble = book.preamble := by
  obtain ⟨disk, _, _, done⟩ := Book.run_bind_eq_ok_iff.mp done
  obtain ⟨_, _, _, done⟩ := Book.run_bind_eq_ok_iff.mp done
  cases done
  exact Book.preamble_update book observed options _

/-- To bring a book up to date is to go on with one that has the same preamble. -/
theorem HoldsBook.updateBook {α : Type} {ends : Disk → Prop} {next : Book.Updated → Command α}
    (holds : HoldsBook project current file session.disk) (options : Book.UpdateOptions)
    (observed : Book.Observed) {book : Book}
    (rest : ∀ updated between, updated.book.preamble = book.preamble →
      HoldsBook project current file between.disk → Ensures between ends (next updated)) :
    Ensures session ends (project.updateBook options observed book >>= next) :=
  holds.bind (keepsDisk_updateBook project options observed book)
    fun updated between isUpdated => rest updated between (preamble_of_updateBook isUpdated)

end Commit

/-! ## Revisions -/

/-- The file of the book of a project has been revised, with the preamble that it was read with. -/
def KeepsPreamble (project : Project) (current : List String) (before after : Disk) : Prop :=
  ∃ former text book, HoldsBook project current former before ∧ former.lines? = some text ∧
    Book.read (some project.settings.bookFile) project.settings.tag text = .ok book ∧
    IsRevised project current book.preamble former after

/-- The project that is found keeps the preamble of its book. -/
def FoundKeepsPreamble (environment : Settings.Environment) (path : String)
    (session last : Session) : Prop :=
  ∃ project between, (load environment path).run.run session = (.ok project, between) ∧
    project.KeepsPreamble session.disk.current session.disk last.disk

/-- The stored places of the project that is found are not kept in the file of its book. -/
def FoundKeepsPlacesApart (environment : Settings.Environment) (path : String)
    (session : Session) : Prop :=
  ∀ project between, (load environment path).run.run session = (.ok project, between) →
    project.KeepsPlacesApart session.disk.current

section Revisions

variable {environment : Settings.Environment} {path : String} {session last : Session}
  {project : Project}

/-- What is known once the book of a project is read. -/
theorem readBook_eq_ok {between : Session} {book : Book} {text : String}
    (noDots : ".." ∉ session.disk.current)
    (done : project.readBook.run.run session = (.ok (book, text), between)) :
    ∃ former, HoldsBook project session.disk.current former session.disk ∧
      former.lines? = some text ∧
      Book.read (some project.settings.bookFile) project.settings.tag text = .ok book := by
  obtain ⟨disk, _, isDisk, done⟩ := Book.run_bind_eq_ok_iff.mp done
  cases isDisk
  dsimp only at done
  split at done
  · cases done
  · obtain ⟨found, _, isText, done⟩ := Book.run_bind_eq_ok_iff.mp done
    obtain ⟨source, _, isSource, isText⟩ := Book.run_bind_eq_ok_iff.mp isText
    obtain ⟨disk, _, isDisk, isRead⟩ := Book.run_bind_eq_ok_iff.mp isSource
    cases isDisk
    have isRead := Book.run_orFail_eq_ok isRead
    have isLines : source.lines? = some found := by
      split at isText
      · rename_i lines isLines
        cases isText
        exact isLines
      · cases isText
    split at done
    · rename_i isBook
      obtain ⟨_, _, _, done⟩ := Book.run_bind_eq_ok_iff.mp done
      obtain ⟨_, _, _, done⟩ := Book.run_bind_eq_ok_iff.mp done
      cases done
      exact ⟨source, ⟨rfl, Disk.fileAt?_of_read noDots isRead⟩, isLines, isBook⟩
    · obtain ⟨_, _, _, done⟩ := Book.run_bind_eq_ok_iff.mp done
      cases done

/-- Once the book is read, only what becomes of its file matters. -/
theorem ensures_readBook {α : Type} {next : Book × String → Command α} {disk : Disk}
    (sameDisk : session.disk = disk) (noDots : ".." ∉ disk.current)
    (rest : ∀ book text former between, HoldsBook project disk.current former between.disk →
      Ensures between (IsRevised project disk.current book.preamble former) (next (book, text))) :
    Ensures session (KeepsPreamble project disk.current disk) (project.readBook >>= next) := by
  subst sameDisk
  refine .bind (keepsDisk_readBook project) fun (book, text) between isBook sameDisk => ?_
  obtain ⟨former, holds, isText, isRead⟩ := readBook_eq_ok noDots isBook
  intro result last done
  exact ⟨former, text, book, holds, isText, isRead,
    rest book text former between (sameDisk ▸ holds) result last done⟩

theorem foundKeepsPreamble_of_load {α : Type} {next : Project → Command α} {result : α}
    (apart : FoundKeepsPlacesApart environment path session)
    (rest : ∀ project between, between.disk = session.disk →
      project.KeepsPlacesApart session.disk.current →
        Ensures between (KeepsPreamble project session.disk.current session.disk) (next project))
    (done : (load environment path >>= next).run.run session = (.ok result, last)) :
    FoundKeepsPreamble environment path session last := by
  obtain ⟨project, between, isLoaded, done⟩ := Book.run_bind_eq_ok_iff.mp done
  have sameDisk := keepsDisk_load environment path session
  rw [isLoaded] at sameDisk
  exact ⟨project, between, isLoaded,
    rest project between sameDisk (apart project between isLoaded) result last done⟩

theorem keepsPreamble_update (noDots : ".." ∉ session.disk.current)
    (apart : FoundKeepsPlacesApart environment path session) {append? : Option Bool}
    {isTrial : Bool} {revision : Revision}
    (done : (update environment path append? isTrial).run.run session = (.ok revision, last)) :
    FoundKeepsPreamble environment path session last := by
  refine foundKeepsPreamble_of_load apart (fun project _ sameDisk apart => ?_) done
  refine ensures_readBook sameDisk noDots fun book text former _ holds => ?_
  refine holds.bind (keepsDisk_readPlaces project) fun store _ _ holds => ?_
  refine holds.bind (keepsDisk_sourceFiles project) fun files _ _ holds => ?_
  refine holds.bind (keepsDisk_observe project files _) fun observed _ _ holds => ?_
  refine holds.updateBook _ observed fun updated _ same holds => ?_
  rw [← store.preamble_addToBook, ← same]
  exact ensures_commit holds noDots apart text updated store isTrial

theorem keepsPreamble_importBook (noDots : ".." ∉ session.disk.current)
    (apart : FoundKeepsPlacesApart environment path session) {input : Disk.Path} {isTrial : Bool}
    {revision : Revision}
    (done : (importBook environment path input isTrial).run.run session = (.ok revision, last)) :
    FoundKeepsPreamble environment path session last := by
  refine foundKeepsPreamble_of_load apart (fun project _ sameDisk apart => ?_) done
  refine .bind (keepsDisk_readText input) fun _ _ _ sameThere => ?_
  refine .bind (keepsDisk_orFail _ _) fun document _ _ sameHere => ?_
  refine ensures_readBook (sameHere.trans (sameThere.trans sameDisk)) noDots
    fun book text former _ holds => ?_
  refine holds.bind (keepsDisk_readPlaces project) fun store _ _ holds => ?_
  refine holds.bind (keepsDisk_forIn (fun _ _ => ?_) _) fun _ _ _ holds => ?_
  · exact (keepsDisk_say _ _ _).bind fun _ => keepsDisk_pure _
  · dsimp only
    split
    · exact ensures_throw _
    · refine holds.bind (keepsDisk_say _ _ _) fun _ _ _ holds => ?_
      refine holds.updateBook _ [] fun updated _ same holds => ?_
      rw [Exchange.preamble_importDocument, store.preamble_addToBook] at same
      rw [← same]
      exact ensures_commit holds noDots apart text updated store isTrial

theorem keepsPreamble_rekey (noDots : ".." ∉ session.disk.current)
    (apart : FoundKeepsPlacesApart environment path session) {before after : Int} {isTrial : Bool}
    {result : Book.KeyMap × Revision}
    (done : (rekey environment path before after isTrial).run.run session = (.ok result, last)) :
    FoundKeepsPreamble environment path session last := by
  refine foundKeepsPreamble_of_load apart (fun project _ sameDisk apart => ?_) done
  refine ensures_readBook sameDisk noDots fun book text former _ holds => ?_
  refine holds.bind (keepsDisk_readPlaces project) fun store _ _ holds => ?_
  refine holds.bind (keepsDisk_sourceFiles project) fun files _ _ holds => ?_
  refine holds.bind (keepsDisk_observe project files before) fun old _ _ holds => ?_
  refine holds.bind (keepsDisk_observe project files after) fun new _ _ holds => ?_
  refine holds.bind (keepsDisk_orFail _ _) fun keys _ _ holds => ?_
  refine holds.bind (keepsDisk_orFail _ _) fun (renamed, changes) _ isRenamed holds => ?_
  refine holds.bind (keepsDisk_forIn (fun _ _ => ?_) _) fun _ _ _ holds => ?_
  · exact (keepsDisk_say _ _ _).bind fun _ => keepsDisk_pure _
  · refine holds.updateBook _ new fun updated _ same holds => ?_
    rw [Book.preamble_rekey (Book.run_orFail_eq_ok isRenamed), store.preamble_addToBook] at same
    rw [← same]
    refine (ensures_commit holds noDots apart text updated store isTrial).andThen fun revision => ?_
    dsimp only
    split
    · exact (keepsDisk_say _ _ _).bind fun _ => keepsDisk_pure _
    · exact keepsDisk_pure _

/-- A file without carriage returns before the export begins with the bytes of the preamble, before
a revision and after it. -/
theorem KeepsPreamble.bytes {current : List String} {before after : Disk}
    (kept : project.KeepsPreamble current before after) :
    ∃ former later text book, HoldsBook project current former before ∧
      HoldsBook project current later after ∧ former.lines? = some text ∧
      Book.read (some project.settings.bookFile) project.settings.tag text = .ok book ∧
      ('\r' ∉ former.characters.take book.preamble.toList.length →
        book.preamble.toList.flatMap String.utf8EncodeChar <+: former.bytes ∧
          book.preamble.toList.flatMap String.utf8EncodeChar <+: later.bytes) := by
  obtain ⟨former, text, book, holdsFormer, isText, isRead, later, holdsLater, goesOn⟩ := kept
  refine ⟨former, later, text, book, holdsFormer, holdsLater, isText, isRead, fun noReturn => ?_⟩
  obtain ⟨noStray, sameText⟩ := Text.lines?_eq_some isText
  have inFormer : book.preamble.toList.flatMap String.utf8EncodeChar <+: former.bytes := by
    refine Text.bytes_prefix noStray (Text.prefix_of_prefix_unifyLineEnds ?_ noReturn)
    rw [← sameText]
    exact Book.preamble_prefix_of_read isRead
  refine ⟨inFormer, ?_⟩
  rcases goesOn with rfl | ⟨rest, rfl⟩
  · exact inFormer
  · refine Text.bytes_prefix rfl ?_
    rw [Source.ofString, String.append_assoc, String.toList_append]
    exact List.prefix_append _ _

end Revisions

/-- A carriage return before the export is lost as soon as a phrase is added to the book. -/
theorem keepsPreamble_carriage_return :
    let environment := [("JSXLATE_TRANSLATIONS_FILE", "book.js")]
    let place := ["p", "book.js"]
    let session : Session := { disk := {
      files := [(place, Source.ofString "//\r\nexport default \x7b\x7d"),
        (["p", "src", "a.jsx"], Source.ofString "x=<T>hi</T>")]
      directories := [["p"], ["p", "src"]] } }
    let last := ((update environment "/p" none false).run.run session).2
    FoundKeepsPreamble environment "/p" session last ∧
      (last.disk.fileAt? place).map (·.characters.take 10) = some "//\nexport ".toList := by
  intro environment place session last
  have isLoaded : ((load environment "/p").run.run session).1.toOption.map
      (fun project => decide (project.KeepsPlacesApart [])) = some true := by
    decide +kernel
  have apart : FoundKeepsPlacesApart environment "/p" session := by
    intro project between done
    rw [done] at isLoaded
    exact of_decide_eq_true (Option.some.inj isLoaded)
  have succeeds :
      ((update environment "/p" none false).run.run session).1.toOption.isSome = true := by
    decide +kernel
  obtain ⟨revision, isRevision⟩ := Option.isSome_iff_exists.mp succeeds
  have done : (update environment "/p" none false).run.run session = (.ok revision, last) :=
    eq_ok_of_toOption isRevision
  exact ⟨keepsPreamble_update List.not_mem_nil apart done, by decide +kernel⟩

end Phrasebook.Project
