import Phrasebook.Book.Reader
import Phrasebook.Book.Rekey
import Phrasebook.Book.Writer
import Phrasebook.Difference.Unified
import Phrasebook.Project.Observation

/-!
# Revisions of the book

A revision reads the book of a project and the places of its entries, changes
them, and writes both back unless it is only a trial.
-/

namespace Phrasebook.Project

open Command
open Text (Source)

/-- What a revision has done to the book of a project. -/
structure Revision where
  path : Disk.Path
  difference : String
  /-- Whether nothing was written. -/
  isTrial : Bool
  added : List String := []
  deleted : List String := []
  restored : List String := []
deriving DecidableEq, Repr

/-- Whether the text of the book has changed. -/
def Revision.isChange (revision : Revision) : Bool :=
  revision.difference != ""

/-- Say why renderings of a book cannot take the place of their phrases. -/
def sayObstacles (tag text : String) (isBefore : Nat → Bool) : Command Unit :=
  for (line, fault) in Book.obstacles tag text do
    if isBefore line then
      say .debug "registry.parser"
        ("Translation at line " ++ toString line ++ " cannot be inlined: " ++ fault.message)

/-- The book of a project, and its text. -/
def readBook (project : Project) : Command (Book × String) := do
  let file := project.settings.bookFile
  if !(← disk).exists? project.bookPath then throw (.noBook file)
  let text ← readText project.bookPath
  match Book.read (some file) project.settings.tag text with
  | .ok book =>
    sayObstacles project.settings.tag text fun _ => true
    say .debug "registry.parser"
      ("Parsed " ++ toString book.entries.length ++ " registry entries")
    return (book, text)
  | .error error =>
    let isBefore := fun line => match error with
      | .corrupt _ (some last) => line < last
      | _ => true
    sayObstacles project.settings.tag text isBefore
    throw (.book file error)

def readPlaces (project : Project) : Command PlaceStore := do
  let path := project.placesPath
  match (← disk).read path with
  | .error fault =>
    if fault.kind == .missing then return {}
    throw (.places path .unreadable)
  | .ok source =>
    match source.lines? with
    | none => throw .notText
    | some text =>
      let store ← orFail (.places path) (PlaceStore.read text)
      say .debug "stores.refs" ("Loaded references for " ++ toString store.places.length ++
        " keys from " ++ path.written)
      return store

/-- How the book of a project is brought up to date. -/
def updateOptions (settings : Settings) (append keepsFlags : Bool) : Book.UpdateOptions where
  languages := settings.languages
  append
  indent := settings.indent
  keepsFlags
  marker := settings.marker

/-- Bring a book up to date with what was observed. -/
def updateBook (project : Project) (options : Book.UpdateOptions) (observed : Book.Observed)
    (book : Book) : Command Book.Updated := do
  let disk ← disk
  let updated := book.update observed options fun file => disk.exists? (project.pathOf file)
  for (key, position) in updated.positions do
    say .debug "registry.reconciler"
      ("Inserting new entry " ++ key ++ " at position " ++ toString position)
  return updated

/-- Write the text of a book to the file of the book. -/
def writeBook (project : Project) (book : Book) (text : String) : Command Unit := do
  if !book.canEncode text then throw .noEncoding
  writeText project.bookPath text

/-- Write a book and the places of its entries back, unless it is only a trial. -/
def commit (project : Project) (former : String) (updated : Book.Updated) (store : PlaceStore)
    (isTrial : Bool) : Command Revision := do
  let text := updated.book.text project.settings.indent
  let revision : Revision := {
    path := project.bookPath
    difference := Difference.unified project.settings.bookFile former text
    isTrial
    added := updated.added
    deleted := updated.deleted
    restored := updated.restored }
  inform ("added: " ++ toString updated.added.length ++ ", deleted: " ++
    toString updated.deleted.length ++ ", restored: " ++ toString updated.restored.length)
  if isTrial then return revision
  if text != former then
    writeBook project updated.book text
    inform ("Registry updated at " ++ project.bookPath.written)
  let store := store.replace updated.book.placesByKey
  if store.isChanged then writeText project.placesPath store.render
  return revision

/-- Make the book of a project agree with its sources. -/
def update (environment : Settings.Environment) (path : String) (append? : Option Bool)
    (isTrial : Bool) : Command Revision := do
  let project ← load environment path
  let (book, former) ← readBook project
  let store ← readPlaces project
  let observed ← observe project (← sourceFiles project) project.settings.version
  let options := updateOptions project.settings (append?.getD project.settings.appends) false
  let updated ← updateBook project options observed (store.addToBook book)
  commit project former updated store isTrial

/-- Change the keys of a book from one version of the normal form to another. -/
def rekey (environment : Settings.Environment) (path : String) (before after : Int)
    (isTrial : Bool) : Command (Book.KeyMap × Revision) := do
  let project ← load environment path
  let (book, former) ← readBook project
  let store ← readPlaces project
  let files ← sourceFiles project
  let old ← observe project files before
  let new ← observe project files after
  let keys ← orFail .rekey (Book.keyMapOf old new)
  let (book, changes) ← orFail .rekey ((store.addToBook book).rekey keys)
  for (key, target) in changes do
    say .info "registry" ("Will map key " ++ key ++ " to " ++ target)
  let options := updateOptions project.settings project.settings.appends false
  let updated ← updateBook project options new book
  let revision ← commit project former updated store isTrial
  if project.settings.version != after then
    say .warning "orchestrator" ("Set normalizer_version: " ++ toString after ++
      " in .jsxlate.yml to keep using the migrated keys")
  return (changes, revision)

end Phrasebook.Project
