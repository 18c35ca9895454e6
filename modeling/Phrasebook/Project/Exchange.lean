import Phrasebook.Exchange.Export
import Phrasebook.Exchange.Import
import Phrasebook.Exchange.Validation
import Phrasebook.Json.Writer
import Phrasebook.Project.Revision

/-!
# Exchange with editors

The phrases of a book leave a project as a document, and a document with new
wordings comes back.
-/

namespace Phrasebook.Project

open Command
open Phrasebook.Exchange (Document importDocument)

/-- The file to which documents are exported unless another one is given. -/
def exportFile : String :=
  "jsxlate-export.json"

/-- Write what editors need to a file. -/
def exportBook (environment : Settings.Environment) (path : String) (output? : Option Disk.Path) :
    Command Disk.Path := do
  let project ← load environment path
  let (book, _) ← readBook project
  let document ← orFail .slot (Document.ofBook project.settings.marker book)
  let target := output?.getD (project.pathOf exportFile)
  let text := Json.write false document.toValue ++ "\n"
  if !book.canEncode text then throw .notSerializable
  writeText target text
  inform ("Exported " ++ toString document.items.length ++ " entries to " ++ target.written)
  return target

/-- Put the wordings in a document into the book. -/
def importBook (environment : Settings.Environment) (path : String) (input : Disk.Path)
    (isTrial : Bool) : Command Revision := do
  let project ← load environment path
  let document ← orFail .document (Document.read (← readText input))
  let (book, text) ← readBook project
  let store ← readPlaces project
  let settings := project.settings
  let imported := importDocument settings.indent settings.marker document (store.addToBook book)
  for (key, language) in imported.skipped do
    say .warning "registry.patch"
      ("Skipping " ++ key ++ "/" ++ language ++ ": no such translation")
  match imported.fault? with
  | some fault => throw (.slot fault)
  | none =>
    inform ("Patched " ++ toString imported.keys.length ++ " entries")
    let options := updateOptions settings settings.appends true
    let updated ← updateBook project options [] imported.book
    commit project text updated store isTrial

end Phrasebook.Project
