import Phrasebook.Book.Update
import Phrasebook.Project.Basic

/-!
# Observed phrases

What the sources of a project hold, and where.
-/

namespace Phrasebook.Project

open Command
open Scan (SourceFile)

/-- What is scanned for phrases. -/
def scanOptions (settings : Settings) : Scan.Options where
  directories := settings.sourceDirectories
  extensions := settings.extensions
  excludedDirectories := settings.excludedDirectories
  excludedFiles := settings.excludedFiles

/-- The source files of a project; the book is none. -/
def sourceFiles (project : Project) : Command (List SourceFile) := do
  let disk ← disk
  let options := scanOptions project.settings
  let files ← orFail .scan (Scan.sourceFiles disk project.root options)
  say .debug "scanner" ("Scanned " ++ toString files.length ++ " source file(s) below " ++
    ", ".intercalate options.directories)
  let bookPath := Disk.Path.relative disk.current project.root project.bookPath
  return files.filter fun file => file.path != bookPath

/-- The phrases of a source under a version of the normal form. -/
def phrasesOf (tag : String) (version : Int) (origin : Phrase.Origin) :
    Command (List Phrase) := do
  let phrases ← orFail .phrase (origin.phrases tag version)
  say .debug "fragments" (origin.path ++ ": " ++ toString phrases.length ++ " fragment(s)")
  return phrases

/-- The phrases of source files under a version of the normal form. -/
def observe (project : Project) (files : List SourceFile) (version : Int) :
    Command Book.Observed := do
  let observed ← files.mapM fun file => do
    return (file.path, ← phrasesOf project.settings.tag version ⟨file.path, file.source⟩)
  let count := (observed.flatMap (·.2)).length
  say .debug "orchestrator" ("Found " ++ toString count ++ " fragments in " ++
    toString observed.length ++ " files")
  return observed

/-- The place and the key of every phrase of a project, in the order of the places. -/
def listPhrases (environment : Settings.Environment) (path : String) : Command (List String) := do
  let project ← load environment path
  let observed ← observe project (← sourceFiles project) project.settings.version
  let phrases := observed.flatMap (·.2)
  let sorted := phrases.mergeSort fun phrase other => !(other.place.isBefore phrase.place)
  return sorted.map fun phrase => phrase.place.toString ++ "\t" ++ phrase.key

end Phrasebook.Project
