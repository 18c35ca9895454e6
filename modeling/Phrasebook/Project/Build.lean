import Phrasebook.Project.Revision

/-!
# Building projects

Sources are built into a directory of their own, where they keep their paths.
-/

namespace Phrasebook.Project

open Command
open Phrasebook.Build (BuildOptions)

/-- The directory into which sources are built unless another one is given. -/
def buildDirectory : String :=
  "build/jsxlate"

def buildOptions (settings : Settings) (book? : Option Book) : BuildOptions where
  book?
  languages := settings.build.languages
  keepsChildren := settings.build.keepsChildren
  version := settings.version
  tag := settings.tag

/-- The book to build for languages with, if there are any. -/
def bookForBuild (project : Project) : Command (Option Book) := do
  let settings := project.settings
  let languages := settings.build.languages
  if languages.isEmpty then return none
  if !(← disk).exists? project.bookPath then
    throw (.noBookFor (settings.build.language?.getD "") settings.bookFile)
  let (book, _) ← readBook project
  inform ("Baking language(s) " ++ ", ".intercalate languages)
  return some book

def buildSource (options : BuildOptions) (origin : Phrase.Origin) : Command String := do
  let _ ← phrasesOf options.tag options.version origin
  let edits ← orFail .build (Phrasebook.Build.editsOf origin options)
  say .debug "bake" (origin.path ++ ": " ++ toString edits.length ++ " replacement(s)")
  orFail .build (Phrasebook.Build.edited origin edits)

def buildFile (project : Project) (book? : Option Book) (target : Disk.Path) (file : String) :
    Command Disk.Path := do
  let settings := project.settings
  let path := project.pathOf file
  let disk ← disk
  let relative := Disk.Path.relative disk.current project.root path
  let source ← readFile path
  let output ← match book?.filter fun _ => disk.isSame path project.bookPath with
    | some book =>
      orFail (Failure.build ∘ .missing)
        (Phrasebook.Build.book book settings.build.languages settings.indent)
    | none => buildSource (buildOptions settings book?) ⟨relative, source⟩
  let path := target.join (Disk.Path.ofString relative)
  writeText path output
  return path

def build (environment : Settings.Environment) (path : String) (files : List String)
    (target? : Option Disk.Path) : Command (List Disk.Path) := do
  let project ← load environment path
  let book? ← bookForBuild project
  let target := target?.getD (project.pathOf buildDirectory)
  let written ← files.mapM (buildFile project book? target)
  inform ("Wrote " ++ toString written.length ++ " file(s) to " ++ target.written)
  return written

end Phrasebook.Project
