import Phrasebook.Project.Basic
import Phrasebook.Starter

/-!
# Starting projects

The first command on a project writes its starter files.
-/

namespace Phrasebook.Project

open Command

/-- Write a starter file unless there is something in its place; says whether it was written. -/
def writeStarter (path : Disk.Path) (text? : Option String) : Command Bool := do
  if (← disk).exists? path then
    inform (path.written ++ " already exists; leaving it alone")
    return false
  match text? with
  | none => throw .noSpecifier
  | some text =>
    writeText path text
    inform ("Created " ++ path.written)
    return true

/-- Write the missing starter files of a project, and list them. -/
def start (environment : Settings.Environment) (path : String) : Command (List Disk.Path) := do
  let project ← load environment path
  let settings := project.settings
  let hasBook ← writeStarter project.bookPath (some (Starter.bookText settings))
  let hasImport ← writeStarter project.importPath (Starter.importText? project.root settings)
  let created := (if hasBook then [project.bookPath] else []) ++
    (if hasImport then [project.importPath] else [])
  if created.isEmpty then throw (.started settings.bookFile settings.importFile)
  return created

end Phrasebook.Project
