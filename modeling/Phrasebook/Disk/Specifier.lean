import Phrasebook.Disk.Path

/-!
# Import specifiers

How one module names another one: by the path from its own directory, without
the suffix of the file.
-/

namespace Phrasebook.Disk

/-- The specifier by which an importer names a target; a directory on the way to the importer has
none. -/
def specifierFor? (directory : List String) (importer target : Path) : Option String :=
  let start := (importer.parent.resolved directory).parts
  let parts := Path.fromStart start (target.resolved directory).parts
  match parts.getLast? with
  | none => none
  | some name =>
    let specifier := "/".intercalate (parts.dropLast ++ [stemOf name])
    some (if specifier.toList.head? == some '.' then specifier else "./" ++ specifier)

end Phrasebook.Disk
