/-!
# Paths

A path is a list of names after the slashes that it starts with.  Empty names
and single dots are dropped when a path is read; double dots stay, because
where they lead depends on the disk.
-/

namespace Phrasebook.Disk

/-- A path, with the number of slashes that it starts with. -/
structure Path where
  slashes : Nat := 0
  parts : List String := []
deriving DecidableEq, Repr, Inhabited

namespace Path

/-- The slashes that count at the start of a text: two mean something else than one, and more mean
the same as one. -/
def slashesOf (text : List Char) : Nat :=
  let slashes := (text.takeWhile (· == '/')).length
  if slashes ≤ 2 then slashes else 1

/-- The names between the slashes of a text. -/
def partsOf (text : List Char) : List String :=
  ((text.splitOn '/').map String.ofList).filter fun part => part != "" && part != "."

def ofString (text : String) : Path :=
  ⟨slashesOf text.toList, partsOf text.toList⟩

/-- The absolute path with some names. -/
def ofParts (parts : List String) : Path :=
  ⟨1, parts⟩

/-- A path as text; the path without slashes and names is a dot. -/
def written (path : Path) : String :=
  if path.slashes == 0 && path.parts.isEmpty then "."
  else String.ofList (List.replicate path.slashes '/') ++ "/".intercalate path.parts

def isAbsolute (path : Path) : Bool :=
  path.slashes != 0

/-- A path as seen from another one; an absolute path is seen the same from everywhere. -/
def join (path other : Path) : Path :=
  if other.isAbsolute then other else ⟨path.slashes, path.parts ++ other.parts⟩

def parent (path : Path) : Path :=
  { path with parts := path.parts.dropLast }

/-- The last name of a path, or nothing. -/
def name (path : Path) : String :=
  path.parts.getLast?.getD ""

/-- Let every double dot cancel the name before it. -/
def cancelled (parts : List String) : List String :=
  parts.foldl (fun done part => if part == ".." then done.dropLast else done ++ [part]) []

/-- The absolute path without double dots, as seen from a directory. -/
def resolved (directory : List String) (path : Path) : Path :=
  ofParts (cancelled (((ofParts directory).join path).parts))

/-- The names that lead from one path to another below it. -/
def below? (start path : Path) : Option (List String) :=
  if start.slashes == path.slashes && start.parts.isPrefixOf path.parts then
    some (path.parts.drop start.parts.length)
  else none

/-- The path from a start to another path, through the last directory above both. -/
def fromStart : List String → List String → List String
  | part :: start, other :: parts =>
    if part == other then fromStart start parts
    else List.replicate (start.length + 1) ".." ++ other :: parts
  | start, parts => List.replicate start.length ".." ++ parts

/-- A path relative to a root if it lies below it, and else as it is. -/
def relative (directory : List String) (root path : Path) : String :=
  match below? (root.resolved directory) (path.resolved directory) with
  | some parts => (Path.mk 0 parts).written
  | none => path.written

end Path

/-- The last dot of a name and what follows it, unless it is the first or the last character. -/
def suffixOf (name : String) : String :=
  let ending := (name.toList.reverse.takeWhile (· != '.')).reverse
  let start := name.length - ending.length
  if 1 < start && !ending.isEmpty then String.ofList ('.' :: ending) else ""

/-- A name without its suffix. -/
def stemOf (name : String) : String :=
  String.ofList (name.toList.take (name.length - (suffixOf name).length))

end Phrasebook.Disk
