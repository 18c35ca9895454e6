import Phrasebook.Disk.Basic
import Phrasebook.Scan.Ignore
import Phrasebook.Text.Lowercase

/-!
# Source files

Which files below a root may hold phrases.  A file counts if it lies in one of
the source directories, or is one, and no directory on the way from there is
left out.
-/

namespace Phrasebook.Scan

open Text (Source)

/-- A file with the names that lead to it from the root. -/
structure SourceFile where
  parts : List String
  source : Source
deriving DecidableEq, Repr

def SourceFile.path (file : SourceFile) : String :=
  "/".intercalate file.parts

/-- What is scanned. -/
structure Options where
  directories : List String := ["src"]
  extensions : List String := ["js", "jsx"]
  excludedDirectories : List String := []
  excludedFiles : List String := []
deriving DecidableEq, Repr

/-- Why nothing is scanned. -/
inductive Fault where
  | noDirectory (root : Disk.Path)
  | noStart (directory : String)
  /-- A source directory is not below the root. -/
  | outside
  /-- The ignore file is not text. -/
  | notText
deriving DecidableEq, Repr

/-- The directories that are never scanned. -/
def neverScanned : List String :=
  [".git", ".hg", ".svn", ".venv", "node_modules", "__pycache__", ".jsxlate"]

namespace Options

/-- The endings of the names of source files, in lower case. -/
def suffixes (options : Options) : List String :=
  options.extensions.map fun extension =>
    String.ofList ('.' :: (Text.lower extension).toList.dropWhile (· == '.'))

/-- Whether a directory on the way to a file may be entered. -/
def enters (options : Options) (rules : List Rule) (parts : List String) : Bool :=
  let name := parts.getLast?.getD ""
  !(neverScanned.contains name || options.excludedDirectories.contains name ||
    ignores rules parts true)

/-- Whether a file is a source file as far as its own path tells. -/
def accepts (options : Options) (rules : List Rule) (parts : List String) : Bool :=
  let name := parts.getLast?.getD ""
  !options.excludedFiles.contains name &&
    options.suffixes.contains (Text.lower (Disk.suffixOf name)) && !ignores rules parts false

end Options

/-- The rules of the ignore file of a root. -/
def rulesAt (disk : Disk) (root : Disk.Path) : Except Fault (List Rule) :=
  match disk.read (root.join (Disk.Path.ofString ".gitignore")) with
  | .ok source =>
    match source.lines? with
    | some text => .ok (rulesOf text)
    | none => .error .notText
  | .error _ => .ok []

/-- The names that lead from the root to a source directory. -/
def startOf (disk : Disk) (root : Disk.Path) (directory : String) : Except Fault (List String) :=
  let start := disk.resolve (root.join (Disk.Path.ofString directory))
  if !disk.exists? start then .error (.noStart directory)
  else
    match root.below? start with
    | some parts => .ok parts
    | none => .error .outside

/-- Values, each of them once. -/
def distinct {α : Type} [BEq α] (values : List α) : List α :=
  values.foldr List.insert []

/-- The files below a directory, seen from there, among those that are seen from the directory
around it. -/
def filesUnder (name : String) (files : List SourceFile) : List SourceFile :=
  files.filterMap fun file =>
    match file.parts with
    | [] => none
    | first :: parts => if first == name then some ⟨parts, file.source⟩ else none

/-- The names of the directories in which there are files, directly or further down. -/
def directoriesAmong (files : List SourceFile) : List String :=
  distinct (files.filterMap fun file =>
    match file.parts with
    | name :: _ :: _ => some name
    | _ => none)

/-- The source files in a directory and in the directories below it, down to some level. The files
are seen from the directory, and no directory is entered that may not be. -/
def walk (options : Options) (rules : List Rule) :
    Nat → List String → List SourceFile → List SourceFile
  | 0, _, _ => []
  | levels + 1, here, files =>
    let own := files.filterMap fun file =>
      match file.parts with
      | [name] =>
        if options.accepts rules (here ++ [name]) then some ⟨here ++ [name], file.source⟩ else none
      | _ => none
    let entered := (directoriesAmong files).filter fun name =>
      options.enters rules (here ++ [name])
    own ++ entered.flatMap fun name =>
      walk options rules levels (here ++ [name]) (filesUnder name files)

def lowestLevel (files : List SourceFile) : Nat :=
  files.foldr (fun file level => Nat.max file.parts.length level) 0

/-- The source files that are found from a start, which is a directory or a file itself. -/
def filesFrom (options : Options) (rules : List Rule) (files : List SourceFile)
    (start : List String) : List SourceFile :=
  let inside := start.foldl (fun files name => filesUnder name files) files
  let itself := inside.filterMap fun file =>
    if file.parts.isEmpty && options.accepts rules start then some ⟨start, file.source⟩ else none
  itself ++ walk options rules (lowestLevel inside) start inside

/-- The files of a disk, seen from a root above them. -/
def filesBelow (disk : Disk) (root : Disk.Path) : List SourceFile :=
  disk.files.filterMap fun (place, source) =>
    (root.below? (Disk.Path.ofParts place)).map fun parts => SourceFile.mk parts source

/-- Put files in the order of their paths. -/
def sorted (files : List SourceFile) : List SourceFile :=
  files.mergeSort fun file other => !(other.path < file.path)

/-- The source files below a root. A file that is found from several starts counts once. -/
def sourceFiles (disk : Disk) (base : Disk.Path) (options : Options) :
    Except Fault (List SourceFile) := do
  let root := disk.resolve base
  if !disk.isDirectory root then throw (.noDirectory base)
  let rules ← rulesAt disk root
  let starts ← options.directories.mapM (startOf disk root)
  return sorted (distinct (starts.flatMap (filesFrom options rules (filesBelow disk root))))

/-- What is said about a fault, if anything is. -/
def Fault.message? (fault : Fault) : Option String :=
  match fault with
  | noDirectory root => some ("Project path is not a directory: " ++ root.written)
  | noStart directory => some ("Source directory not found: " ++ directory)
  | outside => none
  | notText => none

end Phrasebook.Scan
