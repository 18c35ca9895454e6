import Phrasebook.Disk.Path
import Phrasebook.Text.Quoted
import Phrasebook.Text.Source

/-!
# Disks

A disk holds files and directories at places, which are lists of names.  A
path leads to a place, from the current directory unless it is absolute, and
every name on the way must be that of a directory.
-/

namespace Phrasebook

open Text (Source)

/-- The places of the files and directories of a disk. -/
structure Disk where
  files : List (List String × Source) := []
  directories : List (List String) := []
  /-- The place of the current directory. -/
  current : List String := []
deriving Repr, Inhabited

namespace Disk

/-- Why a file or directory cannot be used. -/
inductive FaultKind where
  | missing
  | occupied
  | notDirectory
  | isDirectory
  /-- The target has no name of its own. -/
  | busy
deriving DecidableEq, Repr, Inhabited

/-- What went wrong at a path. -/
structure Fault where
  kind : FaultKind
  path : Path
deriving DecidableEq, Repr, Inhabited

def FaultKind.number : FaultKind → Nat
  | missing => 2
  | busy => 16
  | occupied => 17
  | notDirectory => 20
  | isDirectory => 21

def FaultKind.description : FaultKind → String
  | missing => "No such file or directory"
  | busy => "Device or resource busy"
  | occupied => "File exists"
  | notDirectory => "Not a directory"
  | isDirectory => "Is a directory"

def Fault.message (fault : Fault) : String :=
  "[Errno " ++ toString fault.kind.number ++ "] " ++ fault.kind.description ++ ": " ++
    Text.quoted fault.path.written

def fileAt? (disk : Disk) (place : List String) : Option Source :=
  (disk.files.find? fun file => file.1 == place).map (·.2)

/-- Whether a directory is at a place; the root always is. -/
def hasDirectory (disk : Disk) (place : List String) : Bool :=
  place.isEmpty || disk.directories.contains place

/-- The place to which names lead from a place. -/
def walk (disk : Disk) (here : List String) : List String → Except FaultKind (List String)
  | [] => .ok here
  | part :: parts =>
    if disk.hasDirectory here then
      walk disk (if part == ".." then here.dropLast else here ++ [part]) parts
    else if (disk.fileAt? here).isSome then .error .notDirectory
    else .error .missing

def placeOf (disk : Disk) (path : Path) : Except FaultKind (List String) :=
  disk.walk (if path.isAbsolute then [] else disk.current) path.parts

def isFile (disk : Disk) (path : Path) : Bool :=
  match disk.placeOf path with
  | .ok place => (disk.fileAt? place).isSome
  | .error _ => false

def isDirectory (disk : Disk) (path : Path) : Bool :=
  match disk.placeOf path with
  | .ok place => disk.hasDirectory place
  | .error _ => false

def exists? (disk : Disk) (path : Path) : Bool :=
  disk.isFile path || disk.isDirectory path

/-- The absolute path without double dots. -/
def resolve (disk : Disk) (path : Path) : Path :=
  path.resolved disk.current

/-- The content of a file. -/
def read (disk : Disk) (path : Path) : Except Fault Source :=
  match disk.placeOf path with
  | .error kind => .error ⟨kind, path⟩
  | .ok place =>
    match disk.fileAt? place with
    | some source => .ok source
    | none => .error ⟨if disk.hasDirectory place then .isDirectory else .missing, path⟩

/-- Whether two paths lead to the same place. -/
def isSame (disk : Disk) (first second : Path) : Bool :=
  match disk.placeOf first, disk.placeOf second with
  | .ok place, .ok other => place == other
  | _, _ => false

/-- Give a place a content, where the file was or behind all files. -/
def putFile (place : List String) (source : Source) :
    List (List String × Source) → List (List String × Source)
  | [] => [(place, source)]
  | file :: files =>
    if file.1 == place then (place, source) :: files else file :: putFile place source files

/-- Make a directory where its parent is one. -/
def makeOne (disk : Disk) (path : Path) : Except FaultKind Disk :=
  match disk.placeOf path with
  | .error kind => .error kind
  | .ok place =>
    if disk.hasDirectory place || (disk.fileAt? place).isSome then .error .occupied
    else if disk.hasDirectory place.dropLast then
      .ok { disk with directories := disk.directories ++ [place] }
    else .error .missing

/-- Make a directory, and the missing ones above it, unless it is there. What was made before a
fault stays. -/
def makeDirectory : Nat → Path → Disk → Except Fault Unit × Disk
  | 0, _, disk => (.ok (), disk)
  | fuel + 1, path, disk =>
    match disk.makeOne path with
    | .ok disk => (.ok (), disk)
    | .error .missing =>
      if path.parts.isEmpty then (.error ⟨.missing, path⟩, disk)
      else
        match makeDirectory fuel path.parent disk with
        | (.error fault, disk) => (.error fault, disk)
        | (.ok (), disk) =>
          match disk.makeOne path with
          | .ok disk => (.ok (), disk)
          | .error kind =>
            if kind != .missing && disk.isDirectory path then (.ok (), disk)
            else (.error ⟨kind, path⟩, disk)
    | .error kind =>
      if disk.isDirectory path then (.ok (), disk) else (.error ⟨kind, path⟩, disk)

/-- Make a directory, and the missing ones above it, unless it is there. -/
def ensureDirectory (path : Path) (disk : Disk) : Except Fault Unit × Disk :=
  makeDirectory (path.parts.length + 1) path disk

/-- Replace the content of a file, or make it and the directories above it. -/
def write (path : Path) (source : Source) (disk : Disk) : Except Fault Unit × Disk :=
  match disk.ensureDirectory path.parent with
  | (.error fault, disk) => (.error fault, disk)
  | (.ok (), disk) =>
    if path.name == "" || path.name == ".." then (.error ⟨.busy, path⟩, disk)
    else
      match disk.placeOf path with
      | .error kind => (.error ⟨kind, path⟩, disk)
      | .ok place =>
        if disk.hasDirectory place then (.error ⟨.isDirectory, path⟩, disk)
        else (.ok (), { disk with files := putFile place source disk.files })

def remove (place : List String) (disk : Disk) : Disk :=
  { disk with
    files := disk.files.filter fun file => !place.isPrefixOf file.1
    directories := disk.directories.filter fun directory => !place.isPrefixOf directory }

end Disk

end Phrasebook
