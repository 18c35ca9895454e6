import Phrasebook.Project.Failure
import Phrasebook.Project.Log

/-!
# Projects

A project is a directory with settings.  Commands on it read and write files
and keep a log; what a command has done before it fails stays done.
-/

namespace Phrasebook.Project

open Text (Source)

/-- What commands act on. -/
structure Session where
  disk : Disk := {}
  records : List Record := []

/-- A command that ends with a value or with a failure. -/
abbrev Command :=
  ExceptT Failure (StateM Session)

namespace Command

/-- Say something. -/
def say (level : Level) (topic message : String) : Command Unit :=
  modify fun session => { session with records := session.records ++ [⟨level, topic, message⟩] }

/-- Say something about the command itself. -/
def inform (message : String) : Command Unit :=
  say .info "orchestrator" message

/-- The disk as it is now. -/
def disk : Command Disk := do
  return (← get).disk

/-- Go on with the value of an outcome. -/
def orFail {ε α : Type} (failure : ε → Failure) (outcome : Except ε α) : Command α :=
  match outcome with
  | .ok value => pure value
  | .error fault => throw (failure fault)

def readFile (path : Disk.Path) : Command Source := do
  orFail .disk ((← disk).read path)

def readText (path : Disk.Path) : Command String := do
  match (← readFile path).lines? with
  | some text => return text
  | none => throw .notText

/-- Replace the content of a file. -/
def writeText (path : Disk.Path) (text : String) : Command Unit := do
  let session ← get
  let (outcome, disk) := session.disk.write path (Source.ofString text)
  set { session with disk }
  orFail .disk outcome

end Command

end Phrasebook.Project

namespace Phrasebook

/-- A directory with settings. -/
structure Project where
  root : Disk.Path
  settings : Settings
deriving Repr

namespace Project

open Command

/-- The path of a file that the settings name. -/
def pathOf (project : Project) (file : String) : Disk.Path :=
  project.root.join (Disk.Path.ofString file)

def bookPath (project : Project) : Disk.Path :=
  project.pathOf project.settings.bookFile

def importPath (project : Project) : Disk.Path :=
  project.pathOf project.settings.importFile

def placesPath (project : Project) : Disk.Path :=
  project.pathOf project.settings.placesFile

/-- The paths that the settings name. -/
def paths (project : Project) : List Disk.Path :=
  project.bookPath :: project.importPath :: project.placesPath ::
    project.settings.sourceDirectories.map project.pathOf

/-- The path of the settings file that goes with a path: the path itself, or the file in it or
beside it. -/
def settingsPath (disk : Disk) (path : Disk.Path) : Disk.Path :=
  let fileName := Disk.Path.ofString Settings.fileName
  disk.resolve
    (if disk.isDirectory path then path.join fileName
    else if path.name == Settings.fileName then path
    else path.parent.join fileName)

/-- The project whose settings file goes with a path. A missing file is an empty one. -/
def ofPath (disk : Disk) (environment : Settings.Environment) (path : Disk.Path) :
    Except Failure Project := do
  let file := settingsPath disk path
  let document ←
    if disk.exists? file then
      match disk.read file with
      | .error fault => throw (.disk fault)
      | .ok source =>
        match source.lines? with
        | none => throw .notText
        | some text => (Settings.documentOf text).mapError .settings
    else pure (.mapping [])
  let settings ← (Settings.ofDocument environment document).mapError .settings
  return ⟨file.parent, settings⟩

/-- A home directory in the place of a tilde at the start of a path. -/
def expandHome (environment : Settings.Environment) (path : Disk.Path) : Disk.Path :=
  match path.parts, environment.get? "HOME" with
  | "~" :: parts, some home =>
    if path.isAbsolute then path else (Disk.Path.ofString home).join ⟨0, parts⟩
  | _, _ => path

def load (environment : Settings.Environment) (path : String) : Command Project := do
  let disk ← disk
  let root := disk.resolve (expandHome environment (Disk.Path.ofString path))
  if !disk.exists? root then throw (.noProject path)
  let project ← orFail id (Project.ofPath disk environment root)
  for (name, value) in project.settings.described do
    say .debug "orchestrator" ("option " ++ name ++ ": " ++ value)
  return project

end Project

end Phrasebook
