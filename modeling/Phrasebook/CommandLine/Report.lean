import Phrasebook.CommandLine.Call
import Phrasebook.Project.Build
import Phrasebook.Project.Exchange
import Phrasebook.Project.Revision
import Phrasebook.Project.Start

/-!
# Reports

What a call prints.  Its result goes to the output; its log, and the failure
that ends it, go to the error output.
-/

namespace Phrasebook.CommandLine

open Project (Command Failure Level Record Revision Session)

/-- What a call prints, and its exit code. -/
structure Report where
  code : Nat
  output : String := ""
  errors : String := ""
deriving DecidableEq, Repr

/-- A line of the output. -/
def line (text : String) : String :=
  text ++ "\n"

/-- A path as it is shown, which is short if it lies below the current directory. -/
def shown (current : List String) (path : Disk.Path) : String :=
  match (Disk.Path.ofParts current).below? path with
  | some parts => (Disk.Path.mk 0 parts).written
  | none => path.written

/-- What is printed about a revision. -/
def revisionText (current : List String) (revision : Revision) : String :=
  if revision.isTrial then
    line "Registry changes (dry-run):" ++
      line (if revision.difference == "" then "(no diff)" else revision.difference)
  else if !revision.isChange then line "Translations already up to date"
  else
    line ("Translations updated at " ++ shown current revision.path) ++
      line ("  added:   " ++ toString revision.added.length) ++
      line ("  deleted: " ++ toString revision.deleted.length) ++
      (if revision.restored.isEmpty then ""
        else line ("  restored: " ++ toString revision.restored.length))

/-- Run a command and print its result. -/
def perform (environment : Settings.Environment) (project : String) (action : Action) :
    Command String := do
  let current := (← Command.disk).current
  match action with
  | .start =>
    let created ← Project.start environment project
    return String.join (created.map fun path => line ("Created " ++ shown current path))
  | .update append? isTrial =>
    return revisionText current (← Project.update environment project append? isTrial)
  | .list => return String.join ((← Project.listPhrases environment project).map line)
  | .exportBook output? =>
    let target ← Project.exportBook environment project (output?.map Disk.Path.ofString)
    return line ("Exported " ++ shown current target)
  | .importBook input isTrial =>
    return revisionText current
      (← Project.importBook environment project (Disk.Path.ofString input) isTrial)
  | .rekey before after isTrial =>
    let (changes, revision) ← Project.rekey environment project before after isTrial
    return String.join (changes.map fun (key, target) => line (key ++ " -> " ++ target)) ++
      revisionText current revision
  | .build files target? =>
    let written ← Project.build environment project files (target?.map Disk.Path.ofString)
    return String.join (written.map fun path => line (shown current path))

/-- What is printed about a failure, if the command line catches it. -/
def failureText? (action : Action) (failure : Failure) : Option String :=
  failure.message?.bind fun message =>
    if failure.isAboutPresence then some (line message)
    else if failure.isOfDisk then none
    else
      some (line ("jsxlate " ++ action.name ++ " failed: " ++ message) ++
        line "Run with --verbose for more details.")

/-- The level from which on records are printed. -/
def Call.level (call : Call) : Level :=
  if call.isVerbose then .debug else if call.isQuiet then .warning else .info

/-- Make sure that there is a log file. -/
def openLog (disk : Disk) (file : String) : Except Disk.Fault Unit × Disk :=
  let path := Disk.Path.ofString file
  match disk.ensureDirectory path.parent with
  | (.error fault, disk) => (.error fault, disk)
  | (.ok (), disk) =>
    let path := disk.resolve path
    if disk.isFile path then (.ok (), disk) else disk.write path (Text.Source.ofString "")

def writeLog (disk : Disk) (file time : String) (records : List Record) : Disk :=
  let path := disk.resolve (Disk.Path.ofString file)
  match disk.read path with
  | .error _ => disk
  | .ok source =>
    let bytes := source.bytes ++ (String.join (records.map (Record.timedLine time))).toUTF8.toList
    (disk.write path (Text.Source.ofBytes bytes)).2

def Call.run (call : Call) (environment : Settings.Environment) (time : String) (disk : Disk) :
    Except Failure Report × Disk :=
  let (opened, disk) := match call.logFile? with
    | some file => openLog disk file
    | none => (.ok (), disk)
  match opened with
  | .error fault => (.error (.disk fault), disk)
  | .ok () =>
    let (outcome, session) := (perform environment call.project call.action).run.run { disk }
    let disk := match call.logFile? with
      | some file => writeLog session.disk file time session.records
      | none => session.disk
    let log := Project.linesFrom call.level session.records
    match outcome with
    | .ok output => (.ok { code := 0, output, errors := log }, disk)
    | .error failure =>
      match failureText? call.action failure with
      | some text => (.ok { code := 1, errors := log ++ text }, disk)
      | none => (.error failure, disk)

/-- How to call the program. -/
def usage : String :=
  line ("usage: jsxlate [-h] [-v | -q] [--log-file LOG_FILE] \x7b" ++
    ",".intercalate (commands.map (·.1)) ++ "\x7d ...")

def run (arguments : List String) (environment : Settings.Environment) (time : String)
    (disk : Disk) : Except Failure Report × Disk :=
  match Call.ofArguments arguments with
  | .ok call => call.run environment time disk
  | .error .help => (.ok { code := 0, output := usage }, disk)
  | .error .usage => (.ok { code := 2, errors := usage }, disk)

end Phrasebook.CommandLine
