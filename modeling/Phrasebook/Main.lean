import Phrasebook.CommandLine.Report
import Std.Time

/-!
# The program

The program copies the files that a call may use into a disk, runs the call on
it, and writes back what has changed.
-/

namespace Phrasebook.Program

/-- The environment as far as it matters. -/
def environment : IO Settings.Environment := do
  let values ← Settings.variableNames.mapM fun name => do
    return (← IO.getEnv name).map fun value => (name, value)
  return values.filterMap id

/-- The time as logs tell it. -/
def time : IO String := do
  return (← Std.Time.PlainDateTime.now).format "uuuu-MM-dd HH:mm:ss,SSS"

/-- Whether a directory may hold files that a call uses. -/
def isOfInterest (place : List String) : Bool :=
  let name := place.getLast?.getD ""
  name == ".jsxlate" || !Scan.neverScanned.contains name

/-- Copy what is at a place and, if that is wanted, below it. -/
partial def copyPlace (isDeep : Bool) (place : List String) (disk : Disk) : IO Disk := do
  if (disk.fileAt? place).isSome then return disk
  let name := (Disk.Path.ofParts place).written
  let path ← IO.FS.realPath name
  if !(← path.pathExists) then return disk
  if !(← path.isDir) then
    let bytes ← IO.FS.readBinFile name
    return { disk with files := (place, Text.Source.ofBytes bytes.toList) :: disk.files }
  let mut disk := { disk with directories := place :: disk.directories }
  if isDeep && isOfInterest place then
    for entry in (← path.readDir) do
      disk ← copyPlace isDeep (place ++ [entry.fileName]) disk
  return disk

/-- Copy what is at a path, with the directories above it. -/
def copy (isDeep : Bool) (disk : Disk) (path : Disk.Path) : IO Disk := do
  let place := (disk.resolve path).parts
  let mut disk := disk
  for length in List.range place.length do
    disk ← try copyPlace false (place.take length) disk catch _ => pure disk
  try copyPlace isDeep place disk catch _ => pure disk

/-- Copy all that a call may use. -/
def copyFor (environment : Settings.Environment) (call : CommandLine.Call) (disk : Disk) :
    IO Disk := do
  let root := Project.expandHome environment (Disk.Path.ofString call.project)
  let disk ← copy true disk root
  let disk ← (call.paths.map Disk.Path.ofString).foldlM (copy false) disk
  match Project.ofPath disk environment root with
  | .error _ => return disk
  | .ok project => (project.paths ++ call.paths.map project.pathOf).foldlM (copy false) disk

/-- Write back what has changed. -/
def save (before after : Disk) : IO Unit := do
  for place in after.directories do
    if !before.directories.contains place then
      IO.FS.createDirAll (Disk.Path.ofParts place).written
  for (place, source) in after.files do
    if before.fileAt? place != some source then
      let name := (Disk.Path.ofParts place).written
      IO.FS.writeBinFile (name ++ ".tmp") ⟨source.bytes.toArray⟩
      IO.FS.rename (name ++ ".tmp") name

/-- Run the program and give its exit code. -/
def run (arguments : List String) : IO UInt32 := do
  let environment ← environment
  let current := (Disk.Path.ofString (toString (← IO.currentDir))).parts
  let before ← match CommandLine.Call.ofArguments arguments with
    | .ok call => copyFor environment call { current, directories := [current] }
    | .error _ => pure { current }
  let (outcome, after) := CommandLine.run arguments environment (← time) before
  save before after
  match outcome with
  | .ok report =>
    IO.print report.output
    IO.eprint report.errors
    return UInt32.ofNat report.code
  | .error failure =>
    IO.eprintln (failure.message?.getD "jsxlate: unusable input")
    return 1

end Phrasebook.Program

def main (arguments : List String) : IO UInt32 :=
  Phrasebook.Program.run arguments
