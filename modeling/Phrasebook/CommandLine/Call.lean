import Phrasebook.CommandLine.Option
import Phrasebook.Number.Numeral

/-!
# Calls

What a command line asks for.  General options may stand before the name of
the command or behind it, and options of a command stand behind its name.
-/

namespace Phrasebook.CommandLine

/-- What a command does. -/
inductive Action where
  | start
  | update (append? : Option Bool) (isTrial : Bool)
  | list
  | exportBook (output? : Option String)
  | importBook (input : String) (isTrial : Bool)
  | rekey (before after : Int) (isTrial : Bool)
  | build (files : List String) (target? : Option String)
deriving DecidableEq, Repr

def Action.name : Action → String
  | start => "init"
  | update _ _ => "update"
  | list => "hashes"
  | exportBook _ => "export"
  | importBook _ _ => "import"
  | rekey _ _ _ => "rekey"
  | build _ _ => "build"

/-- A command with the general options. -/
structure Call where
  isVerbose : Bool := false
  isQuiet : Bool := false
  logFile? : Option String := none
  project : String := "."
  action : Action
deriving DecidableEq, Repr

def verboseFlag : Flag :=
  ⟨["-v", "--verbose"], false⟩

def quietFlag : Flag :=
  ⟨["-q", "--quiet"], false⟩

def logFileFlag : Flag :=
  ⟨["--log-file"], true⟩

def projectFlag : Flag :=
  ⟨["-C", "--project"], true⟩

def trialFlag : Flag :=
  ⟨["--dry-run"], false⟩

def appendFlag : Flag :=
  ⟨["--append"], false⟩

def outputFlag : Flag :=
  ⟨["-o", "--output"], true⟩

def targetFlag : Flag :=
  ⟨["--out-dir"], true⟩

/-- The options before the name of a command. -/
def generalFlags : List Flag :=
  [helpFlag, verboseFlag, quietFlag, logFileFlag]

/-- The commands with their own options. -/
def commands : List (String × List Flag) :=
  [("init", []), ("update", [trialFlag, appendFlag]), ("hashes", []), ("export", [outputFlag]),
    ("import", [trialFlag]), ("rekey", [trialFlag]), ("build", [targetFlag])]

/-- Refuse to be verbose and quiet at once. -/
def checkLoudness (reading : Reading) : Except Misuse Unit :=
  if reading.has verboseFlag && reading.has quietFlag then .error .usage else .ok ()

/-- The words in the only run that has any. -/
def onlyRun (reading : Reading) : Except Misuse (List String) :=
  match reading.runs.filter (!·.isEmpty) with
  | [] => .ok []
  | [run] => .ok run
  | _ => .error .usage

def Action.paths : Action → List String
  | start => []
  | update _ _ => []
  | list => []
  | exportBook output? => output?.toList
  | importBook input _ => [input]
  | rekey _ _ _ => []
  | build files target? => files ++ target?.toList

def Call.paths (call : Call) : List String :=
  call.project :: call.logFile?.toList ++ call.action.paths

/-- What a command does with its options and words. -/
def actionOf (name : String) (reading : Reading) : Except Misuse Action :=
  let isTrial := reading.has trialFlag
  match name, reading.runs.flatten with
  | "init", [] => .ok .start
  | "update", [] => .ok (.update (if reading.has appendFlag then some true else none) isTrial)
  | "hashes", [] => .ok .list
  | "export", [] => .ok (.exportBook (reading.value? outputFlag))
  | "import", [input] => .ok (.importBook input isTrial)
  | "rekey", [before, after] =>
    match Number.integerOf? 10 before.toList, Number.integerOf? 10 after.toList with
    | some before, some after => .ok (.rekey before after isTrial)
    | _, _ => .error .usage
  | "build", _ :: _ => do
    return .build (← onlyRun reading) (reading.value? targetFlag)
  | _, _ => .error .usage

def Call.ofArguments (arguments : List String) : Except Misuse Call := do
  let general ← readArguments generalFlags true arguments {}
  checkLoudness general
  match general.rest with
  | [] => throw .usage
  | name :: rest =>
    match commands.lookup name with
    | none => throw .usage
    | some flags =>
      let flags := [helpFlag, verboseFlag, quietFlag, projectFlag] ++ flags
      let reading ← readArguments flags false rest {}
      checkLoudness reading
      if general.hasUnknown || reading.hasUnknown then throw .usage
      let action ← actionOf name reading
      return {
        isVerbose := general.has verboseFlag || reading.has verboseFlag
        isQuiet := general.has quietFlag || reading.has quietFlag
        logFile? := general.value? logFileFlag
        project := (reading.value? projectFlag).getD "."
        action }

end Phrasebook.CommandLine
