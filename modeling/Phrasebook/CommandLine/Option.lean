/-!
# Options

The arguments of a command are words and options.  The name of a long option
may be cut short as long as it is the only one with that beginning, and short
options may share one hyphen.
-/

namespace Phrasebook.CommandLine

/-- An option under its names; the first one is short. -/
structure Flag where
  names : List String
  takesValue : Bool := false
deriving DecidableEq, Repr

/-- What an argument looks like. -/
inductive Look where
  | word
  /-- An option, with a value behind an equals sign. -/
  | option (flag : Flag) (value? : Option String)
  /-- A short option, with more behind its name. -/
  | cluster (flag : Flag) (more : List Char)
  | unknown
  /-- A name that is the beginning of several. -/
  | unclear
deriving DecidableEq, Repr

def isNegativeNumber (text : List Char) : Bool :=
  match text with
  | '-' :: number =>
    let rest := number.dropWhile Char.isDigit
    if rest.isEmpty then !number.isEmpty
    else rest.head? == some '.' && !(rest.drop 1).isEmpty && (rest.drop 1).all Char.isDigit
  | _ => false

def named? (flags : List Flag) (name : List Char) : Option Flag :=
  flags.find? fun flag => flag.names.contains (String.ofList name)

/-- The options with a name that starts in some way. -/
def withStart (flags : List Flag) (start : List Char) : List Flag :=
  flags.flatMap fun flag =>
    (flag.names.filter fun name => start.isPrefixOf name.toList).map fun _ => flag

/-- A text before its first equals sign, and what follows that. -/
def splitValue (text : List Char) : List Char × Option String :=
  match text.dropWhile (· != '=') with
  | _ :: value => (text.takeWhile (· != '='), some (String.ofList value))
  | [] => (text, none)

/-- What an argument looks like that starts with a hyphen and is no full name of an option. -/
def lookOfOther (flags : List Flag) (text : List Char) : Look :=
  let other :=
    if isNegativeNumber text || text.contains ' ' then Look.word else .unknown
  match text with
  | '-' :: '-' :: _ =>
    let (name, value?) := splitValue text
    match withStart flags name with
    | [] => other
    | [flag] => .option flag value?
    | _ => .unclear
  | '-' :: letter :: more =>
    match named? flags ['-', letter] with
    | some flag => .cluster flag more
    | none => other
  | _ => other

def lookOf (flags : List Flag) (argument : String) : Look :=
  let text := argument.toList
  if text.head? != some '-' || text.length == 1 then .word
  else
    match named? flags text with
    | some flag => .option flag none
    | none =>
      let (name, value?) := splitValue text
      match named? flags name with
      | some flag => .option flag value?
      | none => lookOfOther flags text

/-- The options and words among some arguments. -/
structure Reading where
  /-- The options with their values, in order. -/
  options : List (Flag × String) := []
  /-- The words between options; options part them. -/
  runs : List (List String) := []
  /-- What is left behind the first word, if reading stops there. -/
  rest : List String := []
  hasUnknown : Bool := false
deriving DecidableEq, Repr

/-- Why arguments cannot be used. -/
inductive Misuse where
  /-- The arguments ask for help. -/
  | help
  | usage
deriving DecidableEq, Repr

def helpFlag : Flag :=
  ⟨["-h", "--help"], false⟩

/-- The options that one argument gives: short options that take no value may be followed by
others. The argument behind them is there to be taken as a value. -/
def optionsOf (flags : List Flag) (next? : Option String) :
    Nat → Look → Except Misuse (List (Flag × String) × Bool)
  | 0, _ => .error .usage
  | fuel + 1, look =>
    match look with
    | .option flag value? =>
      match value? with
      | some value => if flag.takesValue then .ok ([(flag, value)], false) else .error .usage
      | none =>
        if !flag.takesValue then
          if flag = helpFlag then .error .help else .ok ([(flag, "")], false)
        else
          match next? with
          | some value => .ok ([(flag, value)], true)
          | none => .error .usage
    | .cluster flag more =>
      match more with
      | [] => optionsOf flags next? fuel (.option flag none)
      | letter :: others =>
        if flag.takesValue then .ok ([(flag, String.ofList more)], false)
        else if flag = helpFlag then .error .help
        else
          match named? flags ['-', letter] with
          | none => .error .usage
          | some next => do
            let (options, takesNext) ← optionsOf flags next? fuel (.cluster next others)
            return ((flag, "") :: options, takesNext)
    | _ => .error .usage

/-- Add a word to the last run. -/
def Reading.addWord (reading : Reading) (word : String) : Reading :=
  match reading.runs.reverse with
  | [] => { reading with runs := [[word]] }
  | run :: runs => { reading with runs := ((run ++ [word]) :: runs).reverse }

/-- Read arguments. The flag says whether to stop at the first word. -/
def readArguments (flags : List Flag) (stopsAtWord : Bool) :
    List String → Reading → Except Misuse Reading
  | [], reading => .ok reading
  | "--" :: words, reading =>
    if stopsAtWord then .error .usage
    else
      let reading := words.foldl Reading.addWord reading
      let isHollow := (reading.runs.getLast?.getD []).isEmpty
      .ok { reading with hasUnknown := reading.hasUnknown || isHollow }
  | argument :: arguments, reading =>
    match lookOf flags argument with
    | .unclear => .error .usage
    | .word =>
      if stopsAtWord then .ok { reading with rest := argument :: arguments }
      else readArguments flags stopsAtWord arguments (reading.addWord argument)
    | .unknown =>
      readArguments flags stopsAtWord arguments
        { reading with hasUnknown := true, runs := reading.runs ++ [[]] }
    | look => do
      let next? := arguments.head?.filter fun next =>
        next != "--" && lookOf flags next == .word
      let (options, takesNext) ← optionsOf flags next? (argument.length + 2) look
      let reading := { reading with
        options := reading.options ++ options, runs := reading.runs ++ [[]] }
      readArguments flags stopsAtWord (arguments.drop (if takesNext then 1 else 0)) reading
termination_by arguments => arguments.length

/-- Whether an option was given. -/
def Reading.has (reading : Reading) (flag : Flag) : Bool :=
  reading.options.any fun option => option.1 == flag

/-- The value of an option; the last one counts. -/
def Reading.value? (reading : Reading) (flag : Flag) : Option String :=
  (reading.options.reverse.find? fun option => option.1 == flag).map (·.2)

end Phrasebook.CommandLine
