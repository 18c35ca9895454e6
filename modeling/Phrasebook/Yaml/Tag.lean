import Phrasebook.Yaml.Cursor

/-!
# Tags of nodes

A tag says what kind of value a node has.  A plain scalar without a tag gets
the one that its text looks like.
-/

namespace Phrasebook.Yaml

/-- The kinds of value. -/
inductive Tag where
  | null
  | truth
  | integer
  | decimal
  | date
  | text
  | binary
  | list
  | mapping
  | set
  | pairs
  /-- The key under which other mappings are merged into one. -/
  | merge
  /-- The key of a default value. -/
  | default
  | unknown
deriving DecidableEq, Repr, Inhabited

/-- The start of the names of known tags. -/
def tagPrefix : String :=
  "tag:yaml.org,2002:"

def Tag.ofName (name : String) : Tag :=
  if name == tagPrefix ++ "null" then .null
  else if name == tagPrefix ++ "bool" then .truth
  else if name == tagPrefix ++ "int" then .integer
  else if name == tagPrefix ++ "float" then .decimal
  else if name == tagPrefix ++ "timestamp" then .date
  else if name == tagPrefix ++ "str" then .text
  else if name == tagPrefix ++ "binary" then .binary
  else if name == tagPrefix ++ "seq" then .list
  else if name == tagPrefix ++ "map" then .mapping
  else if name == tagPrefix ++ "set" then .set
  else if name == tagPrefix ++ "omap" || name == tagPrefix ++ "pairs" then .pairs
  else if name == tagPrefix ++ "merge" then .merge
  else if name == tagPrefix ++ "value" then .default
  else .unknown

/-! ## Looks of plain scalars -/

def truthWords : List String :=
  ["yes", "Yes", "YES", "no", "No", "NO", "true", "True", "TRUE", "false", "False", "FALSE", "on",
    "On", "ON", "off", "Off", "OFF"]

def nullWords : List String :=
  ["~", "null", "Null", "NULL", ""]

/-- Digits and underscores. -/
def isDigitOrGap (character : Char) : Bool :=
  character.isDigit || character == '_'

def dropSign (text : List Char) : List Char :=
  match text with
  | '-' :: rest | '+' :: rest => rest
  | _ => text

/-- Groups of a colon and one or two digits below sixty, at least one, and what follows them. -/
def sixtieths : Nat → List Char → Option (List Char)
  | 0, _ => none
  | fuel + 1, text =>
    let group? :=
      match text with
      | ':' :: high :: low :: rest =>
        if '0' ≤ high && high ≤ '5' && low.isDigit then some rest
        else if high.isDigit then some (low :: rest)
        else none
      | [':', digit] => if digit.isDigit then some [] else none
      | _ => none
    match group? with
    | none => none
    | some rest => some ((sixtieths fuel rest).getD rest)

/-- Whether a text is an exponent with its sign, or nothing. -/
def isExponent (text : List Char) : Bool :=
  match text with
  | [] => true
  | mark :: sign :: digits =>
    (mark == 'e' || mark == 'E') && (sign == '+' || sign == '-') && !digits.isEmpty &&
      digits.all Char.isDigit
  | _ => false

def startsWithDigit (text : List Char) : Bool :=
  text.head?.any Char.isDigit

def looksDecimal (text : List Char) : Bool :=
  let number := dropSign text
  let isSigned := number.length != text.length
  let word := String.ofList number
  let isWord := [".inf", ".Inf", ".INF"].contains word ||
    (!isSigned && [".nan", ".NaN", ".NAN"].contains word)
  let whole := number.dropWhile isDigitOrGap
  let isPositional :=
    match whole with
    | '.' :: rest =>
      if whole.length == number.length then
        !isSigned && startsWithDigit rest && isExponent (rest.dropWhile isDigitOrGap)
      else startsWithDigit number && isExponent (rest.dropWhile isDigitOrGap)
    | _ => false
  let isSixtieths := startsWithDigit number &&
    match sixtieths whole.length whole with
    | some ('.' :: rest) => rest.all isDigitOrGap
    | _ => false
  isWord || isPositional || isSixtieths

def looksInteger (text : List Char) : Bool :=
  match dropSign text with
  | ['0'] => true
  | '0' :: 'b' :: digits =>
    !digits.isEmpty && digits.all fun digit => digit == '0' || digit == '1' || digit == '_'
  | '0' :: 'x' :: digits =>
    !digits.isEmpty && digits.all fun digit =>
      isDigitOrGap digit || ('a' ≤ digit && digit ≤ 'f') || ('A' ≤ digit && digit ≤ 'F')
  | '0' :: digits =>
    digits.all fun digit => ('0' ≤ digit && digit ≤ '7') || digit == '_'
  | first :: rest =>
    let tail := rest.dropWhile isDigitOrGap
    first.isDigit && (tail.isEmpty || sixtieths tail.length tail == some [])
  | [] => false

/-- What follows a run of digits of a given length. -/
def digitsThen (least most : Nat) (text : List Char) : Option (List Char) :=
  let digits := (text.takeWhile Char.isDigit).length
  if least ≤ digits && digits ≤ most then some (text.drop digits) else none

/-- What follows a character. -/
def charThen (character : Char) (text : List Char) : Option (List Char) :=
  match text with
  | first :: rest => if first == character then some rest else none
  | [] => none

/-- What follows a year, a month and a day. -/
def dayThen (least : Nat) (text : List Char) : Option (List Char) := do
  let text ← digitsThen 4 4 text
  let text ← digitsThen least 2 (← charThen '-' text)
  digitsThen least 2 (← charThen '-' text)

def isBlankCharacter (character : Char) : Bool :=
  character == ' ' || character == '\t'

/-- What follows an hour, a minute and a second. -/
def clockThen (text : List Char) : Option (List Char) := do
  let text ← digitsThen 1 2 text
  let text ← digitsThen 2 2 (← charThen ':' text)
  digitsThen 2 2 (← charThen ':' text)

/-- The digits of a fraction, which may be missing, and what follows them. -/
def splitFraction (text : List Char) : List Char × List Char :=
  match text with
  | '.' :: rest => (rest.takeWhile Char.isDigit, rest.dropWhile Char.isDigit)
  | _ => ([], text)

/-- Whether a text is the offset of a time zone, or nothing. -/
def isZone (text : List Char) : Bool :=
  text.isEmpty ||
    match text.dropWhile isBlankCharacter with
    | ['Z'] => true
    | sign :: rest =>
      (sign == '+' || sign == '-') &&
        match digitsThen 1 2 rest with
        | some [] => true
        | some (':' :: minutes) => digitsThen 2 2 minutes == some []
        | _ => false
    | [] => false

/-- The part of a text after the gap between a day and a time. -/
def afterGap? (text : List Char) : Option (List Char) :=
  match text with
  | first :: rest =>
    if first == 'T' || first == 't' then some rest
    else if isBlankCharacter first then some (rest.dropWhile isBlankCharacter)
    else none
  | [] => none

def looksDate (text : List Char) : Bool :=
  dayThen 2 text == some [] ||
    match (dayThen 1 text).bind afterGap? with
    | some time => (clockThen time).any fun rest => isZone (splitFraction rest).2
    | none => false

def Tag.ofPlain (text : List Char) : Tag :=
  let word := String.ofList text
  if truthWords.contains word then .truth
  else if looksDecimal text then .decimal
  else if looksInteger text then .integer
  else if word == "<<" then .merge
  else if nullWords.contains word then .null
  else if looksDate text then .date
  else if word == "=" then .default
  else .text

end Phrasebook.Yaml
