import Phrasebook.Json.Literal
import Phrasebook.Value

/-!
# Reading JSON

`Json.read?` reads a document as a value.  Where an object gives a field more
than once, the last value counts.  The words `NaN` and `Infinity` are numbers.
-/

namespace Phrasebook.Json

def isBlank (character : Char) : Bool :=
  character == ' ' || character == '\t' || character == '\n' || character == '\r'

def skipBlanks (text : List Char) : List Char :=
  text.dropWhile isBlank

/-- The decimal digits at the front of a text, and what follows them. -/
def spanDigits (text : List Char) : List Char × List Char :=
  (text.takeWhile Char.isDigit, text.dropWhile Char.isDigit)

def numberOf (digits : List Char) : Nat :=
  (Text.Reference.numberAt 10 0 digits).1

/-- The part of a number after its point, and what follows it. -/
def readFraction (text : List Char) : List Char × List Char :=
  match text with
  | '.' :: rest =>
    let (digits, rest) := spanDigits rest
    if digits.isEmpty then ([], text) else (digits, rest)
  | _ => ([], text)

/-- The exponent of a number, and what follows it. -/
def readExponent (text : List Char) : Option Int × List Char :=
  match text with
  | [] => (none, text)
  | mark :: rest =>
    if mark != 'e' && mark != 'E' then (none, text)
    else
      let (isNegative, rest) :=
        match rest with
        | '-' :: rest => (true, rest)
        | '+' :: rest => (false, rest)
        | _ => (false, rest)
      let (digits, rest) := spanDigits rest
      if digits.isEmpty then (none, text)
      else
        let size : Int := numberOf digits
        (some (if isNegative then -size else size), rest)

/-- Read a number without its sign. -/
def readUnsigned (isNegative : Bool) (text : List Char) : Option (Value × List Char) :=
  let (whole, rest) := spanDigits text
  if whole.isEmpty || (whole.length != 1 && whole.head? == some '0') then none
  else
    let (fraction, rest) := readFraction rest
    let (exponent?, rest) := readExponent rest
    if fraction.isEmpty && exponent?.isNone then
      let size : Int := numberOf whole
      some (.integer (if isNegative then -size else size), rest)
    else
      let number := Number.Double.ofDecimal isNegative (numberOf (whole ++ fraction))
        (exponent?.getD 0 - fraction.length)
      some (.decimal number, rest)

def words : List (String × Value) :=
  [("null", .null), ("true", .truth true), ("false", .truth false),
    ("NaN", .decimal .undefined), ("Infinity", .decimal (.infinite false)),
    ("-Infinity", .decimal (.infinite true))]

/-- Read a value that is not made of others. -/
def readPlain (text : List Char) : Option (Value × List Char) :=
  match words.find? fun word => word.1.toList.isPrefixOf text with
  | some (word, value) => some (value, text.drop word.length)
  | none =>
    match text with
    | '"' :: rest =>
      (readCharacters 0 rest).map fun (characters, rest) =>
        (.text (String.ofList characters), rest)
    | '-' :: rest => readUnsigned true rest
    | _ => readUnsigned false text

mutual

/-- Read a value, nested as deep as given. Lists and objects without content do not count. -/
def readValue : Nat → Nat → List Char → Option (Value × List Char)
  | 0, _, _ => none
  | fuel + 1, depth, text =>
    match text with
    | '[' :: rest =>
      match skipBlanks rest with
      | ']' :: rest => some (.list [], rest)
      | rest =>
        if depth == 0 then none
        else (readItems fuel (depth - 1) rest).map fun (items, rest) => (.list items, rest)
    | '\x7b' :: rest =>
      match skipBlanks rest with
      | '\x7d' :: rest => some (.mapping [], rest)
      | rest => if depth == 0 then none else readFields fuel (depth - 1) [] rest
    | _ => readPlain text

/-- Read the items of a list, of which there is at least one more. -/
def readItems : Nat → Nat → List Char → Option (List Value × List Char)
  | 0, _, _ => none
  | fuel + 1, depth, text =>
    match readValue fuel depth text with
    | none => none
    | some (item, rest) =>
      match skipBlanks rest with
      | ']' :: rest => some ([item], rest)
      | ',' :: rest =>
        (readItems fuel depth (skipBlanks rest)).map fun (items, rest) => (item :: items, rest)
      | _ => none

/-- Read the fields of an object after those already read, of which there is at least one
more. -/
def readFields : Nat → Nat → List (Value × Value) → List Char → Option (Value × List Char)
  | 0, _, _, _ => none
  | fuel + 1, depth, fields, text =>
    match text with
    | '"' :: rest =>
      match readCharacters 0 rest with
      | none => none
      | some (name, rest) =>
        match skipBlanks rest with
        | ':' :: rest =>
          match readValue fuel depth (skipBlanks rest) with
          | none => none
          | some (value, rest) =>
            let name := String.ofList name
            let fields := Value.setField (Value.isText name) (.text name) value fields
            match skipBlanks rest with
            | '\x7d' :: rest => some (.mapping fields, rest)
            | ',' :: rest => readFields fuel depth fields (skipBlanks rest)
            | _ => none
        | _ => none
    | _ => none

end

/-- The value that a document holds, if it is one and is nested no deeper than given. -/
def read? (depth : Nat) (text : String) : Option Value :=
  let characters := skipBlanks text.toList
  match readValue (2 * characters.length + 2) depth characters with
  | some (value, rest) => if (skipBlanks rest).isEmpty then some value else none
  | none => none

end Phrasebook.Json
