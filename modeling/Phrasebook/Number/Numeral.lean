import Phrasebook.Number.Double
import Phrasebook.Text.Digit
import Phrasebook.Text.Space

/-!
# Numerals

Whole numbers in a base between two and sixteen, and decimals, with white space
around them and a sign.  The digits may be those of any script.
-/

namespace Phrasebook.Number

/-- Whether a text has a minus sign, and the text without its sign. -/
def splitSign (text : List Char) : Bool × List Char :=
  match text with
  | '-' :: rest => (true, rest)
  | '+' :: rest => (false, rest)
  | _ => (false, text)

/-- The value of a digit. -/
def digitOf? (character : Char) : Option Nat :=
  if 'a' ≤ character && character ≤ 'f' then some (character.toNat - 'a'.toNat + 10)
  else if 'A' ≤ character && character ≤ 'F' then some (character.toNat - 'A'.toNat + 10)
  else Text.digitValue? character

/-- The number that digits write after some digits of a given value. A single underscore may stand
between two digits, and the flag says that an underscore may come next. -/
def digitsFrom? (base value : Nat) (allowsGap : Bool) : List Char → Option Nat
  | [] => if allowsGap then some value else none
  | '_' :: rest => if allowsGap then digitsFrom? base value false rest else none
  | character :: rest =>
    match digitOf? character with
    | some digit => if digit < base then digitsFrom? base (value * base + digit) true rest else none
    | none => none

/-- A text without the mark of its base, and whether it had one. -/
def dropBase (base : Nat) (text : List Char) : List Char × Bool :=
  match text with
  | '0' :: mark :: rest =>
    if (base == 2 && (mark == 'b' || mark == 'B')) || (base == 8 && (mark == 'o' || mark == 'O')) ||
        (base == 16 && (mark == 'x' || mark == 'X')) then (rest, true)
    else (text, false)
  | _ => (text, false)

def integerOf? (base : Nat) (text : List Char) : Option Int :=
  let (isNegative, text) := splitSign (Text.trimBoth Text.isStripped text)
  let (digits, isMarked) := dropBase base text
  let digits? := match digits with
    | '_' :: rest => if isMarked then some rest else none
    | _ => some digits
  let number? := do
    let digits ← digits?
    if digits.isEmpty || digits.head? == some '_' then none
    else digitsFrom? base 0 false digits
  number?.map fun number => if isNegative then -(number : Int) else number

/-- The whole number that an exponent writes; none stands for zero. -/
def exponentOf? (text : List Char) : Option Int :=
  match text with
  | [] => some 0
  | mark :: rest =>
    let (isNegative, digits) := splitSign rest
    if (mark == 'e' || mark == 'E') && !digits.isEmpty then
      (Text.natOfDigits? 0 digits).map fun number =>
        if isNegative then -(number : Int) else number
    else none

/-- The number nearest to a decimal in positional or in exponential notation. -/
def decimalOf? (isNegative : Bool) (text : List Char) : Option Double :=
  let isDecimal (character : Char) := (Text.digitValue? character).isSome
  let whole := text.takeWhile isDecimal
  let rest := text.dropWhile isDecimal
  let (part, rest) := match rest with
    | '.' :: rest => (rest.takeWhile isDecimal, rest.dropWhile isDecimal)
    | _ => ([], rest)
  if whole.isEmpty && part.isEmpty then none
  else do
    let exponent ← exponentOf? rest
    let digits ← Text.natOfDigits? 0 (whole ++ part)
    return Double.ofDecimal isNegative digits (exponent - part.length)

def Double.ofText? (text : List Char) : Option Double :=
  let (isNegative, text) := splitSign (Text.trimBoth Text.isStripped text)
  let word := String.ofList (text.map Char.toLower)
  if word == "inf" || word == "infinity" then some (.infinite isNegative)
  else if word == "nan" then some .undefined
  else decimalOf? isNegative text

end Phrasebook.Number
