/-!
# Binary floating-point numbers

A `Double` has 53 significant bits and the exponents of the 64-bit format.  A
decimal is read as the nearest such number, found in exact arithmetic.
-/

namespace Phrasebook.Number

/-- A binary floating-point number. -/
inductive Double where
  /-- The mantissa times a power of two. -/
  | finite (isNegative : Bool) (mantissa : Nat) (exponent : Int)
  | infinite (isNegative : Bool)
  | undefined
deriving DecidableEq, Repr, Inhabited

/-- A quotient rounded to the nearest natural number; a half goes to the even neighbour. -/
def roundQuotient (numerator denominator : Nat) : Nat :=
  let floor := numerator / denominator
  let twice := 2 * (numerator % denominator)
  if twice < denominator then floor
  else if denominator < twice then floor + 1
  else floor + floor % 2

def digitCount (number : Nat) : Nat :=
  (Nat.toDigits 10 number).length

namespace Double

def smallestExponent : Int :=
  -1074

def largestExponent : Int :=
  971

/-- The quotient of two numbers, divided by a power of two, as a quotient. -/
def scaled (numerator denominator : Nat) (exponent : Int) : Nat × Nat :=
  if exponent < 0 then (numerator * Nat.pow 2 (-exponent).toNat, denominator)
  else (numerator, denominator * Nat.pow 2 exponent.toNat)

def ofQuotient (isNegative : Bool) (numerator denominator : Nat) : Double :=
  let guess : Int := (Nat.log2 numerator : Int) - Nat.log2 denominator - 53
  let low := max guess smallestExponent
  let fine := scaled numerator denominator low
  let exponent := if Nat.pow 2 53 ≤ fine.1 / fine.2 then low + 1 else low
  let quotient := scaled numerator denominator exponent
  let mantissa := roundQuotient quotient.1 quotient.2
  let (mantissa, exponent) :=
    if mantissa == Nat.pow 2 53 then (Nat.pow 2 52, exponent + 1) else (mantissa, exponent)
  if largestExponent < exponent then .infinite isNegative
  else .finite isNegative mantissa exponent

/-- The number nearest to a natural number times a power of ten. -/
def ofDecimal (isNegative : Bool) (digits : Nat) (exponent : Int) : Double :=
  let magnitude : Int := digitCount digits + exponent
  if digits == 0 || magnitude < -330 then .finite isNegative 0 smallestExponent
  else if 310 < magnitude then .infinite isNegative
  else if exponent < 0 then ofQuotient isNegative digits (Nat.pow 10 (-exponent).toNat)
  else ofQuotient isNegative (digits * Nat.pow 10 exponent.toNat) 1

/-- The whole number that a finite number is, if it is one. -/
def toInt? : Double → Option Int
  | finite isNegative mantissa exponent =>
    let whole :=
      if 0 ≤ exponent then some (mantissa * Nat.pow 2 exponent.toNat)
      else if mantissa % Nat.pow 2 (-exponent).toNat == 0 then
        some (mantissa / Nat.pow 2 (-exponent).toNat)
      else none
    whole.map fun value => if isNegative then -(value : Int) else value
  | _ => none

/-- The number nearest to a whole number times a power of two. -/
def ofScaled (mantissa exponent : Int) : Double :=
  if exponent < 0 then ofQuotient (mantissa < 0) mantissa.natAbs (Nat.pow 2 (-exponent).toNat)
  else ofQuotient (mantissa < 0) (mantissa.natAbs * Nat.pow 2 exponent.toNat) 1

/-- The mantissa of a finite number with its sign, and the exponent. -/
def parts? : Double → Option (Int × Int)
  | finite isNegative mantissa exponent =>
    some (if isNegative then -(mantissa : Int) else mantissa, exponent)
  | _ => none

/-- The number nearest to a sum. -/
def plus (first second : Double) : Double :=
  match first.parts?, second.parts? with
  | some (mantissa, exponent), some (otherMantissa, otherExponent) =>
    let low := min exponent otherExponent
    let scaled := mantissa * Nat.pow 2 (exponent - low).toNat
    let otherScaled := otherMantissa * Nat.pow 2 (otherExponent - low).toNat
    ofScaled (scaled + otherScaled) low
  | none, some _ => first
  | some _, none => second
  | none, none => if first = second then first else undefined

/-- The number nearest to a product with a natural number. -/
def times (number : Double) (factor : Nat) : Double :=
  match number.parts? with
  | some (mantissa, exponent) => ofScaled (mantissa * factor) exponent
  | none => number

/-- The number with the other sign. -/
def negate : Double → Double
  | finite isNegative mantissa exponent => finite (!isNegative) mantissa exponent
  | infinite isNegative => infinite (!isNegative)
  | undefined => undefined

end Double

end Phrasebook.Number
