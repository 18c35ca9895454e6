import Phrasebook.Number.Double

/-!
# Shortest decimals

A floating-point number is written with the fewest digits that read back as the
same number, and of these with the nearest to it.
-/

namespace Phrasebook.Number

/-- A decimal: digits times a power of ten. -/
structure Decimal where
  digits : Nat
  exponent : Int
deriving DecidableEq, Repr, Inhabited

namespace Decimal

def dropZeros : Nat → Decimal → Decimal
  | 0, decimal => decimal
  | fuel + 1, decimal =>
    if decimal.digits != 0 && decimal.digits % 10 == 0 then
      dropZeros fuel ⟨decimal.digits / 10, decimal.exponent + 1⟩
    else decimal

/-- The parts of a quotient over one denominator: the numerator times a power of ten as the
first part, the denominator times one as the second. -/
def shifted (numerator denominator : Nat) (power : Int) : Nat × Nat :=
  if power < 0 then (numerator, denominator * Nat.pow 10 (-power).toNat)
  else (numerator * Nat.pow 10 power.toNat, denominator)

/-- The quotients that read back as the same number lie between two bounds. -/
structure Interval where
  low : Nat
  value : Nat
  high : Nat
  denominator : Nat
  isClosed : Bool

def isWithin (interval : Interval) (decimal : Decimal) : Bool :=
  let (left, right) := shifted decimal.digits 1 decimal.exponent
  let scaled := left * interval.denominator
  if interval.isClosed then interval.low * right ≤ scaled && scaled ≤ interval.high * right
  else interval.low * right < scaled && scaled < interval.high * right

/-- The decimal with digits down to a power of ten that lies in an interval and is nearest to its
value. -/
def nearest? (interval : Interval) (power : Int) : Option Decimal :=
  let (left, right) := shifted interval.value interval.denominator (-power)
  let floor := left / right
  let below : Decimal := ⟨floor, power⟩
  let above : Decimal := ⟨floor + 1, power⟩
  let closer := if roundQuotient left right == floor then [below, above] else [above, below]
  closer.find? (isWithin interval)

/-- The numbers that read back as a mantissa times a power of two. -/
def intervalOf (mantissa : Nat) (exponent : Int) : Interval :=
  let isStep := mantissa == Nat.pow 2 52 && Double.smallestExponent < exponent
  let up := if 0 ≤ exponent then Nat.pow 2 exponent.toNat else 1
  let down := if 0 ≤ exponent then 1 else Nat.pow 2 (-exponent).toNat
  ⟨(4 * mantissa - if isStep then 1 else 2) * up, 4 * mantissa * up, (4 * mantissa + 2) * up,
    4 * down, mantissa % 2 == 0⟩

/-- The number of digits before the point of a quotient; negative for leading zeros after it. -/
def magnitude (numerator denominator : Nat) : Int :=
  (digitCount (numerator * Nat.pow 10 400 / denominator) : Int) - 400

/-- The shortest decimal that reads back as a mantissa times a power of two. -/
def shortest (mantissa : Nat) (exponent : Int) : Decimal :=
  let interval := intervalOf mantissa exponent
  let size := magnitude interval.value interval.denominator
  let candidates := (List.range 17).filterMap fun (count : Nat) =>
    nearest? interval (size - count - 1)
  dropZeros 400 (candidates.head?.getD ⟨0, 0⟩)

/-- The written form of a decimal: positional from four zeros after the point up to sixteen
digits before it, and with an exponent otherwise. -/
def written (decimal : Decimal) : String :=
  let digits := Nat.toDigits 10 decimal.digits
  let point : Int := digits.length + decimal.exponent
  let fraction := fun (rest : List Char) => if rest.isEmpty then ['0'] else rest
  if -4 < point && point ≤ 0 then
    String.ofList (['0', '.'] ++ List.replicate (-point).toNat '0' ++ digits)
  else if 0 < point && point ≤ 16 then
    let padded := digits ++ List.replicate (point.toNat - digits.length) '0'
    String.ofList (padded.take point.toNat ++ ['.'] ++ fraction (padded.drop point.toNat))
  else
    let power := (point - 1).natAbs
    let tail := if digits.length == 1 then [] else '.' :: digits.drop 1
    let sign := if point - 1 < 0 then '-' else '+'
    let zero := if power < 10 then ['0'] else []
    String.ofList (digits.take 1 ++ tail ++ ['e', sign] ++ zero ++ Nat.toDigits 10 power)

end Decimal

/-- The written form of a floating-point number. -/
def Double.written : Double → String
  | .undefined => "nan"
  | .infinite isNegative => if isNegative then "-inf" else "inf"
  | .finite isNegative mantissa exponent =>
    (if isNegative then "-" else "") ++
      if mantissa == 0 then "0.0" else (Decimal.shortest mantissa exponent).written

end Phrasebook.Number
