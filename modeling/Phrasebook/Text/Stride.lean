/-!
# Regular sets of code points

Tables of character properties are lists of strides: code points at a fixed
distance from each other between two ends, the ends included.  The tables of
this library follow version 14 of the Unicode standard.
-/

namespace Phrasebook.Text

/-- The code points `first`, `first + step`, … up to `last`. -/
structure Stride where
  first : Nat
  last : Nat
  step : Nat
deriving DecidableEq, Repr

/-- Whether a code point belongs to a stride. -/
def Stride.holds (stride : Stride) (code : Nat) : Bool :=
  stride.first ≤ code && code ≤ stride.last && (code - stride.first) % stride.step == 0

/-- Whether a character belongs to one of several strides. -/
def inStrides (strides : List Stride) (character : Char) : Bool :=
  strides.any fun stride => stride.holds character.toNat

end Phrasebook.Text
