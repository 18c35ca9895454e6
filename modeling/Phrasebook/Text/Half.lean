/-!
# Halves of surrogate pairs

An escape may give half of a surrogate pair, which is a code point but no
character.  A text can only hold a character for private use in its place, and
no encoding of a text has bytes for what this character stands for.
-/

namespace Phrasebook.Text

/-- Whether a code point is half of a surrogate pair. -/
def isHalf (code : Nat) : Bool :=
  0xD800 ≤ code && code ≤ 0xDFFF

/-- The distance of the characters that stand for halves from the halves. -/
def halfDistance : Nat :=
  0x100000

/-- The character for a code point, which stands for it if it is half of a surrogate pair. -/
def characterFor (code : Nat) : Char :=
  Char.ofNat (if isHalf code then code + halfDistance else code)

/-- No character is half of a surrogate pair, so each stands for itself. -/
@[simp] theorem characterFor_toNat (character : Char) :
    characterFor character.toNat = character := by
  have notHalf : isHalf character.toNat = false := by
    have isValid : character.toNat.isValidChar := character.valid
    unfold Nat.isValidChar at isValid
    simp only [isHalf, Bool.and_eq_false_iff, decide_eq_false_iff_not]
    omega
  rw [characterFor, notHalf, if_neg Bool.false_ne_true, Char.ofNat_toNat]

/-- Whether a character may stand for half of a surrogate pair. -/
def standsForHalf (character : Char) : Bool :=
  isHalf (character.toNat - halfDistance)

end Phrasebook.Text
