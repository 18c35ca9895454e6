/-!
# Bytes as letters

Four letters of an alphabet of 64 stand for three bytes.  Characters that are
not in the alphabet are skipped, and equals signs fill the last group of four.
-/

namespace Phrasebook.Text.Base64

def letterValue? (character : Char) : Option Nat :=
  if 'A' ≤ character && character ≤ 'Z' then some (character.toNat - 'A'.toNat)
  else if 'a' ≤ character && character ≤ 'z' then some (character.toNat - 'a'.toNat + 26)
  else if '0' ≤ character && character ≤ '9' then some (character.toNat - '0'.toNat + 52)
  else if character == '+' then some 62
  else if character == '/' then some 63
  else none

/-- The bytes of the letters that follow a number of letters of a group. The bits that are left of
those letters make a number, and a number of equals signs has been read since the last of them. -/
def decodeFrom (letters bits fills : Nat) : List Char → Option (List UInt8)
  | [] => if letters == 0 then some [] else none
  | '=' :: rest =>
    if 2 ≤ letters && 4 ≤ letters + fills + 1 then some []
    else decodeFrom letters bits (if 2 ≤ letters then fills + 1 else fills) rest
  | character :: rest =>
    match letterValue? character with
    | none => decodeFrom letters bits fills rest
    | some value =>
      let all := bits * 64 + value
      let kept := 2 ^ (6 - 2 * letters)
      if letters == 0 then decodeFrom 1 value 0 rest
      else
        (decodeFrom ((letters + 1) % 4) (all % kept) 0 rest).map (UInt8.ofNat (all / kept) :: ·)

/-- The bytes that letters stand for. -/
def decode (text : List Char) : Option (List UInt8) :=
  decodeFrom 0 0 0 text

end Phrasebook.Text.Base64
