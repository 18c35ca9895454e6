import Phrasebook.Markup.Lexeme
import Phrasebook.Text.Half
import Phrasebook.Text.Reference

/-!
# Meaning of literals

A string literal of a script is decoded by backslash escapes, an attribute
string by character references.  Both begin and end with a quote.
-/

namespace Phrasebook.Markup.Literal

/-- A literal without its quotes. -/
def unquote (literal : List Char) : List Char :=
  (literal.drop 1).dropLast

/-- The letters that stand for control characters after a backslash. -/
def controlLetters : List (Char × Char) :=
  [('n', '\n'), ('t', '\t'), ('r', '\r'), ('b', '\x08'), ('f', '\x0c'), ('v', '\x0b'),
    ('0', '\x00')]

/-- The number that an escape gives, and how many characters after the backslash belong to it. -/
def numberEscape? (text : List Char) : Option (Nat × Nat) :=
  let numbered := fun (opening length closing : Nat) =>
    some (opening + length + closing,
      (Text.Reference.numberAt 16 0 ((text.drop opening).take length)).1)
  let bracedDigits := Measure.stretch isHexDigit (text.drop 2)
  match text with
  | 'u' :: '\x7b' :: _ =>
    if bracedDigits != 0 && (text.drop (2 + bracedDigits)).head? == some '\x7d' then
      numbered 2 bracedDigits 1
    else none
  | 'u' :: digits => if Measure.exactly 4 isHexDigit digits == 4 then numbered 1 4 0 else none
  | 'x' :: digits => if Measure.exactly 2 isHexDigit digits == 2 then numbered 1 2 0 else none
  | _ => none

/-- The code points that the characters after a backslash stand for, and how many of these
characters belong to the escape. The outer option is `none` where the escape gives a number above
the Unicode range. -/
def escapeAt (text : List Char) : Option (Nat × List Nat) :=
  match numberEscape? text with
  | some (length, number) => if 0x10FFFF < number then none else some (length, [number])
  | none =>
    match text with
    | '\r' :: '\n' :: _ => some (2, [])
    | '\n' :: _ | '\r' :: _ | '\u2028' :: _ | '\u2029' :: _ => some (1, [])
    | letter :: _ => some (1, [((controlLetters.lookup letter).getD letter).toNat])
    | [] => some (0, ['\\'.toNat])

/-- Decode escapes, where the first `read` characters belong to one that is already decoded. -/
def decodeFrom : Nat → List Char → Option (List Nat)
  | _, [] => some []
  | read + 1, _ :: text => decodeFrom read text
  | 0, character :: text =>
    if character == '\\' then
      match escapeAt text with
      | none => none
      | some (length, codes) => (decodeFrom length text).map (codes ++ ·)
    else (decodeFrom 0 text).map (character.toNat :: ·)

/-- The code points that a string literal stands for, one for each escape, or `none` if an escape
in it gives none. -/
def codes? (literal : List Char) : Option (List Nat) :=
  decodeFrom 0 (unquote literal)

/-- The text that a string literal stands for, with characters for halves of surrogate pairs. -/
def meaning? (literal : List Char) : Option String :=
  (codes? literal).map fun codes => String.ofList (codes.map Text.characterFor)

/-- Whether a string literal stands for a half of a surrogate pair among other code points. -/
def escapesHalf (literal : List Char) : Bool :=
  (codes? literal).any fun codes => codes.any Text.isHalf

/-- The text that an attribute string stands for. -/
def attributeMeaning (literal : List Char) : String :=
  String.ofList (Text.Reference.decode (unquote literal))

end Phrasebook.Markup.Literal
