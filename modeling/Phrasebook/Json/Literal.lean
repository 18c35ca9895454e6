import Phrasebook.Text.Reference
import Phrasebook.Text.Sha256

/-!
# Text literals of JSON

A text is written between quotation marks, with escapes for the quotation mark,
the backslash and control characters.  Other characters stand for themselves,
or are escaped as UTF-16 units where the document is to be plain ASCII.
-/

namespace Phrasebook.Json

def letters : List (Char × Char) :=
  [('"', '"'), ('\\', '\\'), ('\n', 'n'), ('\r', 'r'), ('\t', 't'), ('\x08', 'b'), ('\x0c', 'f')]

def unitEscape (unit : Nat) : List Char :=
  '\\' :: 'u' :: Text.Sha256.hexText 4 unit

def units (character : Char) : List Nat :=
  let code := character.toNat
  if code < 0x10000 then [code]
  else [0xD800 + (code - 0x10000) / 0x400, 0xDC00 + (code - 0x10000) % 0x400]

/-- The written form of a character in a literal. -/
def encodeCharacter (isAscii : Bool) (character : Char) : List Char :=
  match letters.lookup character with
  | some letter => ['\\', letter]
  | none =>
    if character.toNat < 0x20 then unitEscape character.toNat
    else if isAscii && 0x7E < character.toNat then (units character).flatMap unitEscape
    else [character]

def literal (isAscii : Bool) (text : String) : List Char :=
  '"' :: text.toList.flatMap (encodeCharacter isAscii) ++ ['"']

/-- The number that four hexadecimal digits write. -/
def unitAt? (text : List Char) : Option Nat :=
  match text with
  | first :: second :: third :: fourth :: _ =>
    [first, second, third, fourth].foldl
      (fun unit digit =>
        match unit, Text.Reference.hexValue? digit with
        | some unit, some value => some (unit * 16 + value)
        | _, _ => none)
      (some 0)
  | _ => none

/-- The characters with an escape of one letter when reading, which accepts one more. -/
def readLetters : List (Char × Char) :=
  ('/', '/') :: letters.map fun pair => (pair.2, pair.1)

/-- The character that an escape stands for, and how many characters after the backslash belong
to it. -/
def escapeAt? (text : List Char) : Option (Nat × Char) :=
  match text with
  | 'u' :: digits =>
    match unitAt? digits with
    | none => none
    | some unit =>
      if unit < 0xD800 || 0xDFFF < unit then some (5, Char.ofNat unit)
      else if unit < 0xDC00 then
        match digits.drop 4 with
        | '\\' :: 'u' :: more =>
          match unitAt? more with
          | some low =>
            if 0xDC00 ≤ low && low ≤ 0xDFFF then
              some (11, Char.ofNat (0x10000 + (unit - 0xD800) * 0x400 + (low - 0xDC00)))
            else none
          | none => none
        | _ => none
      else none
  | letter :: _ => (readLetters.lookup letter).map fun character => (1, character)
  | [] => none

/-- Read a literal after its opening quotation mark, where the first `read` characters belong to
an escape that is already decoded. The rest is what follows the literal. -/
def readCharacters : Nat → List Char → Option (List Char × List Char)
  | _, [] => none
  | read + 1, _ :: text => readCharacters read text
  | 0, character :: text =>
    if character == '"' then some ([], text)
    else if character == '\\' then
      match escapeAt? text with
      | none => none
      | some (length, meaning) =>
        (readCharacters length text).map fun (others, rest) => (meaning :: others, rest)
    else if character.toNat < 0x20 then none
    else (readCharacters 0 text).map fun (others, rest) => (character :: others, rest)

end Phrasebook.Json
