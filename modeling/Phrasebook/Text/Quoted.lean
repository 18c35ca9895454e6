import Phrasebook.Text.Printable
import Phrasebook.Text.Sha256

/-!
# Quoted text

How texts are quoted in messages: between apostrophes, or between quotation
marks if the text holds apostrophes and no quotation marks, with escapes for
the backslash, for the quote and for everything that is not printable.
-/

namespace Phrasebook.Text

namespace Quoted

def quoteFor (text : List Char) : Char :=
  if text.contains '\'' && !text.contains '"' then '"' else '\''

/-- The written form of a character between copies of a quote. -/
def encodeCharacter (quote character : Char) : List Char :=
  if character == quote || character == '\\' then ['\\', character]
  else if character == '\n' then ['\\', 'n']
  else if character == '\r' then ['\\', 'r']
  else if character == '\t' then ['\\', 't']
  else if isPrintable character then [character]
  else if character.toNat < 0x100 then '\\' :: 'x' :: Sha256.hexText 2 character.toNat
  else if character.toNat < 0x10000 then '\\' :: 'u' :: Sha256.hexText 4 character.toNat
  else '\\' :: 'U' :: Sha256.hexText 8 character.toNat

/-- The written form of a byte between copies of a quote. -/
def encodeByte (quote : Char) (byte : UInt8) : List Char :=
  if byte < 0x80 then encodeCharacter quote (Char.ofNat byte.toNat)
  else '\\' :: 'x' :: Sha256.hexText 2 byte.toNat

end Quoted

def quoted (text : String) : String :=
  let quote := Quoted.quoteFor text.toList
  String.ofList
    (quote :: text.toList.flatMap (Quoted.encodeCharacter quote) ++ [quote])

/-- Bytes in quotes, with a mark in front of them. -/
def quotedBytes (bytes : List UInt8) : String :=
  let quote := Quoted.quoteFor (bytes.map fun byte => Char.ofNat byte.toNat)
  String.ofList ('b' :: quote :: bytes.flatMap (Quoted.encodeByte quote) ++ [quote])

/-- Texts in quotes, in brackets. -/
def quotedList (texts : List String) : String :=
  "[" ++ ", ".intercalate (texts.map quoted) ++ "]"

end Phrasebook.Text
