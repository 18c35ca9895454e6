/-!
# Texts of files

A file holds bytes that need not be text.  A `Source` holds its characters,
with the control character U+0001 in the place of every byte that belongs to
no well-formed UTF-8 sequence, together with these bytes and their offsets.
The stand-in takes one byte as well, so offsets are those of the file.
-/

namespace Phrasebook.Text

/-- The bytes of a text. -/
def encoded (text : List Char) : List UInt8 :=
  text.flatMap String.utf8EncodeChar

/-- The characters of a file and the bytes in it that are not text. -/
structure Source where
  characters : List Char
  /-- The offset and the value of every byte for which a stand-in stands. -/
  stray : List (Nat × UInt8) := []
deriving DecidableEq, Repr, Inhabited

namespace Source

/-- The character that stands for a byte that is not text. -/
def standIn : Char :=
  '\x01'

def ofString (text : String) : Source :=
  ⟨text.toList, []⟩

def isContinuation (byte : Nat) : Bool :=
  0x80 ≤ byte && byte ≤ 0xBF

/-- The smallest and largest second byte after a first one. -/
def secondRange (first : Nat) : Nat × Nat :=
  if first == 0xE0 then (0xA0, 0xBF)
  else if first == 0xED then (0x80, 0x9F)
  else if first == 0xF0 then (0x90, 0xBF)
  else if first == 0xF4 then (0x80, 0x8F)
  else (0x80, 0xBF)

/-- The code point of the well-formed sequence at the front of bytes, and its length. -/
def sequenceAt? (bytes : List UInt8) : Option (Nat × Nat) :=
  match bytes.map UInt8.toNat with
  | [] => none
  | first :: rest =>
    let follows := fun (second : Nat) =>
      (secondRange first).1 ≤ second && second ≤ (secondRange first).2
    if first < 0x80 then some (first, 1)
    else if first < 0xC2 then none
    else if first < 0xE0 then
      match rest with
      | second :: _ =>
        if follows second then some ((first - 0xC0) * 0x40 + (second - 0x80), 2) else none
      | _ => none
    else if first < 0xF0 then
      match rest with
      | second :: third :: _ =>
        if follows second && isContinuation third then
          some ((first - 0xE0) * 0x1000 + (second - 0x80) * 0x40 + (third - 0x80), 3)
        else none
      | _ => none
    else if first < 0xF5 then
      match rest with
      | second :: third :: fourth :: _ =>
        if follows second && isContinuation third && isContinuation fourth then
          some ((first - 0xF0) * 0x40000 + (second - 0x80) * 0x1000 + (third - 0x80) * 0x40 +
            (fourth - 0x80), 4)
        else none
      | _ => none
    else none

/-- Decode bytes from an offset on, where the first `read` of them are already decoded. -/
def decodeFrom (offset : Nat) : Nat → List UInt8 → Source
  | _, [] => ⟨[], []⟩
  | read + 1, _ :: bytes => decodeFrom (offset + 1) read bytes
  | 0, byte :: bytes =>
    match sequenceAt? ((byte :: bytes).take 4) with
    | some (code, length) =>
      let rest := decodeFrom (offset + 1) (length - 1) bytes
      { rest with characters := Char.ofNat code :: rest.characters }
    | none =>
      let rest := decodeFrom (offset + 1) 0 bytes
      ⟨standIn :: rest.characters, (offset, byte) :: rest.stray⟩

def ofBytes (bytes : List UInt8) : Source :=
  decodeFrom 0 0 bytes

def bytesFrom (stray : List (Nat × UInt8)) (offset : Nat) : List Char → List UInt8
  | [] => []
  | character :: characters =>
    match stray.lookup offset with
    | some byte => byte :: bytesFrom stray (offset + 1) characters
    | none =>
      String.utf8EncodeChar character ++
        bytesFrom stray (offset + character.utf8Size) characters

/-- The bytes of the file. -/
def bytes (source : Source) : List UInt8 :=
  bytesFrom source.stray 0 source.characters

/-- Whether the bytes between two offsets are text. -/
def isTextBetween (source : Source) (start stop : Nat) : Bool :=
  source.stray.all fun byte => byte.1 < start || stop ≤ byte.1

/-- The text of the file, if all of it is text. -/
def text? (source : Source) : Option String :=
  if source.stray.isEmpty then some (String.ofList source.characters) else none

end Source

/-- Every line end as a single line feed. -/
def unifyLineEnds : List Char → List Char
  | [] => []
  | '\r' :: '\n' :: text => '\n' :: unifyLineEnds text
  | character :: text =>
    (if character == '\r' then '\n' else character) :: unifyLineEnds text

/-- The text of a file with every line end as a single line feed. -/
def Source.lines? (source : Source) : Option String :=
  source.text?.map fun text => String.ofList (unifyLineEnds text.toList)

end Phrasebook.Text
