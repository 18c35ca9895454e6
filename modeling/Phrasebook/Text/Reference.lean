import Phrasebook.Text.ReferenceNames

/-!
# Character references

A character reference starts with an ampersand and names a character or gives
its number.  `Reference.decode` replaces every reference of a text by what it
stands for; an ampersand that starts no reference stands for itself.
-/

namespace Phrasebook.Text.Reference

/-- Numbers whose character is not the one with that code point: those of an old code page. -/
def replacedNumbers : List (Nat × Nat) :=
  [(0x00, 0xFFFD), (0x0D, 0x0D), (0x80, 0x20AC), (0x81, 0x81), (0x82, 0x201A), (0x83, 0x192),
    (0x84, 0x201E), (0x85, 0x2026), (0x86, 0x2020), (0x87, 0x2021), (0x88, 0x2C6), (0x89, 0x2030),
    (0x8A, 0x160), (0x8B, 0x2039), (0x8C, 0x152), (0x8D, 0x8D), (0x8E, 0x17D), (0x8F, 0x8F),
    (0x90, 0x90), (0x91, 0x2018), (0x92, 0x2019), (0x93, 0x201C), (0x94, 0x201D), (0x95, 0x2022),
    (0x96, 0x2013), (0x97, 0x2014), (0x98, 0x2DC), (0x99, 0x2122), (0x9A, 0x161), (0x9B, 0x203A),
    (0x9C, 0x153), (0x9D, 0x9D), (0x9E, 0x17E), (0x9F, 0x178)]

/-- Numbers that stand for nothing: control characters and noncharacters. -/
def isDropped (number : Nat) : Bool :=
  (0x01 ≤ number && number ≤ 0x08) || (0x0B ≤ number && number ≤ 0x1F && number != 0x0C) ||
    (0x7F ≤ number && number ≤ 0x9F) || (0xFDD0 ≤ number && number ≤ 0xFDEF) ||
    (number % 0x10000 ≥ 0xFFFE && number ≤ 0x10FFFF)

/-- What a reference by number stands for. -/
def ofNumber (number : Nat) : List Char :=
  match replacedNumbers.lookup number with
  | some code => [Char.ofNat code]
  | none =>
    if (0xD800 ≤ number && number ≤ 0xDFFF) || 0x10FFFF < number then ['\ufffd']
    else if isDropped number then []
    else [Char.ofNat number]

/-- What a name stands for. -/
def ofName? (name : List Char) : Option (List Char) :=
  (referenceNames.find? fun entry => entry.1.toList == name).map fun entry => entry.2.toList

/-- The value of a hexadecimal digit. -/
def hexValue? (character : Char) : Option Nat :=
  if '0' ≤ character && character ≤ '9' then some (character.toNat - 0x30)
  else if 'a' ≤ character && character ≤ 'f' then some (character.toNat - 0x57)
  else if 'A' ≤ character && character ≤ 'F' then some (character.toNat - 0x37)
  else none

/-- The number that digits of a base write, and how many digits there are. -/
def numberAt (base : Nat) : Nat → List Char → Nat × Nat
  | value, character :: rest =>
    match hexValue? character with
    | some digit =>
      if digit < base then
        let (number, length) := numberAt base (value * base + digit) rest
        (number, length + 1)
      else (value, 0)
    | none => (value, 0)
  | value, [] => (value, 0)

def semicolonAt : List Char → Nat
  | ';' :: _ => 1
  | _ => 0

/-- A reference by number in a base, after its opening of the given length. -/
def numbered? (base opening : Nat) (text : List Char) : Option (Nat × List Char) :=
  match numberAt base 0 text with
  | (_, 0) => none
  | (number, length) =>
    some (opening + length + semicolonAt (text.drop length), ofNumber number)

/-- A name can hold everything but blanks and the signs of markup. -/
def isNameCharacter (character : Char) : Bool :=
  !(['\t', '\n', '\x0c', ' ', '<', '&', '#', ';'].contains character)

/-- The longest known name of at least two characters that `name` starts with, among its first
`length` characters, and what it stands for together with the rest of `name`. -/
def longestName? (name : List Char) : Nat → Option (List Char)
  | 0 | 1 => none
  | length + 2 =>
    match ofName? (name.take (length + 2)) with
    | some meaning => some (meaning ++ name.drop (length + 2))
    | none => longestName? name (length + 1)

/-- A reference by name. -/
def named? (text : List Char) : Option (Nat × List Char) :=
  match (text.take 32).takeWhile isNameCharacter with
  | [] => none
  | first :: others =>
    let length := others.length + 1
    let length := length + semicolonAt (text.drop length)
    let name := text.take length
    let meaning :=
      match ofName? name with
      | some meaning => meaning
      | none => (longestName? name (length - 1)).getD ('&' :: name)
    if first == '#' then none else some (length, meaning)

/-- How far the reference after an ampersand reaches, and what it stands for. -/
def at? (text : List Char) : Option (Nat × List Char) :=
  match text with
  | '#' :: 'x' :: digits | '#' :: 'X' :: digits => numbered? 16 2 digits
  | '#' :: digits => numbered? 10 1 digits
  | _ => named? text

/-- Replace references, where the first `read` characters belong to one that is already
replaced. -/
def decodeFrom : Nat → List Char → List Char
  | _, [] => []
  | read + 1, _ :: text => decodeFrom read text
  | 0, character :: text =>
    if character == '&' then
      match at? text with
      | some (length, meaning) => meaning ++ decodeFrom length text
      | none => character :: decodeFrom 0 text
    else character :: decodeFrom 0 text

/-- Replace every reference by what it stands for. -/
def decode (text : List Char) : List Char :=
  decodeFrom 0 text

end Phrasebook.Text.Reference
