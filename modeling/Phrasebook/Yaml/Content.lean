import Phrasebook.Number.Numeral
import Phrasebook.Text.Base64
import Phrasebook.Text.Lowercase
import Phrasebook.Value
import Phrasebook.Yaml.Date
import Phrasebook.Yaml.Node

/-!
# Values of nodes

The tag of a node says how its text or its parts make a value.  A mapping may
merge others into it; its own fields stand behind theirs and win.
-/

namespace Phrasebook.Yaml

open Number (Double)

/-- Drop the underscores of a numeral. -/
def dropGaps (text : List Char) : List Char :=
  text.filter (· != '_')

/-- The value of digits in groups of base sixty. -/
def ofSixtieths (digits : List Int) : Int :=
  digits.foldl (fun value digit => value * 60 + digit) 0

/-- The whole number that a scalar writes. -/
def integerOf (text : List Char) : Except Fault Int := do
  let text := dropGaps text
  if text.isEmpty then throw .noDigits
  let (isNegative, digits) := Number.splitSign text
  let number? ←
    match digits with
    | [] => throw .noDigits
    | ['0'] => pure (some 0)
    | '0' :: 'b' :: digits => pure (Number.integerOf? 2 digits)
    | '0' :: 'x' :: digits => pure (Number.integerOf? 16 digits)
    | '0' :: _ => pure (Number.integerOf? 8 digits)
    | _ =>
      if digits.contains ':' then
        pure (((digits.splitOn ':').mapM (Number.integerOf? 10)).map ofSixtieths)
      else pure (Number.integerOf? 10 digits)
  match number? with
  | some number => return if isNegative then -number else number
  | none => throw .outOfRange

/-- The value of decimals in groups of base sixty, added up from the last. -/
def ofDecimalSixtieths (parts : List Double) : Double :=
  (parts.reverse.foldl
    (fun (sum, weight) part => (sum.plus (part.times weight), weight * 60))
    (Double.finite false 0 Double.smallestExponent, 1)).1

/-- The decimal that a scalar writes. -/
def decimalOf (text : List Char) : Except Fault Double := do
  let text := (dropGaps text).map Char.toLower
  if text.isEmpty then throw .noDigits
  let (isNegative, digits) := Number.splitSign text
  let number? :=
    if digits == ".inf".toList then some (.infinite false)
    else if digits == ".nan".toList then some .undefined
    else if digits.contains ':' then
      ((digits.splitOn ':').mapM Double.ofText?).map ofDecimalSixtieths
    else Double.ofText? digits
  match number? with
  | some number => return if isNegative then number.negate else number
  | none => throw .outOfRange

/-- The truth value that a scalar writes. -/
def truthOf (text : List Char) : Except Fault Bool :=
  let word := Text.lower (String.ofList text)
  if ["yes", "true", "on"].contains word then .ok true
  else if ["no", "false", "off"].contains word then .ok false
  else .error .noTruth

def scalarValue (tag : Tag) (text : List Char) : Except Fault Value :=
  match tag with
  | .null => .ok .null
  | .truth => (truthOf text).map .truth
  | .integer => (integerOf text).map .integer
  | .decimal => (decimalOf text).map .decimal
  | .date => (Date.ofText text).map fun date => .other date.written
  | .text => .ok (.text (String.ofList text))
  | .binary =>
    match if text.all fun character => character.toNat < 0x80 then Text.Base64.decode text else none
    with
    | some bytes => .ok (.bytes bytes)
    | none => .error .malformed
  | _ => .error .malformed

/-- The number that a value is equal to; truth values are equal to zero and one. -/
def numberOf? : Value → Option (Int ⊕ Double)
  | .truth holds => some (.inl (if holds then 1 else 0))
  | .integer number => some (.inl number)
  | .decimal number => some (match number.toInt? with
    | some whole => .inl whole
    | none => .inr number)
  | _ => none

/-- Whether two values are the same key. -/
def isSameKey (first second : Value) : Bool :=
  match numberOf? first, numberOf? second with
  | some number, some otherNumber => number == otherNumber && number != .inr .undefined
  | none, none =>
    match first, second with
    | .null, .null => true
    | .text characters, .text otherCharacters => characters == otherCharacters
    | .bytes content, .bytes otherContent => content == otherContent
    | .other written, .other otherWritten => written == otherWritten
    | _, _ => false
  | _, _ => false

/-- The mapping that fields make: a key keeps its first place and its last value. -/
def mappingOf (fields : List (Value × Value)) : List (Value × Value) :=
  fields.foldl (fun done field => Value.setField (isSameKey field.1) field.1 field.2 done) []

namespace Node

def tag : Node → Tag
  | scalar tag _ => tag
  | sequence tag _ => tag
  | mapping tag _ => tag
  | loop => .unknown

/-- Whether a node can have a value that is a key. -/
def isKey (node : Node) : Bool :=
  match node with
  | scalar _ _ => true
  | loop => false
  | _ => !([Tag.list, .mapping, .set, .pairs].contains node.tag)

mutual

/-- The text of a node; a mapping has the text of its default value. -/
def text? : Node → Option (List Char)
  | scalar _ text => some text
  | sequence _ _ => none
  | mapping _ fields => defaultText? fields
  | loop => none

def defaultText? : List (Node × Node) → Option (List Char)
  | [] => none
  | (key, value) :: fields => if key.tag == .default then text? value else defaultText? fields

end

mutual

def value : Node → Except Fault Value
  | scalar tag text => scalarValue tag text
  | sequence tag items =>
    match tag with
    | .list => do return .list (← values items)
    | .pairs => do return .other ("[" ++ ", ".intercalate (← pairTexts items) ++ "]")
    | _ => .error .malformed
  | mapping tag fields =>
    match tag with
    | .mapping => do
      let (merged, own) ← fieldValues fields
      return .mapping (mappingOf (merged ++ own))
    | .set => do
      let (merged, own) ← fieldValues fields
      let keys := (mappingOf (merged ++ own)).map (·.1.written)
      return .other
        (if keys.isEmpty then "set()" else "\x7b" ++ ", ".intercalate keys ++ "\x7d")
    | _ =>
      match defaultText? fields with
      | some text => scalarValue tag text
      | none => .error .malformed
  | loop => .ok (.other "[...]")

def values : List Node → Except Fault (List Value)
  | [] => .ok []
  | item :: items => do return (← item.value) :: (← values items)

/-- The fields that are merged into a mapping, and its own fields. -/
def fieldValues :
    List (Node × Node) → Except Fault (List (Value × Value) × List (Value × Value))
  | [] => .ok ([], [])
  | (key, value) :: fields => do
    if key.tag == .merge then
      let first ← mergedFields value
      let (merged, own) ← fieldValues fields
      return (first ++ merged, own)
    else
      let name ←
        if key.tag == .default then
          match text? key with
          | some text => pure (Value.text (String.ofList text))
          | none => throw .malformed
        else if key.isKey then key.value
        else throw .malformed
      let content ← value.value
      let (merged, own) ← fieldValues fields
      return (merged, (name, content) :: own)

/-- The fields that a mapping, or each mapping of a sequence from the last, gives to another. -/
def mergedFields : Node → Except Fault (List (Value × Value))
  | mapping _ fields => do
    let (merged, own) ← fieldValues fields
    return merged ++ own
  | sequence _ items => mergedItems items
  | scalar _ _ => .error .malformed
  | loop => .ok []

def mergedItems : List Node → Except Fault (List (Value × Value))
  | [] => .ok []
  | mapping _ fields :: items => do
    let (merged, own) ← fieldValues fields
    return (← mergedItems items) ++ merged ++ own
  | _ :: _ => .error .malformed

/-- The written forms of mappings with one field each. -/
def pairTexts : List Node → Except Fault (List String)
  | [] => .ok []
  | mapping _ [(key, value)] :: items => do
    let name ← key.value
    let content ← value.value
    return ("(" ++ name.written ++ ", " ++ content.written ++ ")") :: (← pairTexts items)
  | _ :: _ => .error .malformed

end

end Node

/-- The value of a document; a document that holds nothing has none. -/
def read (text : String) : Except Fault (Option Value) := do
  match ← Node.ofText text.toList with
  | some node => return some (← node.value)
  | none => return none

end Phrasebook.Yaml
