import Phrasebook.Json.Literal
import Phrasebook.Value

/-!
# Writing JSON

`Json.write` lays a document out with every item and every field on a line of
its own.
-/

namespace Phrasebook.Json

def newLine (depth : Nat) : List Char :=
  '\n' :: List.replicate (2 * depth) ' '

/-- The pieces of a list or object at a depth, each on a line of its own. -/
def layOut (opening closing : Char) (depth : Nat) (pieces : List (List Char)) : List Char :=
  match pieces with
  | [] => [opening, closing]
  | _ =>
    opening :: (newLine (depth + 1) ++ (",".toList ++ newLine (depth + 1)).intercalate pieces ++
      newLine depth ++ [closing])

mutual

def writeAt (isAscii : Bool) (depth : Nat) : Value → List Char
  | .null => "null".toList
  | .truth holds => (if holds then "true" else "false").toList
  | .integer number => (toString number).toList
  | .decimal number => number.written.toList
  | .text characters => literal isAscii characters
  | .list items => layOut '[' ']' depth (writeItems isAscii (depth + 1) items)
  | .mapping fields => layOut '\x7b' '\x7d' depth (writeFields isAscii (depth + 1) fields)
  | .bytes content => literal isAscii (Text.quotedBytes content)
  | .other written => literal isAscii written

def writeItems (isAscii : Bool) (depth : Nat) : List Value → List (List Char)
  | [] => []
  | item :: items => writeAt isAscii depth item :: writeItems isAscii depth items

def writeFields (isAscii : Bool) (depth : Nat) : List (Value × Value) → List (List Char)
  | [] => []
  | (key, value) :: fields =>
    (writeAt isAscii depth key ++ ": ".toList ++ writeAt isAscii depth value) ::
      writeFields isAscii depth fields

end

def write (isAscii : Bool) (document : Value) : String :=
  String.ofList (writeAt isAscii 0 document)

end Phrasebook.Json
