import Phrasebook.Number.Shortest
import Phrasebook.Text.Quoted

/-!
# Values

What a settings file or a JSON document can hold, and how a value is quoted in
messages.
-/

namespace Phrasebook

/-- A value of a settings file or of a JSON document. -/
inductive Value where
  | null
  | truth (holds : Bool)
  | integer (number : Int)
  | decimal (number : Number.Double)
  | text (characters : String)
  | bytes (content : List UInt8)
  | list (items : List Value)
  | mapping (fields : List (Value × Value))
  /-- A value that no setting uses, such as a date, in its written form. -/
  | other (written : String)
deriving Repr, Inhabited

namespace Value

mutual

def written : Value → String
  | null => "None"
  | truth holds => if holds then "True" else "False"
  | integer number => toString number
  | decimal number => number.written
  | text characters => Text.quoted characters
  | bytes content => Text.quotedBytes content
  | list items => "[" ++ ", ".intercalate (writtenAll items) ++ "]"
  | mapping fields => "\x7b" ++ ", ".intercalate (writtenFields fields) ++ "\x7d"
  | other written => written

def writtenAll : List Value → List String
  | [] => []
  | item :: items => item.written :: writtenAll items

def writtenFields : List (Value × Value) → List String
  | [] => []
  | (key, value) :: fields => (key.written ++ ": " ++ value.written) :: writtenFields fields

end

def isText (name : String) : Value → Bool
  | text characters => characters == name
  | _ => false

def field? (value : Value) (name : String) : Option Value :=
  match value with
  | mapping fields => (fields.find? fun field => field.1.isText name).map (·.2)
  | _ => none

/-- Give a key of a mapping a value, in the place of the one it had or at the end. -/
def setField (isSame : Value → Bool) (key value : Value) :
    List (Value × Value) → List (Value × Value)
  | [] => [(key, value)]
  | field :: fields =>
    if isSame field.1 then (field.1, value) :: fields
    else field :: setField isSame key value fields

end Value

end Phrasebook
