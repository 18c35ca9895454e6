import Phrasebook.Book.Basic
import Phrasebook.Json.Reader
import Phrasebook.Json.Writer
import Phrasebook.Text.Digit

/-!
# Stores of places

The places of phrases change with almost every edit of a source, so they are
kept beside the book, in a JSON document of their own.
-/

namespace Phrasebook

/-- The places of every key, and whether they differ from those in the file. -/
structure PlaceStore where
  places : List (String × List Place) := []
  isChanged : Bool := false
deriving Repr, Inhabited

namespace PlaceStore

/-- Why no places can be read from a file. -/
inductive Fault where
  | unreadable
  | unknownLayout
  | noMapping
  | notList (key : String)
  | notPlace (value : Value) (key : String)
  /-- The digits of a line number do not write a number. -/
  | noNumber
deriving Repr

/-- What is said about a fault of a file. -/
def Fault.message (path : String) : Fault → String
  | unreadable => "Unreadable reference store " ++ path
  | unknownLayout => "Reference store " ++ path ++ " has an unknown layout"
  | noMapping => "Reference store " ++ path ++ " has no refs mapping"
  | notList key =>
    "Reference store " ++ path ++ ": refs for " ++ Text.quoted key ++ " are not a list"
  | notPlace value key =>
    "Reference store " ++ path ++ ": invalid ref " ++ value.written ++ " for " ++ Text.quoted key
  | noNumber => "Reference store " ++ path ++ ": line number without a value"

def layoutVersion : Nat :=
  1

def isLayoutVersion : Value → Bool
  | .integer number => number == layoutVersion
  | .truth holds => holds
  | .decimal number => number.toInt? == some layoutVersion
  | _ => false

def placeOf (key : String) (value : Value) : Except Fault Place :=
  match value with
  | .text text =>
    match splitLastColon text.toList with
    | none => .error (.notPlace value key)
    | some (path, line) =>
      if path.isEmpty || line.isEmpty || !line.all Text.isDigit then .error (.notPlace value key)
      else
        match Text.natOfDigits? 0 line with
        | some number => .ok ⟨String.ofList path, number⟩
        | none => .error .noNumber
  | _ => .error (.notPlace value key)

def placesOf (key value : Value) : Except Fault (String × List Place) :=
  let name :=
    match key with
    | .text name => name
    | _ => key.written
  match value with
  | .list items => (items.mapM (placeOf name)).map fun places => (name, sortedPlaces places)
  | _ => .error (.notList name)

def ofValue (document : Value) : Except Fault PlaceStore :=
  if !(document.field? "version").any isLayoutVersion then .error .unknownLayout
  else
    match document.field? "refs" with
    | some (.mapping entries) =>
      (entries.mapM fun (key, value) => placesOf key value).map fun places => ⟨places, false⟩
    | _ => .error .noMapping

def read (text : String) : Except Fault PlaceStore :=
  match Json.read? text.length text with
  | some document => ofValue document
  | none => .error .unreadable

def get (store : PlaceStore) (key : String) : List Place :=
  (store.places.lookup key).getD []

/-- The keys in order. -/
def keys (store : PlaceStore) : List String :=
  sortedTexts (store.places.map (·.1))

/-- Whether two lists give the same places to the same keys. -/
def sameMapping (left right : List (String × List Place)) : Bool :=
  left.length == right.length &&
    left.all fun (key, places) => right.lookup key == some places

/-- Put other places into a store. -/
def replace (store : PlaceStore) (places : List (String × List Place)) : PlaceStore :=
  let updated := places.map fun (key, list) => (key, sortedPlaces list)
  if sameMapping updated store.places then store else ⟨updated, true⟩

/-- The document for the file. -/
def toValue (store : PlaceStore) : Value :=
  let sorted := store.keys.map fun key =>
    (Value.text key, Value.list ((store.get key).map fun place => .text place.toString))
  .mapping [(.text "refs", .mapping sorted), (.text "version", .integer layoutVersion)]

/-- The text of the file. -/
def render (store : PlaceStore) : String :=
  Json.write true store.toValue ++ "\n"

/-- Give an entry the stored places of its key as well. -/
def addTo (store : PlaceStore) (entry : Entry) : Entry :=
  match store.get entry.key with
  | [] => entry
  | stored => { entry with places := sortedPlaces (entry.places ++ stored) }

/-- Give all entries of a book the stored places as well. -/
def addToBook (store : PlaceStore) (book : Book) : Book :=
  { book with entries := book.entries.map store.addTo }

end PlaceStore

end Phrasebook
