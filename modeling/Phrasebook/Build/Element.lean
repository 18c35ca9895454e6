import Phrasebook.Book.Basic
import Phrasebook.Phrase.Basic
import Phrasebook.Text.Quoted

/-!
# Elements in built sources

A built source holds an element in the place of every phrase.  The element
either refers to the phrase by its key, with what the phrase depends on, or
holds the markup of a rendering.
-/

namespace Phrasebook.Build

/-- No language has a rendering of a key. -/
structure Miss where
  key : String
  languages : List String
  place? : Option Place := none
deriving DecidableEq, Repr

def Miss.message (miss : Miss) : String :=
  let text := "translation not found: lookup(" ++ Text.quoted miss.key ++ ", " ++
    Text.quotedList miss.languages ++ ") failed"
  match miss.place? with
  | some place => "at " ++ place.toString ++ ": " ++ text
  | none => text

/-- An element in the place of a phrase. -/
structure Element where
  tag : String
  attributes : List String := []
  /-- The text between the tags; an element without it closes itself. -/
  children? : Option String := none
deriving DecidableEq, Repr

def Element.text (element : Element) : String :=
  let opening := element.tag ++ String.join (element.attributes.map (" " ++ ·))
  match element.children? with
  | none => "<" ++ opening ++ "/>"
  | some children => "<" ++ opening ++ ">" ++ children ++ "</" ++ element.tag ++ ">"

/-- The attributes that refer to a phrase. -/
def reference (phrase : Phrase) : List String :=
  ["k=\"" ++ phrase.key ++ "\"",
    "deps=\x7b[" ++ ", ".intercalate phrase.dependencies ++ "]\x7d"]

/-- The element that refers to a phrase, which a program looks up when it runs. -/
def referring (tag : String) (keepsChildren : Bool) (phrase : Phrase) : Element where
  tag
  attributes := reference phrase ++ phrase.keyAttribute?.toList
  children? := if keepsChildren then some phrase.body else none

/-- The element for a phrase in the first of some languages that has a rendering of it. -/
def rendered (tag : String) (book : Book) (languages : List String) (phrase : Phrase) :
    Except Miss Element :=
  match languages.findSome? fun language => book.rendering? phrase.key language with
  | none => .error ⟨phrase.key, languages, some phrase.place⟩
  | some rendering =>
    match rendering.markup? with
    | some markup => .ok ⟨tag, phrase.keyAttribute?.toList, some markup⟩
    | none => .ok ⟨tag, reference phrase ++ phrase.keyAttribute?.toList, some ""⟩

end Phrasebook.Build
