import Phrasebook.Place
import Phrasebook.Text.Half

/-!
# Books of phrases

A book lists the phrases of a project by their keys.  An entry has one
rendering for each language: a function that gives the phrase in this language
when it is handed what the phrase depends on.
-/

namespace Phrasebook

/-- The two forms of the body of a function. -/
inductive Form where
  | expression
  | block
deriving DecidableEq, Repr, Inhabited

/-- A phrase in one language. -/
structure Rendering where
  language : String
  form : Form := .expression
  /-- The source text of the body of the function. -/
  body : String
  /-- The markup that may take the place of the phrase, if the function has such markup. -/
  markup? : Option String := none
  line? : Option Nat := none
deriving DecidableEq, Repr, Inhabited

/-- What a book says about the phrases with one key. -/
structure Entry where
  key : String
  /-- The names of the parameters of every rendering. -/
  dependencies : List String := []
  context : String := ""
  /-- Whether the renderings still have to be written. -/
  isNew : Bool := false
  /-- Whether the phrase is gone from the sources. -/
  isDeleted : Bool := false
  places : List Place := []
  /-- The source texts of notes, which are kept as they are. -/
  notes : List String := []
  renderings : List Rendering := []
  line? : Option Nat := none
deriving DecidableEq, Repr, Inhabited

/-- The phrases of a project. -/
structure Book where
  /-- The source text before the list of entries. -/
  preamble : String
  entries : List Entry := []
  path? : Option String := none
  /-- Whether characters for private use in names and contexts stand for halves of surrogate
  pairs. -/
  holdsHalves : Bool := false
deriving DecidableEq, Repr, Inhabited

/-- The first rendering in a language. -/
def Entry.rendering? (entry : Entry) (language : String) : Option Rendering :=
  entry.renderings.find? (·.language == language)

/-- The rendering in the first of some languages that has one. -/
def Entry.firstRendering? (entry : Entry) (languages : List String) : Option Rendering :=
  languages.findSome? entry.rendering?

namespace Book

def keys (book : Book) : List String :=
  book.entries.map (·.key)

def entry? (book : Book) (key : String) : Option Entry :=
  book.entries.find? (·.key == key)

def rendering? (book : Book) (key language : String) : Option Rendering :=
  (book.entry? key).bind fun entry => entry.rendering? language

/-- Whether markup may take the place of a phrase. -/
def hasMarkup (book : Book) (key language : String) : Bool :=
  (book.rendering? key language).any (·.markup?.isSome)

/-- Whether a text that was written from a book has bytes: halves of surrogate pairs have none. -/
def canEncode (book : Book) (text : String) : Bool :=
  !(book.holdsHalves && text.toList.any Text.standsForHalf)

/-- The places of every key. -/
def placesByKey (book : Book) : List (String × List Place) :=
  book.entries.map fun entry => (entry.key, entry.places)

end Book

end Phrasebook
