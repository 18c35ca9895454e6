import Phrasebook.Book.Position
import Phrasebook.Phrase.Basic

/-!
# Bringing books up to date

`Book.update` makes a book agree with the phrases that were found in the
sources: every key has an entry, every entry lists the places of its phrases,
and entries without places are marked as deleted.
-/

namespace Phrasebook.Book

/-- How a book is brought up to date. -/
structure UpdateOptions where
  /-- The languages that a new entry has renderings for. -/
  languages : List String := ["en"]
  /-- Whether new entries go to the end. -/
  append : Bool := false
  indent : String := "\t"
  /-- Whether flags of entries stay as they are. -/
  keepsFlags : Bool := false
  /-- The tag around phrases. -/
  marker : String := "O"
deriving Repr

/-- The phrases that were found in each scanned file. -/
abbrev Observed := List (String × List Phrase)

/-- A book after an update, and what the update did. -/
structure Updated where
  book : Book
  added : List String := []
  deleted : List String := []
  restored : List String := []
  /-- Where each entry that was not appended went. -/
  positions : List (String × Nat) := []
deriving Repr, Inhabited

/-- The observed phrases in the order of the paths, each with its place. -/
def observations (observed : Observed) : List (Phrase × Place) :=
  (observed.mergeSort fun left right => decide (left.1 ≤ right.1)).flatMap fun (path, phrases) =>
    phrases.map fun phrase => (phrase, ⟨path, phrase.place.line⟩)

def observedPlaces (observations : List (Phrase × Place)) (key : String) : List Place :=
  (observations.filter fun (phrase, _) => phrase.key == key).map (·.2)

/-- The first phrase for every observed key that is not among the known ones. -/
def newPhrases (known : List String) : List (Phrase × Place) → List Phrase
  | [] => []
  | (phrase, _) :: others =>
    if known.contains phrase.key then newPhrases known others
    else phrase :: newPhrases (phrase.key :: known) others

/-- The body of the function for a phrase that takes several lines. -/
def blockBody (indent marker : String) (lines : List String) : String :=
  let last := lines.getLast?.getD ""
  let first := lines.dropLast.head?.getD ""
  let middle := lines.dropLast.drop 1
  let tab2 := indent ++ indent
  let tab3 := tab2 ++ indent
  let tab4 := tab3 ++ indent
  "\x7b\n" ++ tab3 ++ "return (\n" ++
    tab4 ++ "<" ++ marker ++ ">" ++ first ++ "\n" ++
    String.join (middle.map fun line => tab4 ++ line ++ "\n") ++
    tab4 ++ last ++ "</" ++ marker ++ ">\n" ++
    tab3 ++ ");\n" ++
    tab2 ++ "\x7d"

/-- The rendering that shows a phrase as it stands in the source. -/
def draftRendering (options : UpdateOptions) (phrase : Phrase) (language : String) : Rendering :=
  if phrase.isMultiline then
    { language, form := .block, body := blockBody options.indent options.marker phrase.lines }
  else
    { language, form := .expression,
      body := "<" ++ options.marker ++ ">" ++ phrase.body ++ "</" ++ options.marker ++ ">" }

/-- The entry for a phrase whose key is not in the book. -/
def newEntry (options : UpdateOptions) (phrase : Phrase) (places : List Place) : Entry where
  key := phrase.key
  dependencies := phrase.dependencies
  context := phrase.context
  isNew := true
  places
  renderings := options.languages.map (draftRendering options phrase)

def currentPlaces (exists? : String → Bool) (observed : Observed)
    (observations : List (Phrase × Place)) (entry : Entry) : List Place :=
  let kept := entry.places.filter fun place =>
    !(observed.map (·.1)).contains place.path && exists? place.path
  sortedPlaces (kept ++ observedPlaces observations entry.key)

/-- An entry with the given places and the flag that they call for. -/
def withPlaces (keepsFlags : Bool) (entry : Entry) (places : List Place) : Entry :=
  if keepsFlags then { entry with places } else { entry with places, isDeleted := places.isEmpty }

def insertEntry (append : Bool) (updated : Updated) (entry : Entry) : Updated :=
  let entries := updated.book.entries
  let added := updated.added ++ [entry.key]
  if append then
    { updated with book := { updated.book with entries := entries ++ [entry] }, added }
  else
    let position :=
      match entry.places with
      | [] => 0
      | place :: _ => positionFor (entries.map (·.places)) place
    { updated with
      book := { updated.book with entries := entries.insertIdx position entry }
      added
      positions := updated.positions ++ [(entry.key, position)] }

/-- Bring a book up to date with what was observed. -/
def update (book : Book) (observed : Observed) (options : UpdateOptions)
    (exists? : String → Bool) : Updated :=
  let observations := observations observed
  let entries := book.entries.map fun entry =>
    withPlaces options.keepsFlags entry (currentPlaces exists? observed observations entry)
  let changed := book.entries.zip entries
  let start : Updated := {
    book := { book with entries }
    deleted := (changed.filter fun (old, new) => !old.isDeleted && new.isDeleted).map (·.1.key)
    restored := (changed.filter fun (old, new) => old.isDeleted && !new.isDeleted).map (·.1.key) }
  (newPhrases book.keys observations).foldl
    (fun updated phrase =>
      insertEntry options.append updated
        (newEntry options phrase (sortedPlaces (observedPlaces observations phrase.key))))
    start

end Phrasebook.Book
