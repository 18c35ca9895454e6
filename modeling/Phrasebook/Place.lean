/-!
# Places

A place is a line of a file.  Places are ordered by path and then by line, and
written as `path:line`.
-/

namespace Phrasebook

/-- A line of a file. -/
structure Place where
  path : String
  line : Nat
deriving DecidableEq, Repr, Inhabited

namespace Place

/-- Whether one place comes before another. -/
def isBefore (left right : Place) : Bool :=
  if left.path == right.path then left.line < right.line else left.path < right.path

/-- Whether one place is another or comes before it. -/
def isUpTo (left right : Place) : Bool :=
  !right.isBefore left

/-- The written form of a place. -/
def toString (place : Place) : String :=
  place.path ++ ":" ++ (Nat.repr place.line)

end Place

/-- The part of a text before its last colon and the part after it. -/
def splitLastColon (text : List Char) : Option (List Char × List Char) :=
  match text.reverse.span (· != ':') with
  | (_, []) => none
  | (after, _ :: before) => some (before.reverse, after.reverse)

def insertSorted {α : Type} (isBefore : α → α → Bool) (value : α) : List α → List α
  | [] => [value]
  | first :: rest =>
    if isBefore value first then value :: first :: rest
    else if isBefore first value then first :: insertSorted isBefore value rest
    else first :: rest

/-- The values of a list, sorted and each once. -/
def sortedSet {α : Type} (isBefore : α → α → Bool) (values : List α) : List α :=
  values.foldl (fun sorted value => insertSorted isBefore value sorted) []

/-- Texts in the order of their code points, each once. -/
def sortedTexts (texts : List String) : List String :=
  sortedSet (fun left right => decide (left < right)) texts

/-- Places in their order, each once. -/
def sortedPlaces (places : List Place) : List Place :=
  sortedSet Place.isBefore places

end Phrasebook
