import Phrasebook.Book.Basic

/-!
# Where a new entry goes

A new entry goes next to the entries whose phrases stand near its own in the
sources, so that the order of a book follows the order of the sources.
-/

namespace Phrasebook.Book

/-- The places of entries, each with the position of its entry. -/
def numberedPlaces (position : Nat) : List (List Place) → List (Nat × Place)
  | [] => []
  | places :: others =>
    places.map (fun place => (position, place)) ++ numberedPlaces (position + 1) others

/-- The first of the best values of a list. -/
def firstBest? {α : Type} (isBetter : α → α → Bool) (values : List α) : Option α :=
  values.foldl
    (fun best? value =>
      match best? with
      | none => some value
      | some best => if isBetter value best then some value else best?)
    none

/-- The position for an entry with a place, given the places of the other entries: after the
closest place before it in the same file; else before the first place in the same file; else
after the last place in the closest file before it; else at the front. -/
def positionFor (entries : List (List Place)) (place : Place) : Nat :=
  let numbered := numberedPlaces 0 entries
  let inFile := numbered.filter fun (_, other) => other.path == place.path
  let earlier := inFile.filter fun (_, other) => other.line < place.line
  let inEarlierFiles := numbered.filter fun (_, other) => other.path < place.path
  match firstBest? (fun left right => right.2.line < left.2.line) earlier with
  | some (position, _) => position + 1
  | none =>
    match firstBest? (fun left right => left.2.line < right.2.line) inFile with
    | some (position, _) => position
    | none =>
      match firstBest? (fun left right => right.2.isUpTo left.2) inEarlierFiles with
      | some (position, _) => position + 1
      | none => 0

end Phrasebook.Book
