import Phrasebook.Phrase.Key
import Phrasebook.Place

/-!
# Phrases

A phrase is a piece of a source that is marked to be shown in other languages.
-/

namespace Phrasebook

/-- A piece of a source that is marked to be shown in other languages. -/
structure Phrase where
  key : String
  signature : String
  /-- The source text between the two tags. -/
  body : String
  context : String
  dependencies : List String
  /-- Whether the element ends on a later line than it starts. -/
  isMultiline : Bool
  /-- The lines of the body without the indentation of the element. -/
  lines : List String
  place : Place
  /-- The number of bytes before the element. -/
  start : Nat
  /-- The number of bytes up to the end of the element. -/
  stop : Nat
  /-- The source text of the attribute that keys the element among its neighbours. -/
  keyAttribute? : Option String
deriving DecidableEq, Repr, Inhabited

end Phrasebook
