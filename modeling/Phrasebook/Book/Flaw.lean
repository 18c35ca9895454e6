import Phrasebook.Markup.Kind
import Phrasebook.Text.Quoted

/-!
# Flaws of books

What can keep the text of a book from being one, and what is said about it.
-/

namespace Phrasebook.Book

/-- What is wrong with the text of a book. -/
inductive Flaw where
  | notAScript
  | noExport
  | manyExports
  | trailingContent
  | notOneOf (expected : List Markup.Kind) (found? : Option Markup.Kind)
  | repeatedKey (key : String)
  | notTrue (name : String)
  | otherParameters
  | notPlace
  | notLineNumber
deriving DecidableEq, Repr

/-- What is said about a flaw. -/
def Flaw.reason : Flaw → String
  | notAScript => "syntax error"
  | noExport => "found no default export"
  | manyExports => "found multiple exports"
  | trailingContent => "unexpected content after the default export"
  | notOneOf expected found? =>
    "expected " ++ " or ".intercalate (expected.map Markup.Kind.title) ++ "; got " ++
      (found?.map Markup.Kind.title).getD "nothing"
  | repeatedKey key => "duplicate key " ++ Text.quoted key
  | notTrue name => "only 'true' is a valid value for " ++ name
  | otherParameters => "function param mismatch with earlier function; all must be identical"
  | notPlace => "ref not on <path>:<line> form"
  | notLineNumber => "invalid line number in ref"

/-- Why no book can be read from a text. -/
inductive ReadError where
  | corrupt (flaw : Flaw) (line? : Option Nat)
  /-- An escape in a text literal gives a number that no character has. -/
  | noCharacter
  /-- The digits of a line number do not write a number. -/
  | noNumber
deriving DecidableEq, Repr

/-- What is said about a flaw on a line of a file. -/
def corruptMessage (path? : Option String) (flaw : Flaw) (line? : Option Nat) : String :=
  let location := path?.getD "" ++ (line?.map fun line => ":" ++ Nat.repr line).getD ""
  let start := if location.isEmpty then "corrupt registry" else "corrupt registry " ++ location
  start ++ ": " ++ flaw.reason

end Phrasebook.Book
