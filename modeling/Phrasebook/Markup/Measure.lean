/-!
# Measures of prefixes

A measure says how many characters at the front of a text belong to a class
of lexemes, and `0` when none does.  Lexemes are cut off by their measure, so
nothing is lost whatever a measure answers.
-/

namespace Phrasebook.Markup

/-- The length of the lexeme at the front of a text, or `0` if there is none. -/
abbrev Measure := List Char → Nat

namespace Measure

/-- One character of a class. -/
def one (accepts : Char → Bool) : Measure
  | [] => 0
  | character :: _ => if accepts character then 1 else 0

/-- A fixed text. -/
def literal (word : List Char) : Measure := fun text =>
  if word.isPrefixOf text then word.length else 0

/-- The second lexeme directly after the first; both must be there. -/
def andThen (first second : Measure) : Measure := fun text =>
  match first text with
  | 0 => 0
  | length =>
    match second (text.drop length) with
    | 0 => 0
    | more => length + more

/-- The second lexeme, if there is one, directly after the first. -/
def andMaybe (first second : Measure) : Measure := fun text =>
  match first text with
  | 0 => 0
  | length => length + second (text.drop length)

/-- The longer of two lexemes. -/
def longer (first second : Measure) : Measure := fun text =>
  max (first text) (second text)

/-- As many lexemes of one class as follow each other, where the first `pending` characters are
already counted. -/
def runFrom (unit : Measure) : Nat → Measure
  | _, [] => 0
  | pending + 1, _ :: text => runFrom unit pending text + 1
  | 0, character :: text =>
    match unit (character :: text) with
    | 0 => 0
    | length + 1 => runFrom unit length text + 1

/-- As many lexemes of one class as follow each other. -/
def run (unit : Measure) : Measure :=
  runFrom unit 0

/-- Between `1` and `limit` characters of a class. -/
def upTo (limit : Nat) (accepts : Char → Bool) : Measure := fun text =>
  (text.take limit).takeWhile accepts |>.length

def exactly (count : Nat) (accepts : Char → Bool) : Measure := fun text =>
  if upTo count accepts text = count then count else 0

/-- At least one character of a class, with single underscores allowed in between. -/
def digits (accepts : Char → Bool) : Measure :=
  andMaybe (one accepts)
    (run (longer (one accepts) (andThen (one (· == '_')) (one accepts))))

/-- All characters of a class at the front. -/
def stretch (accepts : Char → Bool) : Measure := fun text =>
  (text.takeWhile accepts).length

/-- Lexemes of one class up to a delimiter and the delimiter itself, where the first `pending`
characters are already counted. -/
def closingFrom (delimiter : Char) (unit : Measure) : Nat → Measure
  | _, [] => 0
  | pending + 1, _ :: text =>
    match closingFrom delimiter unit pending text with
    | 0 => 0
    | length => length + 1
  | 0, character :: text =>
    if character == delimiter then 1
    else
      match unit (character :: text) with
      | 0 => 0
      | read + 1 =>
        match closingFrom delimiter unit read text with
        | 0 => 0
        | length => length + 1

/-- Lexemes of one class up to a delimiter, and the delimiter itself. -/
def closing (delimiter : Char) (unit : Measure) : Measure :=
  closingFrom delimiter unit 0

/-- A lexeme between two copies of a delimiter, which may be empty. -/
def delimited (delimiter : Char) (unit : Measure) : Measure :=
  andThen (one (· == delimiter)) (closing delimiter unit)

end Measure

end Phrasebook.Markup
