/-!
# Positions in a document

A cursor stands in front of the rest of a YAML document and knows its line and
column, on which the layout of the document depends.
-/

namespace Phrasebook.Yaml

/-- Why a text is no document, or why a document has no value. -/
inductive Fault where
  | malformed
  /-- An escape or a date gives a number that is out of range, or digits write no number. -/
  | outOfRange
  /-- A number is written with a sign at most. -/
  | noDigits
  /-- A text is tagged as a truth value and is none. -/
  | noTruth
  /-- A text is tagged as a date and is none. -/
  | noDate
deriving DecidableEq, Repr

/-- The characters that end a line; carriage returns are gone from documents. -/
def isBreak (character : Char) : Bool :=
  character == '\n' || character == '\u0085' || character == '\u2028' || character == '\u2029'

/-- White space, a line end or the end of the document. -/
def isGapOrEnd : Option Char → Bool
  | none => true
  | some character => character == ' ' || character == '\t' || isBreak character

/-- A space, a line end or the end of the document. -/
def isSpaceOrEnd : Option Char → Bool
  | none => true
  | some character => character == ' ' || isBreak character

/-- A position in a document. -/
structure Cursor where
  rest : List Char
  index : Nat := 0
  line : Nat := 0
  column : Nat := 0
deriving Repr, Inhabited

namespace Cursor

def peek? (cursor : Cursor) (ahead : Nat) : Option Char :=
  cursor.rest[ahead]?

/-- Whether the next character is a given one. -/
def isAt (cursor : Cursor) (character : Char) : Bool :=
  cursor.rest.head? == some character

/-- The position after the next character. A byte order mark takes no column. -/
def next (cursor : Cursor) : Cursor :=
  match cursor.rest with
  | [] => cursor
  | character :: rest =>
    if isBreak character then ⟨rest, cursor.index + 1, cursor.line + 1, 0⟩
    else
      let width := if character == '\ufeff' then 0 else 1
      ⟨rest, cursor.index + 1, cursor.line, cursor.column + width⟩

/-- The position after a number of characters. -/
def skip : Nat → Cursor → Cursor
  | 0, cursor => cursor
  | count + 1, cursor => skip count cursor.next

/-- The longest run of characters of a class, and the position after it. -/
def span (accepts : Char → Bool) (cursor : Cursor) : List Char × Cursor :=
  let run := cursor.rest.takeWhile accepts
  (run, cursor.skip run.length)

def skipWhile (accepts : Char → Bool) (cursor : Cursor) : Cursor :=
  (cursor.span accepts).2

/-- The text that a line end in a scalar stands for: itself if it is a line or paragraph
separator, and else a line feed. -/
def breakText (character : Char) : Char :=
  if character == '\u2028' || character == '\u2029' then character else '\n'

/-- A line end here, and the position after it. -/
def lineBreak? (cursor : Cursor) : Option (Char × Cursor) :=
  match cursor.rest with
  | character :: _ => if isBreak character then some (breakText character, cursor.next) else none
  | [] => none

/-- The position after a comment here, at the end of its line. -/
def skipComment (cursor : Cursor) : Cursor :=
  if cursor.isAt '#' then cursor.skipWhile fun character => !isBreak character else cursor

/-- Whether three equal characters stand here, followed by a gap. -/
def isMark (cursor : Cursor) (character : Char) : Bool :=
  cursor.rest.take 3 == List.replicate 3 character && isGapOrEnd (cursor.peek? 3)

/-- Whether a line here starts or ends a document. -/
def isSeparator (cursor : Cursor) : Bool :=
  cursor.isMark '-' || cursor.isMark '.'

/-- The line ends of empty lines, whose characters are of a class, from here on. The flag says
whether a separator of documents stands at the start of a line. -/
def emptyLines (isSkipped : Char → Bool) : Nat → Cursor → List Char × Bool × Cursor
  | 0, cursor => ([], false, cursor)
  | fuel + 1, cursor =>
    let cursor := cursor.skipWhile isSkipped
    match cursor.lineBreak? with
    | none => ([], false, cursor)
    | some (character, cursor) =>
      if cursor.isSeparator then ([character], true, cursor)
      else
        let (others, isSeparated, cursor) := emptyLines isSkipped fuel cursor
        (character :: others, isSeparated, cursor)

/-- What a line end followed by empty lines stands for in a scalar whose lines are folded. -/
def folded (first : Char) (others : List Char) : List Char :=
  if first != '\n' then first :: others
  else if others.isEmpty then [' ']
  else others

end Cursor

end Phrasebook.Yaml
