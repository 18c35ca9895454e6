import Phrasebook.Text.Reference
import Phrasebook.Yaml.Cursor

/-!
# Scalars in documents

How the text of a scalar is written: plain, between quotes, or as a block of
indented lines.  In all but literal blocks lines are folded: a single line end
stands for a space.
-/

namespace Phrasebook.Yaml

/-- The text of a scalar, and the position after it. -/
structure Scalar where
  text : List Char
  cursor : Cursor
  /-- Whether the scalar ends at the start of a line, where a key may start. -/
  endsLine : Bool := false

/-! ## Plain scalars -/

/-- The characters that end a plain scalar inside brackets. -/
def isFlowEnd (character : Char) : Bool :=
  [',', '?', '[', ']', '\x7b', '\x7d'].contains character

/-- Whether a colon with a given character after it separates a key from its value. -/
def isSeparatingColon (inFlow : Bool) (next? : Option Char) : Bool :=
  isGapOrEnd next? ||
    (inFlow && next?.any fun next => [',', '[', ']', '\x7b', '\x7d'].contains next)

/-- The characters of a plain scalar up to the next gap. -/
def plainRun (inFlow : Bool) : List Char → List Char
  | [] => []
  | character :: text =>
    if isGapOrEnd (some character) ||
        (character == ':' && isSeparatingColon inFlow text.head?) ||
        (inFlow && isFlowEnd character) then []
    else character :: plainRun inFlow text

/-- What a gap inside a plain scalar stands for. Nothing ends the scalar. -/
def plainGap (cursor : Cursor) : Scalar :=
  let (spaces, after) := cursor.span (· == ' ')
  match after.lineBreak? with
  | none => ⟨spaces, after, false⟩
  | some (first, after) =>
    if after.isSeparator then ⟨[], after, true⟩
    else
      let (others, isSeparated, after) := after.emptyLines (· == ' ') after.rest.length
      ⟨if isSeparated then [] else Cursor.folded first others, after, true⟩

/-- Read a plain scalar that is indented at least as far as given. -/
def plainFrom (inFlow : Bool) (indent : Nat) : Nat → Cursor → Scalar
  | 0, cursor => ⟨[], cursor, false⟩
  | fuel + 1, cursor =>
    let run := if cursor.isAt '#' then [] else plainRun inFlow cursor.rest
    if run.isEmpty then ⟨[], cursor, false⟩
    else
      let gap := plainGap (cursor.skip run.length)
      let isOver := gap.text.isEmpty || gap.cursor.isAt '#' ||
        (!inFlow && gap.cursor.column < indent)
      if isOver then ⟨run, gap.cursor, gap.endsLine⟩
      else
        let rest := plainFrom inFlow indent fuel gap.cursor
        if rest.text.isEmpty then ⟨run, rest.cursor, gap.endsLine⟩
        else ⟨run ++ gap.text ++ rest.text, rest.cursor, rest.endsLine⟩

/-! ## Quoted scalars -/

def escapeLetters : List (Char × Char) :=
  [('0', '\x00'), ('a', '\x07'), ('b', '\x08'), ('t', '\t'), ('\t', '\t'), ('n', '\n'),
    ('v', '\x0b'), ('f', '\x0c'), ('r', '\r'), ('e', '\x1b'), (' ', ' '), ('"', '"'),
    ('\\', '\\'), ('/', '/'), ('N', '\u0085'), ('_', '\u00a0'), ('L', '\u2028'), ('P', '\u2029')]

/-- The escapes by number, with the number of their digits. -/
def escapeLengths : List (Char × Nat) :=
  [('x', 2), ('u', 4), ('U', 8)]

/-- What a gap inside quotes stands for. -/
def quotedGap (cursor : Cursor) : Except Fault (List Char × Cursor) :=
  let isBlank := fun (character : Char) => character == ' ' || character == '\t'
  let (spaces, after) := cursor.span isBlank
  match after.lineBreak? with
  | none => if after.rest.isEmpty then .error .malformed else .ok (spaces, after)
  | some (first, after) =>
    if after.isSeparator then .error .malformed
    else
      let (others, isSeparated, after) := after.emptyLines isBlank after.rest.length
      if isSeparated then .error .malformed else .ok (Cursor.folded first others, after)

/-- What an escape after its backslash stands for. -/
def escape (cursor : Cursor) : Except Fault (List Char × Cursor) :=
  match cursor.rest with
  | [] => .error .malformed
  | letter :: digits =>
    match escapeLetters.lookup letter, escapeLengths.lookup letter with
    | some character, _ => .ok ([character], cursor.next)
    | none, some length =>
      let (number, read) := Text.Reference.numberAt 16 0 (digits.take length)
      if read != length then .error .malformed
      else if 0x10FFFF < number then .error .outOfRange
      else .ok ([Char.ofNat number], cursor.skip (length + 1))
    | none, none =>
      match cursor.lineBreak? with
      | none => .error .malformed
      | some (_, after) =>
        if after.isSeparator then .error .malformed
        else
          let (others, isSeparated, after) :=
            after.emptyLines (fun character => character == ' ' || character == '\t')
              after.rest.length
          if isSeparated then .error .malformed else .ok (others, after)

/-- Read a scalar up to its closing quote. -/
def quotedFrom (quote : Char) : Nat → Cursor → Except Fault Scalar
  | 0, _ => .error .malformed
  | fuel + 1, cursor => do
    let put := fun (text : List Char) (after : Cursor) => do
      let rest ← quotedFrom quote fuel after
      return { rest with text := text ++ rest.text }
    match cursor.rest with
    | [] => .error .malformed
    | character :: text =>
      if character == quote then
        if quote == '\'' && text.head? == some quote then put [quote] (cursor.skip 2)
        else return ⟨[], cursor.next, false⟩
      else if character == '\\' && quote == '"' then
        let (meaning, after) ← escape cursor.next
        put meaning after
      else if isGapOrEnd (some character) then
        let (meaning, after) ← quotedGap cursor
        put meaning after
      else put [character] cursor.next

/-! ## Block scalars -/

/-- What happens to the line ends at the end of a block. -/
inductive Chomping where
  /-- All are dropped. -/
  | strip
  /-- The first is kept. -/
  | clip
  /-- All are kept. -/
  | keep
deriving DecidableEq, Repr

/-- The sign for what happens to line ends, if it stands here. -/
def chompingAt (cursor : Cursor) : Option Chomping × Cursor :=
  if cursor.isAt '+' then (some .keep, cursor.next)
  else if cursor.isAt '-' then (some .strip, cursor.next)
  else (none, cursor)

/-- The digit for the indentation, if it stands here. -/
def incrementAt (cursor : Cursor) : Except Fault (Option Nat × Cursor) :=
  match cursor.rest.head? with
  | some character =>
    if character == '0' then .error .malformed
    else if character.isDigit then .ok (some (character.toNat - 0x30), cursor.next)
    else .ok (none, cursor)
  | none => .ok (none, cursor)

/-- The position after the rest of a line that holds at most a comment. -/
def skipRestOfLine (cursor : Cursor) : Except Fault Cursor :=
  let cursor := (cursor.skipWhile (· == ' ')).skipComment
  match cursor.lineBreak? with
  | some (_, after) => .ok after
  | none => if cursor.rest.isEmpty then .ok cursor else .error .malformed

/-- The signs after the start of a block. -/
def blockSigns (cursor : Cursor) : Except Fault (Chomping × Option Nat × Cursor) := do
  let (before?, cursor) := chompingAt cursor
  let (increment?, cursor) ← incrementAt cursor
  let (after?, cursor) :=
    if before?.isNone && increment?.isSome then chompingAt cursor else (none, cursor)
  if !isSpaceOrEnd cursor.rest.head? then throw .malformed
  return ((before?.or after?).getD .clip, increment?, cursor)

/-- The empty lines at the start of a block, and the largest indentation among them. -/
def leadingLines : Nat → Cursor → List Char × Nat × Cursor
  | 0, cursor => ([], 0, cursor)
  | fuel + 1, cursor =>
    let cursor := cursor.skipWhile (· == ' ')
    match cursor.lineBreak? with
    | none => ([], cursor.column, cursor)
    | some (character, after) =>
      let (others, indent, after) := leadingLines fuel after
      (character :: others, max cursor.column indent, after)

/-- The position after the spaces of an indentation. -/
def skipIndent (indent : Nat) (cursor : Cursor) : Cursor :=
  let spaces := (cursor.rest.takeWhile (· == ' ')).length
  cursor.skip (min spaces (indent - cursor.column))

/-- The empty lines inside a block with a given indentation. -/
def innerLines (indent : Nat) : Nat → Cursor → List Char × Cursor
  | 0, cursor => ([], cursor)
  | fuel + 1, cursor =>
    let cursor := skipIndent indent cursor
    match cursor.lineBreak? with
    | none => ([], cursor)
    | some (character, after) =>
      let (others, after) := innerLines indent fuel after
      (character :: others, after)

def startsLine (indent : Nat) (cursor : Cursor) : Bool :=
  cursor.column == indent && !cursor.rest.isEmpty

/-- Whether a line starts with white space, so that its line end is not folded. -/
def isIndented (cursor : Cursor) : Bool :=
  cursor.isAt ' ' || cursor.isAt '\t'

/-- Read the lines of a block after some empty ones. -/
def blockLines (isFolded : Bool) (chomping : Chomping) (indent : Nat) (empty : List Char) :
    Nat → Cursor → Scalar
  | 0, cursor => ⟨[], cursor, true⟩
  | fuel + 1, cursor =>
    if !startsLine indent cursor then
      ⟨if chomping == .keep then empty else [], cursor, true⟩
    else
      let (line, after) := cursor.span fun character => !isBreak character
      let (ending, after) :=
        match after.lineBreak? with
        | some (character, after) => ([character], after)
        | none => ([], after)
      let (between, after) := innerLines indent after.rest.length after
      if startsLine indent after then
        let isJoined := isFolded && ending == ['\n'] && !isIndented cursor && !isIndented after
        let joint := if isJoined then (if between.isEmpty then [' '] else []) else ending
        let rest := blockLines isFolded chomping indent between fuel after
        { rest with text := empty ++ line ++ joint ++ rest.text }
      else
        let tail :=
          match chomping with
          | .strip => []
          | .clip => ending
          | .keep => ending ++ between
        ⟨empty ++ line ++ tail, after, true⟩

/-- Read a block whose sign is already read, inside a collection with a given indentation. -/
def block (isFolded : Bool) (outer : Int) (cursor : Cursor) : Except Fault Scalar := do
  let (chomping, increment?, cursor) ← blockSigns cursor
  let cursor ← skipRestOfLine cursor
  let least := max 1 (outer + 1).toNat
  match increment? with
  | some increment =>
    let indent := least + increment - 1
    let (empty, after) := innerLines indent cursor.rest.length cursor
    return blockLines isFolded chomping indent empty (after.rest.length + 1) after
  | none =>
    let (empty, widest, after) := leadingLines cursor.rest.length cursor
    return blockLines isFolded chomping (max least widest) empty (after.rest.length + 1) after

end Phrasebook.Yaml
