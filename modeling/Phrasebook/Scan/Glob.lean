/-!
# Patterns of names

In a pattern a star stands for any text, a question mark for any character, and
characters in brackets for one of them.  Brackets may hold ranges, and an
exclamation mark behind the opening one means any character but theirs.
-/

namespace Phrasebook.Scan

/-- A part of a pattern. -/
inductive Piece where
  | one (character : Char)
  | any
  | many
  | among (isNegated : Bool) (ranges : List (Char × Char))
deriving DecidableEq, Repr

namespace Piece

/-- Whether a part that stands for one character stands for a given one. -/
def accepts (piece : Piece) (character : Char) : Bool :=
  match piece with
  | one expected => character == expected
  | any => true
  | many => false
  | among isNegated ranges =>
    isNegated != ranges.any fun range => range.1 ≤ character && character ≤ range.2

end Piece

/-! ## Characters in brackets -/

/-- The text in brackets and the text behind them, after the opening bracket. A closing bracket at
the start of the text belongs to it. -/
def bracketed? (text : List Char) : Option (List Char × List Char) :=
  let (mark, text) := match text with
    | '!' :: rest => (['!'], rest)
    | _ => ([], text)
  let (first, text) := match text with
    | ']' :: rest => ([']'], rest)
    | _ => ([], text)
  let content := text.takeWhile (· != ']')
  match text.drop content.length with
  | _ :: rest => some (mark ++ first ++ content, rest)
  | [] => none

/-- The texts between the hyphens that stand for ranges: before a hyphen there are at least some
number of characters, and two after the first. -/
def splitRanges : Nat → Nat → List Char → List (List Char)
  | 0, _, text => [text]
  | fuel + 1, least, text =>
    let before := text.take least ++ (text.drop least).takeWhile (· != '-')
    match text.drop before.length with
    | _ :: rest => before :: splitRanges fuel 2 rest
    | [] => [text]

/-- A hyphen at the end stands for itself. -/
def closeRanges : List (List Char) → List (List Char)
  | [chunk, []] => [chunk ++ ['-']]
  | chunk :: chunks => chunk :: closeRanges chunks
  | [] => []

/-- Leave out the ranges whose ends are in the wrong order. -/
def dropReversed : List (List Char) → List (List Char)
  | [] => []
  | chunk :: chunks =>
    match chunk.getLast?, dropReversed chunks with
    | some low, (high :: next) :: others =>
      if high < low then (chunk.dropLast ++ next) :: others else chunk :: (high :: next) :: others
    | _, chunks => chunk :: chunks

/-- Characters, with nothing in the place of a hyphen that stands for a range. -/
def withMarks : List (List Char) → List (Option Char)
  | [] => []
  | [chunk] => chunk.map some
  | chunk :: chunks => chunk.map some ++ none :: withMarks chunks

def rangesOf : List (Option Char) → List (Char × Char)
  | [] => []
  | some low :: none :: some high :: rest => (low, high) :: rangesOf rest
  | some character :: rest => (character, character) :: rangesOf rest
  | none :: rest => ('-', '-') :: rangesOf rest

/-- The part of a pattern that brackets with some text stand for. -/
def Piece.ofBracketed (text : List Char) : Piece :=
  let least := if text.head? == some '!' then 2 else 1
  match withMarks (dropReversed (closeRanges (splitRanges text.length least text))) with
  | some '!' :: marked => .among true (rangesOf marked)
  | marked => .among false (rangesOf marked)

/-! ## Patterns -/

/-- The parts of a pattern. -/
def piecesFrom : Nat → List Char → List Piece
  | 0, _ => []
  | _, [] => []
  | fuel + 1, '*' :: rest => .many :: piecesFrom fuel rest
  | fuel + 1, '?' :: rest => .any :: piecesFrom fuel rest
  | fuel + 1, '[' :: rest =>
    match bracketed? rest with
    | some (text, rest) => .ofBracketed text :: piecesFrom fuel rest
    | none => .one '[' :: piecesFrom fuel rest
  | fuel + 1, character :: rest => .one character :: piecesFrom fuel rest

/-- The parts of a pattern. -/
def pieces (pattern : String) : List Piece :=
  piecesFrom pattern.length pattern.toList

/-- Whether a test holds of a text or of what some of its characters leave. -/
def holdsBehind (test : List Char → Bool) : List Char → Bool
  | [] => test []
  | character :: text => test (character :: text) || holdsBehind test text

/-- Whether parts stand for the whole of a text. -/
def matchesAll : List Piece → List Char → Bool
  | [], text => text.isEmpty
  | .many :: pieces, text => holdsBehind (matchesAll pieces) text
  | piece :: pieces, character :: text => piece.accepts character && matchesAll pieces text
  | _ :: _, [] => false

def hasForm (pattern text : String) : Bool :=
  matchesAll (pieces pattern) text.toList

end Phrasebook.Scan
