import Phrasebook.Markup.Lexeme
import Phrasebook.Markup.Tree

/-!
# Reading positions

A cursor holds the trees read so far, the newest first, the blanks and comments
after them, and the text that is still to be read.  Every step moves text from
the back to the front and loses none of it.
-/

namespace Phrasebook.Markup

/-- What the blanks or the comment at the front of a text are. -/
def triviaKind (text : List Char) : Kind :=
  if Measure.blanks text = 0 then .comment else .blank

/-- At most `fuel` stretches of blanks and comments at the front of a text, and what follows
them. -/
def gapWithin : Nat → List Char → List Tree × List Char
  | 0, text => ([], text)
  | fuel + 1, text =>
    match Measure.trivia text with
    | 0 => ([], text)
    | length =>
      let (gap, rest) := gapWithin fuel (text.drop length)
      (.leaf (triviaKind text) (text.take length) :: gap, rest)

/-- The blanks and comments at the front of a text, and what follows them. -/
def splitGap (text : List Char) : List Tree × List Char :=
  gapWithin text.length text

/-- The trees read so far, newest first, the blanks and comments after them in the order of the
text, and the text still to be read. -/
structure Cursor where
  done : List Tree
  gap : List Tree
  rest : List Char
deriving Inhabited

namespace Cursor

/-- The whole text that a cursor stands in. -/
def text (cursor : Cursor) : List Char :=
  Tree.textAll cursor.done.reverse ++ Tree.textAll cursor.gap ++ cursor.rest

/-- The position before a text and after some trees. -/
def before (text : List Char) (done : List Tree) : Cursor :=
  ⟨done, (splitGap text).1, (splitGap text).2⟩

/-- The trees read so far and the gap after them, newest first. -/
def covered (cursor : Cursor) : List Tree :=
  cursor.gap.reverse ++ cursor.done

/-- Move a token of a class from the rest to the trees, and the blanks and comments after it to
the gap. -/
def token? (kind : Kind) (lexeme : Lexeme) (cursor : Cursor) : Option Cursor :=
  match lexeme.split? cursor.rest with
  | none => none
  | some (token, rest) => some (before rest (.leaf kind token :: cursor.covered))

/-- Move a token of a class from the rest to the trees, and nothing else. -/
def raw? (kind : Kind) (lexeme : Lexeme) (cursor : Cursor) : Option Cursor :=
  match lexeme.split? cursor.rest with
  | none => none
  | some (token, rest) => some ⟨.leaf kind token :: cursor.covered, [], rest⟩

/-- Whether no line terminator stands in the gap. -/
def isSameLine (cursor : Cursor) : Bool :=
  !cursor.gap.any fun tree => tree.text.any isLineFeed

/-- Whether the end of a statement may be left unmarked: at the end of the text, before a closing
brace, and after a line terminator unless the next token continues the statement. -/
def endsUnmarked (cursor : Cursor) : Bool :=
  match cursor.rest with
  | [] | '\u0000' :: _ | '\x7d' :: _ => true
  | next =>
    (cursor.gap.any fun tree => tree.kind == .blank && tree.text.any isLineFeed) &&
      startsStatement next
where
  /-- Whether a token on a new line starts a new statement. -/
  startsStatement : List Char → Bool
    | '.' :: next :: _ => next.isDigit
    | '+' :: next :: _ => next == '+'
    | '-' :: next :: _ => next == '-'
    | '!' :: next :: _ => next != '='
    | 'i' :: 'n' :: rest =>
      continuesWord rest &&
        !("stanceof".toList.isPrefixOf rest && !continuesWord (rest.drop 8))
    | first :: _ => !"\x60,:;*%><=[(?^|&/.+-".toList.contains first
    | [] => true
  /-- Whether a letter follows. -/
  continuesWord : List Char → Bool
    | next :: _ => next.isAlpha || 0x80 ≤ next.toNat && !isBlank next
    | [] => false

end Cursor

theorem text_gapWithin (fuel : Nat) (text : List Char) :
    Tree.textAll (gapWithin fuel text).1 ++ (gapWithin fuel text).2 = text := by
  induction fuel generalizing text with
  | zero => rfl
  | succ fuel ih =>
    unfold gapWithin
    split
    · rfl
    · rename_i length _
      simp [ih (text.drop (Measure.trivia text))]

@[simp] theorem text_splitGap (text : List Char) :
    Tree.textAll (splitGap text).1 ++ (splitGap text).2 = text :=
  text_gapWithin text.length text

namespace Cursor

@[simp] theorem text_before (text : List Char) (done : List Tree) :
    (before text done).text = Tree.textAll done.reverse ++ text := by
  simp [before, Cursor.text]

theorem text_token? {kind : Kind} {lexeme : Lexeme} {cursor next : Cursor}
    (step : cursor.token? kind lexeme = some next) : next.text = cursor.text := by
  unfold token? at step
  split at step
  · contradiction
  · rename_i token rest cut
    obtain rfl := Option.some.inj step
    rw [text_before]
    simp [text, covered, ← Lexeme.append_of_split? cut]

theorem text_raw? {kind : Kind} {lexeme : Lexeme} {cursor next : Cursor}
    (step : cursor.raw? kind lexeme = some next) : next.text = cursor.text := by
  unfold raw? at step
  split at step
  · contradiction
  · rename_i token rest cut
    obtain rfl := Option.some.inj step
    simp [text, covered, ← Lexeme.append_of_split? cut]

end Cursor

end Phrasebook.Markup
