import Phrasebook.Markup.Cursor
import Phrasebook.Markup.Pattern

/-!
# Grammars and how they read

A grammar is a value, and `Grammar.read` is the one interpreter of such values.
Every decision is made by a guard that looks at the next token, and what it
selects must then match: nothing is ever tried and taken back.  Trees are built
while reading: a `frame` collects the trees of its body, and `wrap` puts
everything that the frame has collected so far into one node, so that a chain
such as `a.b(c)` grows from the inside out.
-/

namespace Phrasebook.Markup

/-- What can be asked about the text at a cursor. -/
inductive Guard where
  /-- The text begins the way a token of a class does. -/
  | begins (lexeme : Lexeme)
  /-- No line terminator stands before the text. -/
  | sameLine
  /-- A statement may end here without a semicolon. -/
  | unmarkedEnd
  | not (guard : Guard)
  | both (first second : Guard)
  | either (first second : Guard)
deriving Repr

namespace Guard

def holds : Guard → Cursor → Bool
  | begins lexeme, cursor => lexeme.begins cursor.rest
  | sameLine, cursor => cursor.isSameLine
  | unmarkedEnd, cursor => cursor.endsUnmarked
  | not guard, cursor => !guard.holds cursor
  | both first second, cursor => first.holds cursor && second.holds cursor
  | either first second, cursor => first.holds cursor || second.holds cursor

/-- A bracket or separator stands here. -/
def sees (text : String) : Guard :=
  begins (.literal text)

/-- A word stands here. -/
def seesWord (word : String) : Guard :=
  begins (.word word)

/-- One of some operators stands here, and no longer operator. -/
def seesOperator (operators : List String) : Guard :=
  begins (.operator operators)

instance : OrOp Guard := ⟨either⟩

instance : AndOp Guard := ⟨both⟩

end Guard

/-- A grammar over named rules. -/
inductive Grammar (Rule : Type) where
  /-- Nothing. -/
  | empty
  /-- A token and the blanks and comments after it. -/
  | token (kind : Kind) (lexeme : Lexeme)
  /-- A token whose following text is kept as it is. -/
  | raw (kind : Kind) (lexeme : Lexeme)
  /-- Nothing, but only where the guard holds. -/
  | require (guard : Guard)
  | sequence (first second : Grammar Rule)
  /-- The first grammar where the guard holds, and the second elsewhere. -/
  | choice (guard : Guard) (first second : Grammar Rule)
  /-- The body for as long as the guard holds. -/
  | many (guard : Guard) (body : Grammar Rule)
  /-- Collect the trees of the body apart from those read before. -/
  | frame (body : Grammar Rule)
  /-- Put all trees of the frame into one node. -/
  | wrap (kind : Kind)
  /-- Give the newest tree its final kind. -/
  | reread (reading : Reading)
  | rule (rule : Rule)
deriving Repr

namespace Grammar

variable {Rule : Type}

instance : Append (Grammar Rule) := ⟨sequence⟩

/-- A node of one kind around everything that the body reads. -/
def node (kind : Kind) (body : Grammar Rule) : Grammar Rule :=
  frame (body ++ wrap kind)

/-- The body where the guard holds, and nothing elsewhere. -/
def maybe (guard : Guard) (body : Grammar Rule) : Grammar Rule :=
  choice guard body empty

/-- The first of some grammars whose guard holds. -/
def first (cases : List (Guard × Grammar Rule)) (otherwise : Grammar Rule) : Grammar Rule :=
  cases.foldr (fun case rest => choice case.1 case.2 rest) otherwise

/-- A bracket or separator. -/
def sign (text : String) : Grammar Rule :=
  token .symbol (.literal text)

def keyword (word : String) : Grammar Rule :=
  token .symbol (.word word)

/-- One of some operators, read as the longest operator that stands there. -/
def operator (operators : List String) : Grammar Rule :=
  token .symbol (.operator operators)

/-- The body at least once, with commas in between. -/
def listed (body : Grammar Rule) : Grammar Rule :=
  body ++ many (.sees ",") (sign "," ++ body)

/-- The body any number of times up to a closing bracket, with commas in between, where it may be
left out before a comma and before the bracket. -/
def withHoles (closing : String) (body : Grammar Rule) : Grammar Rule :=
  listed (choice (.sees "," ||| .sees closing) empty body)

/-- Read a grammar from a cursor.  Every step takes one unit of `fuel`; a reading that needs more
does not match. -/
def read (rules : Rule → Grammar Rule) : Nat → Grammar Rule → Cursor → Option Cursor
  | 0, _, _ => none
  | fuel + 1, grammar, cursor =>
    match grammar with
    | empty => some cursor
    | token kind lexeme => cursor.token? kind lexeme
    | raw kind lexeme => cursor.raw? kind lexeme
    | require guard => if guard.holds cursor then some cursor else none
    | sequence first second =>
      match read rules fuel first cursor with
      | none => none
      | some next => read rules fuel second next
    | choice guard first second =>
      if guard.holds cursor then read rules fuel first cursor else read rules fuel second cursor
    | many guard body =>
      if guard.holds cursor then
        match read rules fuel body cursor with
        | none => none
        | some next => read rules fuel (many guard body) next
      else some cursor
    | frame body =>
      match read rules fuel body ⟨[], [], cursor.rest⟩ with
      | none => none
      | some inner => some ⟨inner.done ++ cursor.covered, inner.gap, inner.rest⟩
    | wrap kind => some ⟨[.node kind cursor.done.reverse], cursor.gap, cursor.rest⟩
    | reread reading =>
      match cursor.done with
      | [] => none
      | newest :: older =>
        match reading.apply newest with
        | none => none
        | some tree => some ⟨tree :: older, cursor.gap, cursor.rest⟩
    | rule name => read rules fuel (rules name) cursor

end Grammar

end Phrasebook.Markup
