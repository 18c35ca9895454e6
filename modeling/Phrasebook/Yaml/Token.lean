import Phrasebook.Text.Source
import Phrasebook.Yaml.Scalar

/-!
# Tokens of documents

The layout of a document becomes tokens of its own: a block collection starts
where the indentation grows and ends where it shrinks.  A key is recognised
only by the colon after it, so the token for a key is put in front of tokens
that are already read.
-/

namespace Phrasebook.Yaml

inductive Token where
  /-- A version or a line that means nothing. -/
  | directive (major? : Option Nat)
  | handle (name : List Char) (start : List Char)
  | documentStart
  | documentEnd
  | blockSequenceStart
  | blockMappingStart
  | blockEnd
  | flowSequenceStart
  | flowSequenceEnd
  | flowMappingStart
  | flowMappingEnd
  | blockEntry
  | flowEntry
  | key
  | value
  | alias (name : List Char)
  | anchor (name : List Char)
  | tag (handle? : Option (List Char)) (suffix : List Char)
  | scalar (text : List Char) (isPlain : Bool)
deriving DecidableEq, Repr, Inhabited

/-- A token that may turn out to be a key. -/
structure PendingKey where
  /-- The number of tokens before it. -/
  position : Nat
  /-- Whether nothing else than a key can stand there. -/
  isRequired : Bool
  index : Nat
  line : Nat
  column : Nat
deriving Repr

/-- The tokens read so far, and what the layout of the rest depends on. -/
structure Layout where
  cursor : Cursor
  tokens : List Token := []
  /-- The column of the innermost block collection. -/
  indent : Int := -1
  /-- The columns of the collections around it. -/
  outer : List Int := []
  /-- The number of brackets around. -/
  depth : Nat := 0
  mayStartKey : Bool := true
  /-- The tokens that may turn out to be keys, by the number of brackets around them. -/
  pending : List (Nat × PendingKey) := []

namespace Layout

def put (layout : Layout) (token : Token) : Layout :=
  { layout with tokens := layout.tokens ++ [token] }

def insert (layout : Layout) (position : Nat) (token : Token) : Layout :=
  { layout with tokens := layout.tokens.insertIdx position token }

/-- Forget the pending key inside the current brackets. -/
def dropKey (layout : Layout) : Except Fault Layout :=
  match layout.pending.lookup layout.depth with
  | none => .ok layout
  | some key =>
    if key.isRequired then .error .malformed
    else .ok { layout with pending := layout.pending.filter (·.1 != layout.depth) }

/-- Note that the next token may turn out to be a key. -/
def saveKey (layout : Layout) : Except Fault Layout :=
  if !layout.mayStartKey then .ok layout
  else do
    let layout ← layout.dropKey
    let cursor := layout.cursor
    let isRequired := layout.depth == 0 && layout.indent == (cursor.column : Int)
    let key : PendingKey :=
      ⟨layout.tokens.length, isRequired, cursor.index, cursor.line, cursor.column⟩
    return { layout with pending := (layout.depth, key) :: layout.pending }

/-- Forget pending keys on earlier lines or too far back. -/
def dropStale (layout : Layout) : Except Fault Layout :=
  let isStale := fun (entry : Nat × PendingKey) =>
    entry.2.line != layout.cursor.line || 1024 < layout.cursor.index - entry.2.index
  if layout.pending.any fun entry => isStale entry && entry.2.isRequired then .error .malformed
  else .ok { layout with pending := layout.pending.filter fun entry => !isStale entry }

/-- End the block collections that are indented further than a column. -/
def closeBlocks (column : Int) : Nat → Layout → Layout
  | 0, layout => layout
  | fuel + 1, layout =>
    if layout.depth == 0 && column < layout.indent then
      match layout.outer with
      | [] => { layout.put .blockEnd with indent := -1 }
      | indent :: outer =>
        closeBlocks column fuel { layout.put .blockEnd with indent, outer }
    else layout

def close (column : Int) (layout : Layout) : Layout :=
  layout.closeBlocks column (layout.outer.length + 1)

/-- Start a block collection at a column unless one is there already; its token goes to a
position. -/
def openBlock (column position : Nat) (token : Token) (layout : Layout) : Layout :=
  if layout.depth == 0 && layout.indent < (column : Int) then
    { layout.insert position token with
      outer := layout.indent :: layout.outer
      indent := column }
  else layout

def putSign (token : Token) (length : Nat) (layout : Layout) : Layout :=
  { layout.put token with cursor := layout.cursor.skip length }

/-- The characters of the names of anchors and directives. -/
def isNameCharacter (character : Char) : Bool :=
  character.isAlphanum || character == '-' || character == '_'

def isTagCharacter (character : Char) : Bool :=
  character.isAlphanum || "-;/?:@&=+$,_.!~*'()[]%".toList.contains character

/-- The bytes of the escapes at the start of a text, and what follows them. -/
def escapedBytes : List Char → Except Fault (List UInt8 × List Char)
  | '%' :: high :: low :: rest =>
    match Text.Reference.hexValue? high, Text.Reference.hexValue? low with
    | some high, some low => do
      let (bytes, rest) ← escapedBytes rest
      return (UInt8.ofNat (16 * high + low) :: bytes, rest)
    | _, _ => .error .malformed
  | '%' :: _ => .error .malformed
  | rest => .ok ([], rest)

/-- A text with the characters that its escapes stand for. -/
def withoutEscapes : Nat → List Char → Except Fault (List Char)
  | 0, text => .ok text
  | _, [] => .ok []
  | fuel + 1, '%' :: rest => do
    let (bytes, rest) ← escapedBytes ('%' :: rest)
    match (Text.Source.ofBytes bytes).text? with
    | some text => return text.toList ++ (← withoutEscapes fuel rest)
    | none => throw .malformed
  | fuel + 1, character :: rest => do
    return character :: (← withoutEscapes fuel rest)

/-- Read the part of a tag after its handle. -/
def tagText (cursor : Cursor) : Except Fault (List Char × Cursor) := do
  let (text, after) := cursor.span isTagCharacter
  if text.isEmpty then throw .malformed
  return (← withoutEscapes text.length text, after)

def tagHandle (cursor : Cursor) : Except Fault (List Char × Cursor) :=
  if !cursor.isAt '!' then .error .malformed
  else
    let (name, after) := cursor.next.span isNameCharacter
    if after.isAt '!' then .ok ('!' :: name ++ ['!'], after.next)
    else if name.isEmpty && after.isAt ' ' then .ok (['!'], after)
    else .error .malformed

/-- Read a tag. -/
def tag (cursor : Cursor) : Except Fault (Token × Cursor) := do
  let second? := cursor.peek? 1
  let (token, after) ←
    if second? == some '<' then do
      let (text, after) ← tagText (cursor.skip 2)
      if !after.isAt '>' then throw .malformed
      pure (Token.tag none text, after.next)
    else if isGapOrEnd second? then
      pure (Token.tag none ['!'], cursor.next)
    else do
      let word := cursor.next.rest.takeWhile fun character => !isSpaceOrEnd (some character)
      let (handle, after) ←
        if word.contains '!' then tagHandle cursor else pure (['!'], cursor.next)
      let (text, after) ← tagText after
      pure (Token.tag (some handle) text, after)
  if !isSpaceOrEnd after.rest.head? then throw .malformed
  return (token, after)

def anchorName (cursor : Cursor) : Except Fault (List Char × Cursor) :=
  let (name, after) := cursor.next.span isNameCharacter
  let isOver := isGapOrEnd after.rest.head? ||
    after.rest.head?.any fun next => ['?', ':', ',', ']', '\x7d', '%', '@', '\x60'].contains next
  if name.isEmpty || !isOver then .error .malformed else .ok (name, after)

/-- Read a directive. -/
def directive (cursor : Cursor) : Except Fault (Token × Cursor) := do
  let (name, after) := cursor.next.span isNameCharacter
  if name.isEmpty || !isSpaceOrEnd after.rest.head? then throw .malformed
  let (token, after) ←
    if name == "YAML".toList then do
      let (major, after) := (after.skipWhile (· == ' ')).span Char.isDigit
      if major.isEmpty || !after.isAt '.' then throw .malformed
      let (minor, after) := after.next.span Char.isDigit
      if minor.isEmpty || !isSpaceOrEnd after.rest.head? then throw .malformed
      pure (Token.directive (some (Text.Reference.numberAt 10 0 major).1), after)
    else if name == "TAG".toList then do
      let (handle, after) ← tagHandle (after.skipWhile (· == ' '))
      if !after.isAt ' ' then throw .malformed
      let (start, after) ← tagText (after.skipWhile (· == ' '))
      if !isSpaceOrEnd after.rest.head? then throw .malformed
      pure (Token.handle handle start, after)
    else
      pure (Token.directive none, after.skipWhile fun character => !isBreak character)
  return (token, ← skipRestOfLine after)

/-- Skip spaces, comments and line ends; after a line end a key may start. -/
def skipGaps : Nat → Layout → Layout
  | 0, layout => layout
  | fuel + 1, layout =>
    let cursor := (layout.cursor.skipWhile (· == ' ')).skipComment
    match cursor.lineBreak? with
    | none => { layout with cursor }
    | some (_, cursor) =>
      skipGaps fuel { layout with cursor, mayStartKey := layout.mayStartKey || layout.depth == 0 }

/-- Put a token that stands for itself and ends what came before. -/
def putSeparate (layout : Layout) (token : Token) (cursor : Cursor) : Except Fault Layout := do
  let layout ← (layout.close (-1)).dropKey
  return { layout.put token with cursor, mayStartKey := false }

def openFlow (token : Token) (layout : Layout) : Except Fault Layout := do
  let layout ← layout.saveKey
  return { layout.putSign token 1 with depth := layout.depth + 1, mayStartKey := true }

def closeFlow (token : Token) (layout : Layout) : Except Fault Layout := do
  if layout.depth == 0 then throw .malformed
  let layout ← layout.dropKey
  return { layout.putSign token 1 with depth := layout.depth - 1, mayStartKey := false }

def putFlowEntry (layout : Layout) : Except Fault Layout := do
  let layout ← layout.dropKey
  return { layout.putSign .flowEntry 1 with mayStartKey := true }

/-- Put the sign for an entry of a block sequence or, with an explicit key, of a mapping. -/
def putBlockSign (start sign : Token) (mayStartKey : Bool) (layout : Layout) :
    Except Fault Layout := do
  if layout.depth == 0 && !layout.mayStartKey then throw .malformed
  let layout := layout.openBlock layout.cursor.column layout.tokens.length start
  let layout ← layout.dropKey
  return { layout.putSign sign 1 with mayStartKey }

/-- Put the sign between a key and its value; a pending token becomes the key. -/
def putValue (layout : Layout) : Except Fault Layout :=
  match layout.pending.lookup layout.depth with
  | some key =>
    let layout := layout.insert key.position .key
    let layout := layout.openBlock key.column key.position .blockMappingStart
    let pending := layout.pending.filter (·.1 != layout.depth)
    .ok { layout.putSign .value 1 with pending, mayStartKey := false }
  | none => layout.putBlockSign .blockMappingStart .value (layout.depth == 0)

/-- Put a token that may turn out to be a key. -/
def putContent (layout : Layout) (read : Cursor → Except Fault (Token × Cursor)) :
    Except Fault Layout := do
  let layout ← layout.saveKey
  let (token, cursor) ← read layout.cursor
  return { layout.put token with cursor, mayStartKey := false }

/-- Put a scalar between quotes. -/
def putQuoted (quote : Char) (layout : Layout) : Except Fault Layout :=
  layout.putContent fun cursor => do
    let scalar ← quotedFrom quote (cursor.rest.length + 1) cursor.next
    return (.scalar scalar.text false, scalar.cursor)

/-- Put a scalar that is an indented block. -/
def putBlock (isFolded : Bool) (layout : Layout) : Except Fault Layout := do
  let layout ← layout.dropKey
  let scalar ← block isFolded layout.indent layout.cursor.next
  return { layout.put (.scalar scalar.text false) with
    cursor := scalar.cursor, mayStartKey := true }

def putPlain (layout : Layout) : Except Fault Layout := do
  let layout ← layout.saveKey
  let inFlow := layout.depth != 0
  let scalar := plainFrom inFlow (layout.indent + 1).toNat (layout.cursor.rest.length + 1)
    layout.cursor
  return { layout.put (.scalar scalar.text true) with
    cursor := scalar.cursor, mayStartKey := scalar.endsLine }

/-- The signs that start no plain scalar. -/
def signs : List Char :=
  "-?:,[]\x7b\x7d#&*!|>'\"%@\x60".toList

/-- Whether a plain scalar starts with a character, given the next one. -/
def startsPlain (inFlow : Bool) (character : Char) (next? : Option Char) : Bool :=
  (!isGapOrEnd (some character) && !signs.contains character) ||
    (!isGapOrEnd next? && (character == '-' || (!inFlow && (character == '?' || character == ':'))))

def putToken (layout : Layout) (character : Char) : Except Fault Layout :=
  let cursor := layout.cursor
  let isFirst := cursor.column == 0
  let inFlow := layout.depth != 0
  let isApart := isGapOrEnd (cursor.peek? 1)
  if character == '%' && isFirst then do
    let (token, after) ← directive cursor
    layout.putSeparate token after
  else if isFirst && cursor.isMark '-' then layout.putSeparate .documentStart (cursor.skip 3)
  else if isFirst && cursor.isMark '.' then layout.putSeparate .documentEnd (cursor.skip 3)
  else if character == '[' then layout.openFlow .flowSequenceStart
  else if character == '\x7b' then layout.openFlow .flowMappingStart
  else if character == ']' then layout.closeFlow .flowSequenceEnd
  else if character == '\x7d' then layout.closeFlow .flowMappingEnd
  else if character == ',' then layout.putFlowEntry
  else if character == '-' && isApart then
    layout.putBlockSign .blockSequenceStart .blockEntry true
  else if character == '?' && (inFlow || isApart) then
    layout.putBlockSign .blockMappingStart .key (!inFlow)
  else if character == ':' && (inFlow || isApart) then layout.putValue
  else if character == '*' then
    layout.putContent fun cursor =>
      (anchorName cursor).map fun (name, after) => (.alias name, after)
  else if character == '&' then
    layout.putContent fun cursor =>
      (anchorName cursor).map fun (name, after) => (.anchor name, after)
  else if character == '!' then layout.putContent tag
  else if character == '|' && !inFlow then layout.putBlock false
  else if character == '>' && !inFlow then layout.putBlock true
  else if character == '\'' || character == '"' then layout.putQuoted character
  else if startsPlain inFlow character (cursor.peek? 1) then layout.putPlain
  else .error .malformed

def putAll : Nat → Layout → Except Fault Layout
  | 0, _ => .error .malformed
  | fuel + 1, layout => do
    let layout ← (layout.skipGaps (layout.cursor.rest.length + 1)).dropStale
    let layout := layout.close layout.cursor.column
    match layout.cursor.rest.head? with
    | none => (layout.close (-1)).dropKey
    | some character => putAll fuel (← layout.putToken character)

end Layout

/-- The characters that may stand in a document. -/
def isAllowed (character : Char) : Bool :=
  let code := character.toNat
  code == 0x09 || code == 0x0A || code == 0x0D || (0x20 ≤ code && code ≤ 0x7E) || code == 0x85 ||
    (0xA0 ≤ code && code ≤ 0xFFFD) || 0x10000 ≤ code

def tokens (text : List Char) : Except Fault (List Token) :=
  if !text.all isAllowed then .error .malformed
  else
    let text := if text.head? == some '\ufeff' then text.drop 1 else text
    (Layout.putAll (text.length + 2) { cursor := ⟨text, 0, 0, 0⟩ }).map (·.tokens)

end Phrasebook.Yaml
