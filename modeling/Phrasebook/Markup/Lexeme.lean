import Phrasebook.Markup.Measure
import Phrasebook.Text.Space

/-!
# Lexemes of scripts and markup

The classes of tokens and how far each reaches at the front of a text.  An
undecodable byte stands in a source as the control character U+0001: text,
comments and literals may hold it and names may not.
-/

namespace Phrasebook.Markup

/-- White space of a script: Unicode's, the byte order mark, the zero width space and the word
joiner. -/
def isBlank (character : Char) : Bool :=
  Text.isSpace character || character == '\ufeff' || character == '\u200b' ||
    character == '\u2060'

def isLineEnd (character : Char) : Bool :=
  character == '\n' || character == '\r' || character == '\u2028' || character == '\u2029'

/-- Line terminators that can stand for a missing semicolon. -/
def isLineFeed (character : Char) : Bool :=
  character == '\n' || character == '\u2028' || character == '\u2029'

/-- No lexeme of any class holds the null character. -/
def isPresent (character : Char) : Bool :=
  character != '\u0000'

def isHexDigit (character : Char) : Bool :=
  character.isDigit || ('a' ≤ character && character ≤ 'f') ||
    ('A' ≤ character && character ≤ 'F')

def isOctalDigit (character : Char) : Bool :=
  '0' ≤ character && character ≤ '7'

def isBinaryDigit (character : Char) : Bool :=
  character == '0' || character == '1'

/-- ASCII punctuation that a name cannot hold. -/
def namePunctuation : List Char :=
  ":;\x60\"'@#.,|^&<=>+-*/\\%?!~()[]\x7b\x7d".toList

/-- Names hold everything that is neither a control character, nor blank, nor punctuation. -/
def isNamePart (character : Char) : Bool :=
  0x1F < character.toNat && !isBlank character && !namePunctuation.contains character

/-- Words that no identifier may be. -/
def reservedWords : List String :=
  ["break", "case", "catch", "class", "const", "continue", "debugger", "default", "delete",
    "do", "else", "export", "extends", "false", "finally", "for", "function", "if", "import",
    "in", "instanceof", "new", "null", "return", "super", "switch", "this", "throw", "true",
    "try", "typeof", "var", "void", "while", "with"]

def isReserved (word : List Char) : Bool :=
  reservedWords.any fun reserved => reserved.toList == word

namespace Measure

/-- What follows `\u` in an escape: four digits, or digits in braces. -/
def escapeDigits : Measure
  | '\x7b' :: text =>
    let length := stretch isHexDigit text
    if length != 0 && (text.drop length).head? == some '\x7d' then length + 2 else 0
  | text => exactly 4 isHexDigit text

def nameEscape : Measure :=
  andThen (literal ['\\', 'u']) escapeDigits

/-- A name, reserved or not. -/
def name : Measure :=
  andMaybe
    (longer (one fun character => isNamePart character && !character.isDigit) nameEscape)
    (run (longer (one isNamePart) nameEscape))

/-- A name that is not reserved. -/
def identifier : Measure := fun text =>
  let length := name text
  if isReserved (text.take length) then 0 else length

/-- Whether a text starts with a word that no more of a name follows. -/
def startsWith (word text : List Char) : Bool :=
  word.isPrefixOf text &&
    match text.drop word.length with
    | next :: _ => !isNamePart next && next != '\\'
    | [] => true

/-- One given word, not followed by more of a name. -/
def word (expected : String) : Measure := fun text =>
  if startsWith expected.toList text then expected.length else 0

/-- A tag or attribute name that holds a hyphen. -/
def hyphenated : Measure :=
  let first := fun (character : Char) =>
    character.isAlpha || character == '_' || character == '$'
  let part := fun (character : Char) => first character || character.isDigit
  andMaybe
    (andThen (andMaybe (one first) (stretch part)) (one (· == '-')))
    (stretch fun character => part character || character == '-')

def literalEscape : Measure
  | '\\' :: 'x' :: text => if exactly 2 isHexDigit text = 0 then 0 else 4
  | '\\' :: 'u' :: text =>
    match escapeDigits text with
    | 0 => 0
    | length => length + 2
  | '\\' :: first :: text =>
    if isOctalDigit first then upTo 2 isOctalDigit text + 2
    else if (first == '\r' || first == '?') && one isLineFeed text != 0 then 3
    else if isPresent first then 2
    else 0
  | _ => 0

def stringBetween (quote : Char) : Measure :=
  delimited quote
    (longer
      (one fun character =>
        isPresent character && character != '\\' && character != '\n' && character != '\r')
      literalEscape)

def stringLiteral : Measure :=
  longer (stringBetween '"') (stringBetween '\'')

/-- A character reference: a name of up to thirty letters, or a number in either base. -/
def characterReference : Measure :=
  andThen (one (· == '&'))
    (andThen
      (longer (upTo 30 Char.isAlpha)
        (andThen (one (· == '#'))
          (longer (upTo 5 Char.isDigit)
            (andThen (one fun character => character == 'x' || character == 'X')
              (upTo 6 isHexDigit)))))
      (one (· == ';')))

/-- An ampersand before a character that could not start a reference, and this character. -/
def loneAmpersand : Measure
  | '&' :: next :: _ => if isPresent next && next != '#' && !next.isAlpha then 2 else 0
  | _ => 0

/-- An attribute string between copies of a quote: an ampersand starts a reference or is
followed by a character that could not start one. -/
def attributeStringBetween (quote : Char) : Measure :=
  delimited quote
    (longer
      (one fun character => isPresent character && character != '&')
      (longer characterReference loneAmpersand))

def attributeString : Measure :=
  longer (attributeStringBetween '"') (attributeStringBetween '\'')

/-- Decimal digits with an exponent sign. -/
def exponent : Measure :=
  andThen (one fun character => character == 'e' || character == 'E')
    (longer (digits Char.isDigit)
      (andThen (one fun character => character == '+' || character == '-')
        (digits Char.isDigit)))

/-- An integer that may precede a decimal point. -/
def integerPart : Measure := fun text =>
  let plain := digits Char.isDigit text
  match text with
  | '0' :: next :: _ => if next.isDigit && next != '0' then plain else 1
  | _ => plain

/-- An integer in one of the bases that a letter announces. -/
def basedInteger : Measure :=
  let based := fun (lower upper : Char) (accepts : Char → Bool) =>
    andThen (one (· == '0'))
      (andThen (one fun character => character == lower || character == upper)
        (digits accepts))
  longer (based 'x' 'X' isHexDigit) (longer (based 'b' 'B' isBinaryDigit)
    (based 'o' 'O' isOctalDigit))

def number : Measure :=
  let plain := digits Char.isDigit
  longer
    (andMaybe (longer basedInteger plain) (one (· == 'n')))
    (longer
      (andMaybe
        (andMaybe (andThen integerPart (one (· == '.'))) plain)
        exponent)
      (longer
        (andMaybe (andThen (one (· == '.')) plain) exponent)
        (andThen integerPart exponent)))

/-- A character that may stand in a regular expression. -/
def isVisible (character : Char) : Bool :=
  isPresent character && character != '\n'

/-- One part of a class in a regular expression: an escape or a character. -/
def regexClassPart : Measure
  | '\\' :: next :: _ => if isVisible next then 2 else 0
  | character :: _ => if isVisible character && character != '\\' then 1 else 0
  | [] => 0

/-- One part of a regular expression: a class in brackets, an escape, or a character. -/
def regexPart : Measure
  | '[' :: text =>
    match closing ']' regexClassPart text with
    | 0 => 0
    | length => length + 1
  | text => regexClassPart text

def regexLiteral : Measure :=
  andMaybe (delimited '/' regexPart)
    (stretch fun character => 'a' ≤ character && character ≤ 'z')

/-- A dollar sign that does not start a substitution. -/
def loneDollar : Measure
  | '$' :: '\x7b' :: _ => 0
  | '$' :: _ => 1
  | _ => 0

/-- Characters of a template up to its end or the next substitution. -/
def templateText : Measure :=
  run
    (longer
      (longer
        (one fun character =>
          isPresent character && character != '\x60' && character != '\\' &&
            character != '$')
        literalEscape)
      loneDollar)

/-- Text between the children of an element. -/
def elementText : Measure :=
  run
    (longer
      (one fun character =>
        isPresent character && character != '\x7b' && character != '\x7d' &&
          character != '<' && character != '>' && character != '&')
      characterReference)

/-- All operators, longest first. -/
def operators : List String :=
  [">>>=", "===", "!==", "**=", "<<=", ">>=", ">>>", "&&=", "||=", "??=", "...", "=>", "==",
    "!=", "<=", ">=", "&&", "||", "??", "?.", "++", "--", "+=", "-=", "*=", "/=", "%=", "&=",
    "|=", "^=", "<<", ">>", "**", "+", "-", "*", "/", "%", "&", "|", "^", "<", ">", "=", "!",
    "?", "~", "."]

/-- The longest operator at the front of a text; `?.` is not one before a digit, and a slash is
none before an asterisk, which begins no operand. -/
def operatorAt (text : List Char) : Option String :=
  match text with
  | '?' :: '.' :: next :: _ =>
    if next.isDigit then some "?" else some "?."
  | '/' :: '*' :: _ => none
  | _ => operators.find? fun operator => operator.toList.isPrefixOf text

/-- The longest operator, provided that it is one of the given ones. -/
def operator (expected : List String) : Measure := fun text =>
  match operatorAt text with
  | some found => if expected.contains found then found.length else 0
  | none => 0

/-- White space. -/
def blanks : Measure :=
  stretch isBlank

def lineComment : Measure :=
  andMaybe (literal ['/', '/'])
    (stretch fun character => isPresent character && !isLineEnd character)

/-- The characters of a block comment after its opening, up to and including its end. -/
def blockEnd : Measure
  | [] => 0
  | '*' :: '/' :: _ => 2
  | character :: text =>
    if isPresent character then
      match blockEnd text with
      | 0 => 0
      | length => length + 1
    else 0

def blockComment : Measure :=
  andThen (literal ['/', '*']) blockEnd

/-- A stretch of white space, or a comment. -/
def trivia : Measure :=
  longer blanks (longer lineComment blockComment)

/-- The markup comment signs, which comment out the rest of their line. -/
def markupComment : Measure :=
  andMaybe (longer (literal ['<', '!', '-', '-']) (literal ['-', '-', '>']))
    (stretch fun character => isPresent character && !isLineFeed character)

/-- A first line that names an interpreter. -/
def interpreterLine : Measure :=
  andMaybe (literal ['#', '!'])
    (stretch fun character => isPresent character && character != '\n')

end Measure

/-- The classes of tokens that the grammar mentions. -/
inductive Lexeme where
  | literal (text : String)
  | word (word : String)
  | operator (operators : List String)
  | name
  | identifier
  | privateName
  | hyphenated
  | number
  | string
  | regex
  | templateText
  | elementText
  | attributeString
  | closing
  | markupComment
  | interpreterLine
deriving DecidableEq, Repr

namespace Lexeme

/-- How far a token of a class reaches at the front of a text. -/
def measure : Lexeme → Measure
  | literal text => Measure.literal text.toList
  | word expected => Measure.word expected
  | operator expected => Measure.operator expected
  | name => Measure.name
  | identifier => Measure.identifier
  | privateName => Measure.andThen (Measure.one (· == '#')) Measure.name
  | hyphenated => Measure.hyphenated
  | number => Measure.number
  | string => Measure.stringLiteral
  | regex => Measure.regexLiteral
  | templateText => Measure.templateText
  | elementText => Measure.elementText
  | attributeString => Measure.attributeString
  | closing => Measure.literal ['<', '/']
  | markupComment => Measure.markupComment
  | interpreterLine => Measure.interpreterLine

/-- Whether a text begins the way a token of a class does.  Where this holds a grammar expects the
whole token. -/
def begins (lexeme : Lexeme) (text : List Char) : Bool :=
  match lexeme, text with
  | name, first :: _ => startsName first
  | identifier, first :: _ =>
    startsName first && !reservedWords.any fun word => Measure.startsWith word.toList text
  | privateName, first :: _ => first == '#'
  | number, '.' :: next :: _ => next.isDigit
  | number, first :: _ => first.isDigit
  | string, first :: _ | attributeString, first :: _ => first == '"' || first == '\''
  | regex, first :: _ => first == '/'
  | lexeme, text => lexeme.measure text != 0
where
  startsName (first : Char) : Bool :=
    isNamePart first && !first.isDigit || first == '\\'

/-- Cut the token of a class off the front of a text. -/
def split? (lexeme : Lexeme) (text : List Char) : Option (List Char × List Char) :=
  match lexeme.measure text with
  | 0 => none
  | length => some (text.take length, text.drop length)

/-- Cutting a token off loses nothing. -/
theorem append_of_split? {lexeme : Lexeme} {text token rest : List Char}
    (cut : lexeme.split? text = some (token, rest)) : token ++ rest = text := by
  unfold split? at cut
  split at cut
  · contradiction
  · obtain ⟨rfl, rfl⟩ := Prod.mk.inj (Option.some.inj cut)
    exact List.take_append_drop _ _

end Lexeme

end Phrasebook.Markup
