import Phrasebook.Value

/-!
# Normal forms of phrases

The space in a phrase that its layout in the source brings about does not
count for its identity.  Each version of the normal form is a list of edits
of the whole text, and versions are never changed once they are in use.
-/

namespace Phrasebook.Phrase

/-- The characters between words on a line. -/
def isGap (character : Char) : Bool :=
  character == ' ' || character == '\t'

def endsLine (character : Char) : Bool :=
  character == '\n' || character == '\r' || character == '\u2028' || character == '\u2029'

/-- Drop the gaps at the start of every line, where the flag says whether a line starts here. -/
def dropIndent : Bool → List Char → List Char
  | _, [] => []
  | atStart, character :: text =>
    if atStart && isGap character then dropIndent true text
    else character :: dropIndent (endsLine character) text

/-- Drop the gaps at the start and at the end of every line. -/
def trimLines (text : List Char) : List Char :=
  (dropIndent true (dropIndent true text).reverse).reverse

/-- Make every gap a single space. -/
def collapseGaps : List Char → List Char
  | [] => []
  | character :: text =>
    if isGap character then
      match text with
      | [] => [' ']
      | next :: _ => if isGap next then collapseGaps text else ' ' :: collapseGaps text
    else character :: collapseGaps text

/-- The known versions of the normal form. -/
inductive Version where
  /-- Lines are trimmed and gaps collapsed; lines stay apart. -/
  | byLine
  /-- Carriage returns are dropped and line feeds count as gaps. -/
  | joined
deriving DecidableEq, Repr, Inhabited

/-- Why no version is meant. -/
inductive VersionFault where
  | notNumber (written : String)
  | unknown (number : Int)
deriving DecidableEq, Repr

namespace Version

def known : List Version :=
  [byLine, joined]

def ofNumber (number : Int) : Except VersionFault Version :=
  match number with
  | .ofNat index =>
    match known[index]? with
    | some version => .ok version
    | none => .error (.unknown number)
  | .negSucc _ => .error (.unknown number)

/-- The version that a value gives by its number. -/
def ofValue (value : Value) : Except VersionFault Version :=
  match value with
  | .integer number => ofNumber number
  | _ => .error (.notNumber value.written)

def normalize : Version → List Char → List Char
  | byLine, text => collapseGaps (trimLines text)
  | joined, text =>
    collapseGaps
      ((trimLines (text.filter (· != '\r'))).map fun character =>
        if character == '\n' then ' ' else character)

end Version

/-- What is said about a version that is not known. -/
def VersionFault.message (fault : VersionFault) : String :=
  let start := "invalid signature normalizer version: "
  match fault with
  | notNumber written => start ++ written
  | unknown number =>
    start ++ toString number ++ " (known versions: 0.." ++
      Nat.repr (Version.known.length - 1) ++ ")"

end Phrasebook.Phrase
