/-!
# Lines of text

A line of text ends with any of the characters that end lines, and a carriage
return and a line feed in a row end it together.  The line after the last end
counts only if it holds something.
-/

namespace Phrasebook.Text

def isLineEnd (character : Char) : Bool :=
  let code := character.toNat
  (0x0A ≤ code && code ≤ 0x0D) || (0x1C ≤ code && code ≤ 0x1E) || code == 0x85 ||
    code == 0x2028 || code == 0x2029

/-- Put a character in front of the first of some lines. -/
def consLine (character : Char) (lines : List (List Char)) : List (List Char) :=
  match lines with
  | [] => [[character]]
  | line :: lines => (character :: line) :: lines

def wholeLines : List Char → List (List Char)
  | [] => []
  | '\r' :: '\n' :: text => ['\r', '\n'] :: wholeLines text
  | character :: text =>
    if isLineEnd character then [character] :: wholeLines text
    else consLine character (wholeLines text)

/-- The lines of a text without their ends. -/
def bareLines (text : List Char) : List (List Char) :=
  (wholeLines text).map fun line => (line.reverse.dropWhile isLineEnd).reverse

end Phrasebook.Text
