/-!
# Replacing parts of texts

A part of a text is replaced wherever it occurs.  Occurrences are looked for
from the left, and the next one begins behind the last one.
-/

namespace Phrasebook.Text

/-- Replace a part in a text whose first `skipped` characters belong to an occurrence that is
replaced already. -/
def replaceFrom (part replacement : List Char) : Nat → List Char → List Char
  | _, [] => []
  | skipped + 1, _ :: text => replaceFrom part replacement skipped text
  | 0, character :: text =>
    if part.isPrefixOf (character :: text) then
      replacement ++ replaceFrom part replacement (part.length - 1) text
    else character :: replaceFrom part replacement 0 text

/-- A text with a replacement for every occurrence of a part that is not empty. -/
def replace (part replacement text : List Char) : List Char :=
  replaceFrom part replacement 0 text

end Phrasebook.Text
