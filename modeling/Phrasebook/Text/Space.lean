/-!
# White space

Three notions of white space occur in the library.  `isSpace` is the Unicode
property, `isStripped` is what trimming a configuration value removes, and
`isAsciiSpace` is what trimming raw bytes removes.
-/

namespace Phrasebook.Text

/-- The characters with the Unicode property `White_Space`. -/
def isSpace (character : Char) : Bool :=
  let code := character.toNat
  (0x09 ≤ code && code ≤ 0x0D) || code == 0x20 || code == 0x85 || code == 0xA0 ||
    code == 0x1680 || (0x2000 ≤ code && code ≤ 0x200A) || code == 0x2028 ||
    code == 0x2029 || code == 0x202F || code == 0x205F || code == 0x3000

/-- White space together with the four information separators. -/
def isStripped (character : Char) : Bool :=
  isSpace character || (0x1C ≤ character.toNat && character.toNat ≤ 0x1F)

/-- White space among the single bytes. -/
def isAsciiSpace (character : Char) : Bool :=
  character.toNat == 0x20 || (0x09 ≤ character.toNat && character.toNat ≤ 0x0D)

/-- Remove the characters of a class from both ends. -/
def trimBoth (drop : Char → Bool) (text : List Char) : List Char :=
  ((text.dropWhile drop).reverse.dropWhile drop).reverse

/-- Remove white space and information separators from both ends. -/
def strip (text : String) : String :=
  String.ofList (trimBoth isStripped text.toList)

end Phrasebook.Text
