import Phrasebook.Phrase.Normal
import Phrasebook.Text.Sha256

/-!
# Keys of phrases

A phrase is identified by its normal form, its context and the names that it
depends on.  These make its signature, and the key is the start of the hash of
the signature.
-/

namespace Phrasebook.Phrase

/-- The signature of a phrase, its parts separated by null characters. -/
def signatureOf (normal context : String) (dependencies : List String) : String :=
  normal ++ "\x00" ++ context ++ "\x00" ++ ",".intercalate dependencies

/-- The number of hexadecimal digits of a key. -/
def keyLength : Nat :=
  12

def keyOf (signature : String) : String :=
  let hash := (Text.Sha256.hash (signature.toList.flatMap String.utf8EncodeChar)).hex
  String.ofList (hash.toList.take keyLength)

end Phrasebook.Phrase
