import Phrasebook.Text.Source

/-!
# Edits of a source

An edit replaces the bytes between two offsets.  The offsets of all edits are
those of the source as it was, so the last edit is made first: it moves nothing
that stands before it.
-/

namespace Phrasebook.Build

open Text (encoded)

/-- A replacement of the text between two byte offsets. -/
structure Edit where
  start : Nat
  stop : Nat
  text : List Char
deriving DecidableEq, Repr, Inhabited

/-- Make one edit to bytes. -/
def splice (bytes : List UInt8) (edit : Edit) : List UInt8 :=
  bytes.take edit.start ++ encoded edit.text ++ bytes.drop edit.stop

/-- Make edits to bytes, one after the other from the last to the first. -/
def applyEdits (edits : List Edit) (bytes : List UInt8) : List UInt8 :=
  (edits.mergeSort fun left right => decide (right.start ≤ left.start)).foldl splice bytes

end Phrasebook.Build
