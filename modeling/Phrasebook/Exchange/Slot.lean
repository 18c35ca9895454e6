import Phrasebook.Markup.Literal
import Phrasebook.Markup.Element
import Phrasebook.Markup.Script
import Phrasebook.Text.Quoted

/-!
# Slots of renderings

The slots of a rendering are the elements with the marker tag in the body of
its function.
-/

namespace Phrasebook.Exchange

open Markup

/-- What is put in front of a body to make it a function. -/
def functionHead : List Char :=
  "()=>".toList

/-- The elements with the marker tag in a script. -/
def slotsIn (marker : String) (script : Tree) : List Site :=
  (Site.root script).walk.filter fun site => site.tree.isTagged marker.toList

/-- The elements with the marker tag in a body, if it is the body of a function. -/
def slots? (marker body : String) : Option (List Site) :=
  match Script.read (functionHead ++ body.toList) with
  | .ok script => some (slotsIn marker script)
  | .error _ => none

/-- How many characters the bytes up to an offset make. -/
def charactersUpTo (bytes : List UInt8) (offset : Nat) : Nat :=
  (Text.Source.ofBytes (bytes.take offset)).characters.length

/-- Where a slot starts and ends in its body, in characters. -/
def span (bytes : List UInt8) (slot : Site) : Nat × Nat :=
  (charactersUpTo bytes slot.start - functionHead.length,
    charactersUpTo bytes slot.stop - functionHead.length)

/-- Why the slots of a book cannot be read or filled. -/
inductive SlotFault where
  | notParsed (body : String)
  | otherCount (key language marker : String) (expected found : Nat)
  | notSingle (key language marker : String) (found : Nat)
  | spread (text : String)
  | elementAsValue (kind : Kind)
deriving DecidableEq, Repr

def SlotFault.message : SlotFault → String
  | notParsed body => "function body does not parse: " ++ Text.quoted body
  | otherCount key language marker expected found =>
    key ++ "/" ++ language ++ ": found unexpected number of <" ++ marker ++ ">-tags (expected " ++
      Nat.repr expected ++ ", found " ++ Nat.repr found ++ ")"
  | notSingle key language marker found =>
    key ++ "/" ++ language ++ ": expected only one <" ++ marker ++ ">-tag for " ++
      "expression function body, but found " ++ Nat.repr found
  | spread text => "cannot export spread attribute " ++ Text.quoted text
  | elementAsValue kind => "unhandled tag attribute value type: " ++ kind.title

/-- Where the slots of a body start and end, in characters. -/
def slotSpans (marker body : String) : Except SlotFault (List (Nat × Nat)) :=
  match slots? marker body with
  | some slots => .ok (slots.map (span (Text.encoded (functionHead ++ body.toList))))
  | none => .error (.notParsed body)

end Phrasebook.Exchange
