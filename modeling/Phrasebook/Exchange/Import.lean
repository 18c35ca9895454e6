import Phrasebook.Book.Basic
import Phrasebook.Exchange.Markup
import Phrasebook.Exchange.Slot

/-!
# Importing documents

`importDocument` fills the slots of a book with what stands in a document.
The number of slots in a rendering must not change.
-/

namespace Phrasebook.Exchange

/-- Where the slots of a rendering are, if there are as many as expected. -/
def locate (key marker : String) (expected : Nat) (rendering : Rendering) (body : String) :
    Except SlotFault (List (Nat × Nat)) := do
  let spans ← slotSpans marker body
  if spans.length != expected then
    throw (.otherCount key rendering.language marker expected spans.length)
  if rendering.form == .expression && expected != 1 then
    throw (.notSingle key rendering.language marker expected)
  return spans

def fillSlot (indent marker : String) (body : List Char) (span : Nat × Nat) (nodes : List Node) :
    List Char :=
  body.take span.1 ++
    ("<" ++ marker ++ ">" ++ nodesMarkup indent nodes ++ "</" ++ marker ++ ">").toList ++
    body.drop span.2

/-- Fill the slots of a body from an index on, looking at the slots anew each time. -/
def fillFrom (indent key marker : String) (expected : Nat) (rendering : Rendering) :
    Nat → List (List Node) → String → Except SlotFault String
  | _, [], body => do
    let _ ← locate key marker expected rendering body
    return body
  | index, nodes :: others, body => do
    let spans ← locate key marker expected rendering body
    let span := spans[index]?.getD (0, 0)
    let body := String.ofList (fillSlot indent marker body.toList span nodes)
    fillFrom indent key marker expected rendering (index + 1) others body

def fill (indent key marker : String) (rendering : Rendering) (slots : List (List Node)) :
    Except SlotFault Rendering := do
  let body ← fillFrom indent key marker slots.length rendering 0 slots rendering.body
  return { rendering with body }

/-- What an import has done to a book when it ends, and the fault that ended it. -/
structure Imported where
  book : Book
  /-- The keys of the entries that were filled. -/
  keys : List String := []
  /-- Keys and languages of wordings for which there is no rendering. -/
  skipped : List (String × String) := []
  fault? : Option SlotFault := none

/-- Put a rendering in the place of the first one in its language. -/
def replaceRendering (rendering : Rendering) : List Rendering → List Rendering
  | [] => []
  | first :: others =>
    if first.language == rendering.language then rendering :: others
    else first :: replaceRendering rendering others

/-- An entry while it is filled. -/
structure Filling where
  entry : Entry
  skipped : List (String × String) := []
  fault? : Option SlotFault := none

/-- Fill the slots of one rendering of an entry; after a fault nothing is filled. -/
def fillWording (indent marker : String) (filling : Filling) (wording : Wording) :
    Filling :=
  let entry := filling.entry
  match filling.fault? with
  | some _ => filling
  | none =>
    match entry.rendering? wording.language with
    | none =>
      { filling with skipped := filling.skipped ++ [(entry.key, wording.language)] }
    | some rendering =>
      match fill indent entry.key marker rendering wording.slots with
      | .error fault => { filling with fault? := some fault }
      | .ok rendering =>
        let renderings := replaceRendering rendering entry.renderings
        { filling with entry := { entry with renderings } }

def fillEntry (indent marker : String) (entry : Entry) (item : Item) : Filling :=
  item.wordings.foldl (fillWording indent marker)
    { entry := { entry with isNew := item.isNew?.getD entry.isNew } }

/-- The item for a key; the last one counts. -/
def Document.item? (document : Document) (key : String) : Option Item :=
  document.items.reverse.find? (·.key == key)

/-- Fill entries, leaving them as they are after a fault. -/
def fillEntries (indent marker : String) (document : Document) (imported : Imported) :
    List Entry → Imported
  | [] => imported
  | entry :: entries =>
    let keep := fun (entry : Entry) =>
      { imported.book with entries := imported.book.entries ++ [entry] }
    match imported.fault?, document.item? entry.key with
    | none, some item =>
      let filling := fillEntry indent marker entry item
      let keys := if filling.fault?.isSome then [] else [entry.key]
      fillEntries indent marker document
        { book := keep filling.entry, keys := imported.keys ++ keys,
          skipped := imported.skipped ++ filling.skipped, fault? := filling.fault? }
        entries
    | _, _ =>
      fillEntries indent marker document { imported with book := keep entry } entries

/-- Fill the slots of a book with what stands in a document. -/
def importDocument (indent marker : String) (document : Document) (book : Book) : Imported :=
  fillEntries indent marker document { book := { book with entries := [] } } book.entries

end Phrasebook.Exchange
