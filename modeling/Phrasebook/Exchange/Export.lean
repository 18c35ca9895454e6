import Phrasebook.Book.Basic
import Phrasebook.Exchange.Document
import Phrasebook.Exchange.Slot

/-!
# Exporting books

`Document.ofBook` gives what stands in the slots of a book.
-/

namespace Phrasebook.Exchange

open Markup

def exportValue (value : Tree) : Except SlotFault AttributeValue :=
  match value.kind with
  | .string =>
    let quote := if value.text.head? == some '\'' then Quote.single else .double
    .ok (.text quote (Literal.attributeMeaning value.text))
  | .container => .ok (.code (String.ofList value.text))
  | kind => .error (.elementAsValue kind)

/-- The attribute of a document that an attribute of an element is. -/
def exportAttribute (member : Tree) : Except SlotFault Attribute :=
  match member.kind with
  | .attribute =>
    let name := (member.contents[0]?.map Tree.text).getD []
    match member.contents[1]? with
    | none => .ok ⟨String.ofList name, none⟩
    | some value =>
      (exportValue value).map fun value => ⟨String.ofList name, some value⟩
  | _ => .error (.spread (String.ofList member.text))

/-- The attributes of an element and the containers that stand among them. -/
def attributesOf (element : Tree) : List Tree :=
  element.opening.contents.filter fun child =>
    child.kind == .attribute || child.kind == .container

/-- Put a piece of text in front of nodes, into the first one if that is text as well. -/
def consText (text : List Char) (nodes : List Node) : List Node :=
  match text, nodes with
  | [], _ => nodes
  | _, .text more :: others => .text (String.ofList text ++ more) :: others
  | _, _ => .text (String.ofList text) :: nodes

mutual

/-- The node that a tree inside an element is, unless it is text. -/
def exportTree (tree : Tree) : Except SlotFault (Option Node) :=
  match tree with
  | .node .element children => do
    let entries ← (attributesOf tree).mapM exportAttribute
    let inner ← exportTrees children
    return some (.tag (String.ofList (tree.elementName?.getD [])) entries inner)
  | .node .selfClosingElement _ => do
    let entries ← (attributesOf tree).mapM exportAttribute
    return some (.tag (String.ofList (tree.elementName?.getD [])) entries [])
  | .node .container _ => .ok (some (.code (String.ofList tree.text)))
  | _ => .ok none

/-- The nodes that the trees of an element make; its own tags make none. -/
def exportTrees : List Tree → Except SlotFault (List Node)
  | [] => .ok []
  | tree :: trees =>
    if tree.kind == .openingTag || tree.kind == .closingTag then exportTrees trees
    else do
      let node? ← exportTree tree
      let nodes ← exportTrees trees
      match node? with
      | some node => return node :: nodes
      | none => return consText tree.text nodes

end

/-- The nodes in a slot. -/
def exportSlot (slot : Tree) : Except SlotFault (List Node) :=
  match slot with
  | .node .element children => exportTrees children
  | _ => .ok []

def exportRendering (marker : String) (rendering : Rendering) : Except SlotFault Wording := do
  let slots := (slots? marker rendering.body).getD []
  return ⟨rendering.language, ← slots.mapM fun slot => exportSlot slot.tree⟩

def exportEntry (marker : String) (entry : Entry) : Except SlotFault Item := do
  let wordings ← entry.renderings.mapM (exportRendering marker)
  return ⟨entry.key, some entry.isNew, entry.isDeleted, wordings⟩

def Document.ofBook (marker : String) (book : Book) : Except SlotFault Document := do
  return ⟨← book.entries.mapM (exportEntry marker)⟩

end Phrasebook.Exchange
