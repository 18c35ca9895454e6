import Phrasebook.Value

/-!
# Documents for editing

A document holds what stands in the slots of every rendering of a book, as
trees of text, tags and code that can be edited without knowing the source
language.
-/

namespace Phrasebook.Exchange

/-- The quote around the text of an attribute. -/
inductive Quote where
  | double
  | single
deriving DecidableEq, Repr, Inhabited

def Quote.character : Quote → Char
  | double => '"'
  | single => '\''

inductive AttributeValue where
  | text (quote : Quote) (value : String)
  | code (source : String)
deriving DecidableEq, Repr, Inhabited

structure Attribute where
  name : String
  value? : Option AttributeValue := none
deriving DecidableEq, Repr, Inhabited

/-- A piece of what stands in a slot. -/
inductive Node where
  | text (value : String)
  | code (source : String)
  | tag (name : String) (attributes : List Attribute) (children : List Node)
deriving Repr, Inhabited

/-- What stands in the slots of one rendering. -/
structure Wording where
  language : String
  slots : List (List Node) := []
deriving Repr, Inhabited

/-- What stands in the slots of one entry. -/
structure Item where
  key : String
  isNew? : Option Bool := none
  isDeleted : Bool := false
  wordings : List Wording := []
deriving Repr, Inhabited

/-- What stands in the slots of a book. -/
structure Document where
  items : List Item := []
deriving Repr, Inhabited

def fields (entries : List (String × Value)) : Value :=
  .mapping (entries.map fun (name, value) => (.text name, value))

/-- The value that stands for the value of an attribute. -/
def AttributeValue.toValue : AttributeValue → Value
  | text quote value =>
    fields [("type", .text "text"), ("quote", .text (String.singleton quote.character)),
      ("value", .text value)]
  | code source => fields [("type", .text "expr"), ("code", .text source)]

/-- The value that stands for an attribute. -/
def Attribute.toValue (entry : Attribute) : Value :=
  fields [("name", .text entry.name),
    ("value", (entry.value?.map AttributeValue.toValue).getD .null)]

mutual

/-- The value that stands for a node. -/
def Node.toValue : Node → Value
  | .text value => fields [("type", .text "text"), ("value", .text value)]
  | .code source => fields [("type", .text "expr"), ("code", .text source)]
  | .tag name attributes children =>
    fields [("type", .text "tag"), ("name", .text name),
      ("attributes", .list (attributes.map Attribute.toValue)),
      ("children", .list (nodeValues children))]

def nodeValues : List Node → List Value
  | [] => []
  | node :: nodes => node.toValue :: nodeValues nodes

end

/-- The value that stands for a wording. -/
def Wording.toValue (wording : Wording) : Value :=
  fields [("lang", .text wording.language),
    ("markers", .list (wording.slots.map fun nodes => .list (nodeValues nodes)))]

/-- The value that stands for an item. -/
def Item.toValue (item : Item) : Value :=
  fields [("key", .text item.key), ("is_new", (item.isNew?.map Value.truth).getD .null),
    ("is_deleted", .truth item.isDeleted),
    ("translations", .list (item.wordings.map Wording.toValue))]

/-- The value that stands for a document. -/
def Document.toValue (document : Document) : Value :=
  fields [("entries", .list (document.items.map Item.toValue))]

end Phrasebook.Exchange
