import Phrasebook.Markup.Site
import Phrasebook.Text.Source

/-!
# Elements of markup

The parts of an element: its name, its attributes and its children.  The
children are the nested elements and the containers of expressions, with the
text in between taken together and kept as it is.
-/

namespace Phrasebook.Markup

/-- A child of an element. -/
inductive Child where
  | text (characters : List Char)
  | tag (element : Tree)
  | container (container : Tree)
deriving Inhabited

namespace Child

def source : Child → List Char
  | text characters => characters
  | tag element => element.text
  | container tree => tree.text

end Child

/-- A child of an element and the bytes that it takes. -/
structure Piece where
  child : Child
  start : Nat
  stop : Nat

namespace Tree

/-- The tree that holds the name and the attributes of an element. -/
def opening (element : Tree) : Tree :=
  match element.kind with
  | .selfClosingElement => element
  | _ => (element.children.find? (·.kind == .openingTag)).getD element

/-- Trees that can be the name of an element. -/
def isTagName (tree : Tree) : Bool :=
  match tree.kind with
  | .identifier | .member | .namespacedName => true
  | _ => false

/-- The name of an element, if it has one. -/
def elementName? (element : Tree) : Option (List Char) :=
  if element.kind.isElement then
    (element.opening.contents.find? isTagName).map text
  else none

/-- Whether a tree is an element with a given name. -/
def isTagged (tag : List Char) (tree : Tree) : Bool :=
  tree.elementName? == some tag

/-- The trees between the two tags of an element. -/
def inner (element : Tree) : List Tree :=
  match element with
  | node .element children =>
    children.filter fun child => child.kind != .openingTag && child.kind != .closingTag
  | _ => []

/-- The source text between the two tags of an element. -/
def body (element : Tree) : List Char :=
  textAll element.inner

/-- Put a piece of text in front of children, into the first one if that is text as well. -/
def consText (characters : List Char) (children : List Child) : List Child :=
  match characters, children with
  | [], _ => children
  | _, .text more :: others => .text (characters ++ more) :: others
  | _, _ => .text characters :: children

/-- The children that neighbouring trees make. -/
def childrenOf : List Tree → List Child
  | [] => []
  | tree :: trees =>
    if tree.kind.isElement then .tag tree :: childrenOf trees
    else if tree.kind == .container then .container tree :: childrenOf trees
    else consText tree.text (childrenOf trees)

def elementChildren (element : Tree) : List Child :=
  childrenOf element.inner

end Tree

namespace Site

/-- The site of the tree that holds the name and the attributes of an element. -/
def opening (site : Site) : Site :=
  match site.tree.kind with
  | .selfClosingElement => site
  | _ => (site.children.find? (·.tree.kind == .openingTag)).getD site

/-- The attributes of an element and the containers that stand among them. -/
def attributes (element : Site) : List Site :=
  element.opening.contents.filter fun child =>
    child.tree.kind == .attribute || child.tree.kind == .container

def attributeName (site : Site) : List Char :=
  match site.contents with
  | name :: _ => name.text
  | [] => []

/-- The value of an attribute, if it has one. -/
def attributeValue? (site : Site) : Option Site :=
  site.contents[1]?

/-- The expression in a container or between parentheses, if there is one. -/
def expression? (container : Site) : Option Site :=
  container.contents.head?

/-- The sites between the two tags of an element. -/
def inner (element : Site) : List Site :=
  match element.tree.kind with
  | .element =>
    element.children.filter fun child =>
      child.tree.kind != .openingTag && child.tree.kind != .closingTag
  | _ => []

/-- The tag that closes an element, if there is one. -/
def closing? (element : Site) : Option Site :=
  match element.tree.kind with
  | .element => element.children.reverse.find? (·.tree.kind == .closingTag)
  | _ => none

/-- The child that a site is of its parent, if it is code. -/
def child? (site : Site) : Option Child :=
  if site.tree.kind.isElement then some (.tag site.tree)
  else if site.tree.kind == .container then some (.container site.tree)
  else none

/-- The text between two offsets, if they are not the same. -/
def textBetween (bytes : List UInt8) (start stop : Nat) : List Piece :=
  if start < stop then
    [⟨.text (Text.Source.ofBytes ((bytes.take stop).drop start)).characters, start, stop⟩]
  else []

/-- The code among sites between two offsets, with the text between a cursor and each of them; the
cursor is moved behind it then. -/
def piecesFrom (bytes : List UInt8) (start stop : Nat) : Nat → List Site → List Piece
  | cursor, [] => textBetween bytes cursor stop
  | cursor, site :: sites =>
    if site.start < start || stop < site.stop then piecesFrom bytes start stop cursor sites
    else
      match site.child? with
      | none => piecesFrom bytes start stop cursor sites
      | some child =>
        textBetween bytes cursor site.start ++
          ⟨child, site.start, site.stop⟩ :: piecesFrom bytes start stop site.stop sites

/-- The children of an element of a file with the bytes that they take. -/
def pieces (bytes : List UInt8) (element : Site) : List Piece :=
  let start := element.opening.stop
  let stop := (element.closing?.map Site.start).getD start
  piecesFrom bytes start stop start element.children

end Site

end Phrasebook.Markup
