import Phrasebook.Markup.Kind

/-!
# Syntax trees

A tree holds every character of the source it was read from, comments and
blanks included, and no positions: the text of a node is the concatenation of
its leaves, and a position is the length of the text before it.
-/

namespace Phrasebook.Markup

/-- A lossless syntax tree. -/
inductive Tree where
  | leaf (kind : Kind) (text : List Char)
  | node (kind : Kind) (children : List Tree)
deriving Repr, Inhabited

namespace Tree

def kind : Tree → Kind
  | leaf kind _ => kind
  | node kind _ => kind

def children : Tree → List Tree
  | leaf _ _ => []
  | node _ children => children

mutual

def text : Tree → List Char
  | leaf _ text => text
  | node _ children => textAll children

/-- The source text of neighbouring trees. -/
def textAll : List Tree → List Char
  | [] => []
  | tree :: trees => tree.text ++ textAll trees

end

@[simp] theorem text_leaf (kind : Kind) (characters : List Char) :
    (leaf kind characters).text = characters := by
  rw [text]

@[simp] theorem text_node (kind : Kind) (children : List Tree) :
    (node kind children).text = textAll children := by
  rw [text]

@[simp] theorem textAll_nil : textAll [] = [] := by
  rw [textAll]

@[simp] theorem textAll_cons (tree : Tree) (trees : List Tree) :
    textAll (tree :: trees) = tree.text ++ textAll trees := by
  rw [textAll]

@[simp] theorem textAll_append (left right : List Tree) :
    textAll (left ++ right) = textAll left ++ textAll right := by
  induction left with
  | nil => simp
  | cons tree trees ih => simp [ih]

mutual

/-- Whether some node or leaf of a tree has a kind of the given class. -/
def anyKind (accepts : Kind → Bool) : Tree → Bool
  | leaf kind _ => accepts kind
  | node kind children => accepts kind || anyKindAll accepts children

/-- Whether some node or leaf of neighbouring trees has a kind of the given class. -/
def anyKindAll (accepts : Kind → Bool) : List Tree → Bool
  | [] => false
  | tree :: trees => tree.anyKind accepts || anyKindAll accepts trees

end

def isContent (tree : Tree) : Bool :=
  tree.kind.isContent

/-- The children that are neither trivia nor punctuation. -/
def contents (tree : Tree) : List Tree :=
  tree.children.filter isContent

def isSymbol (symbol : String) : Tree → Bool
  | leaf .symbol text => text == symbol.toList
  | _ => false

end Tree

end Phrasebook.Markup
