import Phrasebook.Markup.Lexeme
import Phrasebook.Markup.Tree

/-!
# Expressions read as patterns

A bracketed text is read as an expression before it is known whether it is the
target of an assignment or a parameter list.  The conversions here give such a
tree its final kinds.  They change kinds only, so the text of a tree stays.
-/

namespace Phrasebook.Markup

namespace Tree

mutual

/-- An expression as the target of an assignment inside a pattern. -/
def asPattern : Tree → Option Tree
  | leaf .identifier text => some (leaf .identifier text)
  | leaf .undefined text => some (leaf .undefined text)
  | leaf _ _ => none
  | node .member children => some (node .member children)
  | node .subscript children => some (node .subscript children)
  | node .object children => (asPatternsAll children).map (node .objectPattern)
  | node .array children => (asPatternsAll children).map (node .arrayPattern)
  | node .objectPattern children => some (node .objectPattern children)
  | node .arrayPattern children => some (node .arrayPattern children)
  | node .assignment (target :: rest) =>
    if target.kind == .parenthesized then none
    else some (node .assignmentPattern (target :: rest))
  | node .spread children => (asPatternsAll children).map (node .restPattern)
  | node .pair (key :: rest) => (asPatternsAll rest).map fun rest => node .pairPattern (key :: rest)
  | node .shorthandDefault (leaf .shorthandIdentifier text :: rest) =>
    some (node .objectAssignmentPattern (leaf .shorthandPattern text :: rest))
  | node _ _ => none

/-- Every part of a bracketed expression as a part of a pattern. -/
def asPatternsAll : List Tree → Option (List Tree)
  | [] => some []
  | leaf .shorthandIdentifier text :: trees =>
    (asPatternsAll trees).map (leaf .shorthandPattern text :: ·)
  | tree :: trees =>
    if tree.isContent then
      match tree.asPattern, asPatternsAll trees with
      | some tree, some trees => some (tree :: trees)
      | _, _ => none
    else (asPatternsAll trees).map (tree :: ·)

end

/-- The parts of a sequence stand beside each other in a parameter list. -/
def spliceSequences (trees : List Tree) : List Tree :=
  trees.flatMap fun
    | node .sequence children => children
    | tree => [tree]

/-- Whether an item stands before every comma, given whether one stands before the trees. -/
def isListed : Bool → List Tree → Bool
  | _, [] => true
  | afterItem, tree :: trees =>
    if tree.isSymbol "," then afterItem && isListed false trees
    else isListed (afterItem || tree.isContent) trees

/-- A parenthesized expression or an argument list as a parameter list. -/
def asParameters : Tree → Option Tree
  | node .parenthesized children | node .arguments children =>
    let trees := spliceSequences children
    if isListed false trees then (asPatternsAll trees).map (node .formalParameters) else none
  | _ => none

/-- A call whose function is named by a word that was read as a keyword. -/
def asNamedCall : Tree → Option Tree
  | node .call (leaf .symbol word :: rest) => some (node .call (leaf .identifier word :: rest))
  | _ => none

/-- The target of a plain assignment. -/
def asTarget (tree : Tree) : Option Tree :=
  if tree.kind == .parenthesized then some tree
  else if tree.isContent && tree.kind != .assignment && tree.kind != .spread then tree.asPattern
  else none

/-- The target of an assignment that also reads its target. -/
def asUpdatedTarget (tree : Tree) : Option Tree :=
  match tree.kind with
  | .identifier | .undefined | .member | .subscript | .parenthesized => some tree
  | _ => none

/-- A declared name or pattern. -/
def asBinding (tree : Tree) : Option Tree :=
  match tree.kind with
  | .identifier | .undefined | .object | .array => tree.asPattern
  | _ => none

/-- Whether a list of items in parentheses ends with a comma or holds a spread. -/
def isItemList (tree : Tree) : Bool :=
  tree.kind == .spread || tree.kind == .sequence &&
    (tree.children.any (·.kind == .spread) || tree.children.getLast?.any (·.isSymbol ","))

/-- A parenthesized expression holds one expression or a sequence of them, without spreads and
without a trailing comma. -/
def asGrouping : Tree → Option Tree
  | node .parenthesized children =>
    match children.filter isContent with
    | [inner] => if inner.isItemList then none else some (node .parenthesized children)
    | _ => none
  | _ => none

def asKeyword : Tree → Option Tree
  | leaf .identifier text | leaf .propertyIdentifier text | leaf .importWord text =>
    some (leaf .symbol text)
  | _ => none

/-- A name as the label of a statement. -/
def asLabel : Tree → Option Tree
  | leaf .identifier text => some (leaf .label text)
  | _ => none

/-- The name of an attribute as the first segment of a name with a namespace. -/
def asSegment : Tree → Option Tree
  | leaf .propertyIdentifier text =>
    if isReserved text then none else some (leaf .identifier text)
  | _ => none

/-- A property name as a member of its own, where it must be an identifier. -/
def asShorthand : Tree → Option Tree
  | leaf .propertyIdentifier text =>
    if isReserved text then none else some (leaf .shorthandIdentifier text)
  | _ => none

/-- A tree in which every pattern has been recognised as one. -/
def asSettled (tree : Tree) : Option Tree :=
  if tree.anyKind (· == .shorthandDefault) then none else some tree

end Tree

/-- The conversions that the grammar mentions. -/
inductive Reading where
  | parameters
  | namedCall
  | target
  | updatedTarget
  | binding
  | grouping
  | keyword
  | label
  | segment
  | shorthand
  | settled
deriving DecidableEq, Repr

/-- Convert a tree to what it turned out to be. -/
def Reading.apply : Reading → Tree → Option Tree
  | parameters => Tree.asParameters
  | namedCall => Tree.asNamedCall
  | target => Tree.asTarget
  | updatedTarget => Tree.asUpdatedTarget
  | binding => Tree.asBinding
  | grouping => Tree.asGrouping
  | keyword => Tree.asKeyword
  | label => Tree.asLabel
  | segment => Tree.asSegment
  | shorthand => Tree.asShorthand
  | settled => Tree.asSettled

end Phrasebook.Markup
