import Phrasebook.Markup.Tree

/-!
# Sites

A site is a tree at its place in a larger one.  It keeps the text before the
tree, from which the line and the offset follow, and the trees around it.
-/

namespace Phrasebook.Markup

/-- A tree in its place. -/
structure Site where
  /-- The text before the tree, nearest character first. -/
  before : List Char
  /-- The trees around it, innermost first. -/
  around : List Tree
  tree : Tree
deriving Inhabited

/-- The number of bytes that a text takes. -/
def byteCount (text : List Char) : Nat :=
  text.foldl (fun count character => count + character.utf8Size) 0

def lineFeeds (text : List Char) : Nat :=
  text.count '\n'

namespace Site

/-- The number of the line on which the tree starts. -/
def line (site : Site) : Nat :=
  lineFeeds site.before + 1

/-- The number of bytes before the tree. -/
def start (site : Site) : Nat :=
  byteCount site.before

/-- The number of bytes up to the end of the tree. -/
def stop (site : Site) : Nat :=
  site.start + byteCount site.tree.text

def text (site : Site) : List Char :=
  site.tree.text

/-- The text before the tree on its own line. -/
def lineStart (site : Site) : List Char :=
  (site.before.takeWhile (· != '\n')).reverse

/-- Neighbouring trees after a text, each in its place. -/
def neighbours (before : List Char) (around : List Tree) : List Tree → List Site
  | [] => []
  | tree :: trees =>
    ⟨before, around, tree⟩ :: neighbours (tree.text.reverse ++ before) around trees

/-- The children of the tree, each in its place. -/
def children (site : Site) : List Site :=
  neighbours site.before (site.tree :: site.around) site.tree.children

/-- The children that are neither trivia nor punctuation. -/
def contents (site : Site) : List Site :=
  site.children.filter fun child => child.tree.isContent

mutual

/-- A tree and everything below it, in the order of the text. -/
def within (before : List Char) (around : List Tree) : Tree → List Site
  | .leaf kind text => [⟨before, around, .leaf kind text⟩]
  | .node kind children =>
    ⟨before, around, .node kind children⟩ ::
      withinAll before (.node kind children :: around) children

/-- Neighbouring trees and everything below them, in the order of the text. -/
def withinAll (before : List Char) (around : List Tree) : List Tree → List Site
  | [] => []
  | tree :: trees =>
    within before around tree ++ withinAll (tree.text.reverse ++ before) around trees

end

def root (tree : Tree) : Site :=
  ⟨[], [], tree⟩

/-- All sites below a site, itself included, in the order of the text. -/
def walk (site : Site) : List Site :=
  within site.before site.around site.tree

end Site

end Phrasebook.Markup
