import Phrasebook.Markup.Element
import Phrasebook.Phrase.Usage
import Phrasebook.Place
import Phrasebook.Text.Uppercase

/-!
# What a phrase depends on

A phrase depends on everything that must be handed to it to show it again: the
components that its tags name and the free names in its expressions.  Reading
the children of a phrase gives a list of findings in the order of the text;
the first forbidden finding is an error, and otherwise the names are the
dependencies.
-/

namespace Phrasebook.Phrase

open Markup

/-- How a tree relates to the one around it. -/
inductive Role where
  /-- A part of the name of a tag. -/
  | tagSegment
  /-- A part of an access other than the thing accessed. -/
  | accessor
  | other
deriving DecidableEq, Repr

/-- What a tree contributes to the dependencies of a phrase. -/
inductive Finding where
  | name (name : String)
  | forbidden (fault : UsageFault)
deriving DecidableEq, Repr

/-- Names whose first character is the same in uppercase are components. -/
def isComponentName (name : List Char) : Bool :=
  match name with
  | [] => false
  | first :: _ => !Text.changesWhenUppercased first

/-- The role of a child, given the tree around it, the role of that tree and whether the child is
its first. -/
def Role.ofChild (around : Kind) (role : Role) (isFirst : Bool) : Role :=
  if around == .member && role == .tagSegment then .tagSegment
  else if around.isTagNameOwner then .tagSegment
  else if around.isAccess && !isFirst then .accessor
  else .other

def ownName? (role : Role) : Tree → Option String
  | .leaf .identifier text =>
    match role with
    | .tagSegment => if isComponentName text then some (String.ofList text) else none
    | .accessor => none
    | .other => some (String.ofList text)
  | .leaf .propertyIdentifier text =>
    if role == .tagSegment && isComponentName text then some (String.ofList text) else none
  | .leaf .shorthandIdentifier text => some (String.ofList text)
  | _ => none

/-- Why a tree by itself may not stand in a phrase. -/
def ownFault? (tag : String) (tree : Tree) : Option UsageFault :=
  if tree.kind == .thisWord then some (.holdsThis tag)
  else if tree.kind.isFunction then some .holdsFunction
  else if tree.isTagged tag.toList then some (.nested tag)
  else none

/-- What a tree by itself contributes. -/
def ownFindings (tag : String) (role : Role) (tree : Tree) : List Finding :=
  match ownFault? tag tree with
  | some fault => [.forbidden fault]
  | none =>
    match ownName? role tree with
    | some name => [.name name]
    | none => []

mutual

/-- The findings of a tree that starts on a line, each with its line. -/
def findings (tag : String) (role : Role) (line : Nat) : Tree → List (Nat × Finding)
  | .leaf kind text => (ownFindings tag role (.leaf kind text)).map fun found => (line, found)
  | .node kind children =>
    (ownFindings tag role (.node kind children)).map (fun found => (line, found)) ++
      findingsAll tag kind role true line children

/-- The findings of the remaining children of a tree. -/
def findingsAll (tag : String) (around : Kind) (role : Role) (isFirst : Bool) (line : Nat) :
    List Tree → List (Nat × Finding)
  | [] => []
  | tree :: trees =>
    findings tag (Role.ofChild around role isFirst) line tree ++
      findingsAll tag around role false (line + lineFeeds tree.text) trees

end

/-- The findings of the children of an element, of which the text has none. -/
def childFindings (tag : String) (line : Nat) : List Child → List (Nat × Finding)
  | [] => []
  | child :: children =>
    let own :=
      match child with
      | .text _ => []
      | .tag tree | .container tree => findings tag .other line tree
    own ++ childFindings tag (line + lineFeeds child.source) children

/-- The first forbidden finding, with its line. -/
def firstForbidden? (found : List (Nat × Finding)) : Option (Nat × UsageFault) :=
  found.findSome? fun
    | (line, .forbidden fault) => some (line, fault)
    | _ => none

def foundNames (found : List (Nat × Finding)) : List String :=
  found.filterMap fun
    | (_, .name name) => some name
    | _ => none

/-- The dependencies of children that start on a line: sorted and each once, or the first thing
that is forbidden. -/
def namesNeeded (tag : String) (line : Nat) (children : List Child) :
    Except (Nat × UsageFault) (List String) :=
  let found := childFindings tag line children
  match firstForbidden? found with
  | some forbidden => .error forbidden
  | none => .ok (sortedTexts (foundNames found))

end Phrasebook.Phrase
