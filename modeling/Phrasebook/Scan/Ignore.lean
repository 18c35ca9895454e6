import Phrasebook.Scan.Glob
import Phrasebook.Text.Lines
import Phrasebook.Text.Space

/-!
# Ignore files

An ignore file has a rule on each line.  A rule with a slash before its end is
about whole paths below the root, any other rule about names.  Of the rules
that are about a path, the last one decides.
-/

namespace Phrasebook.Scan

/-- A rule that ignores paths, or that takes back what earlier rules ignore. -/
structure Rule where
  pattern : String
  isForDirectories : Bool := false
  isAnchored : Bool := false
  isNegated : Bool := false
deriving DecidableEq, Repr

namespace Rule

/-- The rule on a line; comments and empty lines hold none. -/
def ofLine? (line : List Char) : Option Rule :=
  let line := Text.trimBoth Text.isStripped line
  let isNegated := line.head? == some '!'
  let pattern := if isNegated then line.drop 1 else line
  let bare := (pattern.reverse.dropWhile (· == '/')).reverse
  let name := bare.dropWhile (· == '/')
  if line.head? == some '#' || name.isEmpty then none
  else
    some {
      pattern := String.ofList name
      isForDirectories := pattern.getLast? == some '/'
      isAnchored := bare.contains '/'
      isNegated }

/-- Whether a rule is about a path, which is given by its names. -/
def isAbout (rule : Rule) (parts : List String) (isDirectory : Bool) : Bool :=
  (isDirectory || !rule.isForDirectories) &&
    hasForm rule.pattern
      (if rule.isAnchored then "/".intercalate parts else parts.getLast?.getD "")

end Rule

def rulesOf (text : String) : List Rule :=
  (Text.bareLines text.toList).filterMap Rule.ofLine?

/-- Whether rules ignore a path. A rule that is about it overrides the rules before. -/
def ignores (rules : List Rule) (parts : List String) (isDirectory : Bool) : Bool :=
  rules.foldl
    (fun isIgnored rule => if rule.isAbout parts isDirectory then !rule.isNegated else isIgnored)
    false

end Phrasebook.Scan
