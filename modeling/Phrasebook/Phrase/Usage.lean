import Phrasebook.Markup.Kind

/-!
# Misuse of markup

What can be wrong with a marked phrase in a source, and what is said about it.
-/

namespace Phrasebook.Phrase

/-- A rule about marked phrases that a source breaks. -/
inductive UsageFault where
  | notAScript
  | notMarked
  | nested (tag : String)
  | noClosingTag (tag : String)
  | spreadAttribute
  | contextNotLiteral
  | unknownAttribute (name : String)
  | dependenciesNotContained
  | dependenciesNotListed
  | dependencyNotName (kind : Markup.Kind)
  | holdsThis (tag : String)
  | holdsFunction
deriving DecidableEq, Repr

/-- What is said about a broken rule. -/
def UsageFault.message : UsageFault → String
  | notAScript => "syntax error"
  | notMarked => "expected translation tag node"
  | nested tag => "translation <" ++ tag ++ ">-tags cannot be nested"
  | noClosingTag tag => "translation <" ++ tag ++ ">-tags must have a closing tag"
  | spreadAttribute => "spread attributes are not allowed on translation tags"
  | contextNotLiteral => "expected string literal for 'context' attribute"
  | unknownAttribute name => "invalid attribute name: '" ++ name ++ "'"
  | dependenciesNotContained => "expected jsx expression for 'deps' attribute"
  | dependenciesNotListed => "expected jsx expression containing array for 'deps' attribute"
  | dependencyNotName kind => "expected Identifier in 'deps' array, got " ++ kind.title
  | holdsThis tag => "'this' is not allowed within <" ++ tag ++ ">-tags"
  | holdsFunction => "translation tags cannot have inline functions"

/-- A broken rule and the line that breaks it. -/
structure UsageError where
  path : String
  line : Nat
  fault : UsageFault
deriving DecidableEq, Repr

def UsageError.message (error : UsageError) : String :=
  "at " ++ error.path ++ ":" ++ Nat.repr error.line ++ ": " ++ error.fault.message

end Phrasebook.Phrase
