/-!
# Kinds of syntax

The kinds of leaf and of inner node that the library tells apart in a script.
Statements that are never looked at individually share the kind `statement`.
-/

namespace Phrasebook.Markup

/-- The kind of a leaf or of an inner node of a syntax tree. -/
inductive Kind where
  /-- White space between tokens. -/
  | blank
  | comment
  /-- A keyword, an operator, a bracket or a piece of a template. -/
  | symbol
  | identifier
  | undefined
  | propertyIdentifier
  | privateIdentifier
  | shorthandIdentifier
  | shorthandPattern
  | label
  | thisWord
  | superWord
  | importWord
  | nullWord
  | trueWord
  | falseWord
  | number
  | string
  | regex
  | elementText
  | template
  | substitution
  | parenthesized
  | sequence
  | object
  | pair
  | spread
  | method
  | computedName
  /-- A member `name = value` of an object literal, which is meaningful only once the literal
  turns out to be a pattern. -/
  | shorthandDefault
  | array
  | arguments
  | functionExpression
  | generatorFunction
  | arrowFunction
  | classExpression
  | classBody
  | field
  | decorator
  | formalParameters
  | objectPattern
  | pairPattern
  | objectAssignmentPattern
  | arrayPattern
  | assignmentPattern
  | restPattern
  | member
  | subscript
  | call
  | newExpression
  | metaProperty
  | unary
  | update
  | await
  | yield
  | binary
  | ternary
  | assignment
  | augmentedAssignment
  | element
  | selfClosingElement
  | openingTag
  | closingTag
  | namespacedName
  | attribute
  | container
  | block
  | functionDeclaration
  | generatorDeclaration
  | classDeclaration
  | variableDeclaration
  | importStatement
  | exportStatement
  | defaultExport
  | statement
  | program
deriving DecidableEq, Repr, Inhabited

namespace Kind

/-- The name of a kind in messages to the user. -/
def title : Kind → String
  | .blank => "blank"
  | .comment => "comment"
  | .symbol => "symbol"
  | .identifier => "identifier"
  | .undefined => "undefined"
  | .propertyIdentifier => "property_identifier"
  | .privateIdentifier => "private_property_identifier"
  | .shorthandIdentifier => "shorthand_property_identifier"
  | .shorthandPattern => "shorthand_property_identifier_pattern"
  | .label => "statement_identifier"
  | .thisWord => "this"
  | .superWord => "super"
  | .importWord => "import"
  | .nullWord => "null"
  | .trueWord => "true"
  | .falseWord => "false"
  | .number => "number"
  | .string => "string"
  | .regex => "regex"
  | .elementText => "jsx_text"
  | .template => "template_string"
  | .substitution => "template_substitution"
  | .parenthesized => "parenthesized_expression"
  | .sequence => "sequence_expression"
  | .object => "object"
  | .pair => "pair"
  | .spread => "spread_element"
  | .method => "method_definition"
  | .computedName => "computed_property_name"
  | .shorthandDefault => "object_assignment_pattern"
  | .array => "array"
  | .arguments => "arguments"
  | .functionExpression => "function_expression"
  | .generatorFunction => "generator_function"
  | .arrowFunction => "arrow_function"
  | .classExpression => "class"
  | .classBody => "class_body"
  | .field => "field_definition"
  | .decorator => "decorator"
  | .formalParameters => "formal_parameters"
  | .objectPattern => "object_pattern"
  | .pairPattern => "pair_pattern"
  | .objectAssignmentPattern => "object_assignment_pattern"
  | .arrayPattern => "array_pattern"
  | .assignmentPattern => "assignment_pattern"
  | .restPattern => "rest_pattern"
  | .member => "member_expression"
  | .subscript => "subscript_expression"
  | .call => "call_expression"
  | .newExpression => "new_expression"
  | .metaProperty => "meta_property"
  | .unary => "unary_expression"
  | .update => "update_expression"
  | .await => "await_expression"
  | .yield => "yield_expression"
  | .binary => "binary_expression"
  | .ternary => "ternary_expression"
  | .assignment => "assignment_expression"
  | .augmentedAssignment => "augmented_assignment_expression"
  | .element => "jsx_element"
  | .selfClosingElement => "jsx_self_closing_element"
  | .openingTag => "jsx_opening_element"
  | .closingTag => "jsx_closing_element"
  | .namespacedName => "jsx_namespace_name"
  | .attribute => "jsx_attribute"
  | .container => "jsx_expression"
  | .block => "statement_block"
  | .functionDeclaration => "function_declaration"
  | .generatorDeclaration => "generator_function_declaration"
  | .classDeclaration => "class_declaration"
  | .variableDeclaration => "variable_declaration"
  | .importStatement => "import_statement"
  | .exportStatement | .defaultExport => "export_statement"
  | .statement => "statement"
  | .program => "program"

/-- Everything except blanks, comments, keywords, operators and brackets is content. -/
def isContent : Kind → Bool
  | .blank | .comment | .symbol => false
  | _ => true

/-- The two forms of a markup element. -/
def isElement : Kind → Bool
  | .element | .selfClosingElement => true
  | _ => false

/-- Function literals; methods and classes are not among them. -/
def isFunction : Kind → Bool
  | .arrowFunction | .functionExpression | .generatorFunction => true
  | _ => false

/-- Expressions whose first part is the thing accessed. -/
def isAccess : Kind → Bool
  | .member | .subscript => true
  | _ => false

/-- The nodes whose direct names are tag names. -/
def isTagNameOwner : Kind → Bool
  | .openingTag | .closingTag | .selfClosingElement | .namespacedName => true
  | _ => false

/-- Declarations are statements of their own and have no value. -/
def isDeclaration : Kind → Bool
  | .functionDeclaration | .generatorDeclaration | .classDeclaration | .variableDeclaration => true
  | _ => false

end Kind

end Phrasebook.Markup
