import Phrasebook.Markup.Grammar
import Phrasebook.Markup.Site

/-!
# The grammar of scripts with markup

JavaScript modules whose expressions may hold markup elements.  The grammar is
generous where nothing depends on it: operators have no precedence among each
other, and statements such as `return` may stand anywhere.  What it does fix
is which texts are scripts, where every element, name and literal in them
begins and ends, and what kind of expression each is.

One token always decides how to go on.  Where two forms begin alike, as a label
and an expression do, the common part is read first and given its final kind
once the next token is known.
-/

namespace Phrasebook.Markup

/-- The rules of the grammar of scripts. -/
inductive Rule where
  | item
  | statement
  | plainStatement
  | wordStatement
  | functionStatement
  | classStatement
  | letStatement
  | asyncStatement
  | importStatement
  | exportStatement
  | exported
  | loopHead
  | block
  | specifiers
  | declarators
  | expression
  | expressionTail
  | sequence
  | sequenceTail
  | operand
  | chain
  | chainTail
  | chainHead
  | chainLink
  | asyncTail
  | importTail
  | newTarget
  | arrowBody
  | cover
  | coverTail
  | arguments
  | template
  | object
  | objectMember
  | memberTail
  | methodTail
  | propertyName
  | functionTail
  | classTail
  | classMember
  | decorator
  | element
  | childElement
  | elementName
  | child
  | attribute
  | container
  | childContainer
deriving DecidableEq, Repr

namespace Script

open Grammar

/-- Operators between two operands. -/
def binaryOperators : List String :=
  ["&&", "||", ">>", ">>>", "<<", "&", "^", "|", "+", "-", "*", "/", "%", "**", "<", "<=", "==",
    "===", "!=", "!==", ">=", ">", "??"]

/-- Operators that read their target and assign to it. -/
def updatingOperators : List String :=
  ["+=", "-=", "*=", "/=", "%=", "^=", "&=", "|=", ">>=", ">>>=", "<<=", "**=", "&&=", "||=",
    "??="]

def seesString : Guard :=
  .begins .string

def seesIdentifier : Guard :=
  .begins .identifier

/-- A variable declaration that no expression begins like. -/
def seesDeclaration : Guard :=
  .seesWord "var" ||| .seesWord "const"

/-- A declaration of a variable, a function or a class. -/
def seesDefinition : Guard :=
  seesDeclaration ||| .seesWord "function" ||| .seesWord "class" ||| .sees "@" |||
    .seesWord "async" ||| .seesWord "let"

/-- The word between a loop variable and what it runs over. -/
def seesLoopWord : Guard :=
  .seesWord "of" ||| .seesWord "in"

def seesPrefixOperator : Guard :=
  .seesOperator ["!", "~", "-", "+"] ||| .seesWord "typeof" ||| .seesWord "void" |||
    .seesWord "delete"

def seesUpdateOperator : Guard :=
  .seesOperator ["++", "--"]

def seesArrow : Guard :=
  .seesOperator ["=>"]

/-- An operand may start here. -/
def seesOperand : Guard :=
  .begins .name &&& .not (.seesWord "in" ||| .seesWord "instanceof" ||| .seesWord "of") |||
    seesString ||| .begins .number ||| .begins .regex ||| .begins .privateName |||
    seesPrefixOperator ||| seesUpdateOperator ||| .sees "\x60" ||| .sees "\x7b" ||| .sees "[" |||
    .sees "(" ||| .sees "<" ||| .sees "@"

/-- Words that may stand before the name of a member. -/
def seesModifier : Guard :=
  .seesWord "static" ||| .seesWord "async" ||| .seesWord "get" ||| .seesWord "set"

/-- The name of a member, or a modifier of it. -/
def seesMemberName : Guard :=
  .begins .name ||| .begins .privateName ||| seesString ||| .begins .number ||| .sees "[" |||
    .seesOperator ["*"]

/-- The end of a statement, marked or not. -/
def statementEnd : Grammar Rule :=
  choice (.sees ";") (sign ";") (require .unmarkedEnd)

def identifier : Grammar Rule :=
  token .identifier .identifier

def moduleString : Grammar Rule :=
  token .string .string

/-- An expression, or a spread of one. -/
def item : Grammar Rule :=
  choice (.sees "...") (node .spread (sign "..." ++ rule .expression)) (rule .expression)

def arrayLiteral : Grammar Rule :=
  node .array (sign "[" ++ withHoles "]" item ++ sign "]")

/-- A variable, whether declared as a name or as a pattern. -/
def binding : Grammar Rule :=
  first [(.sees "\x7b", rule .object), (.sees "[", arrayLiteral)] identifier ++ reread .binding

/-- The condition of a statement. -/
def condition : Grammar Rule :=
  node .parenthesized (sign "(" ++ rule .sequence ++ sign ")")

/-- A property after its object. -/
def property : Grammar Rule :=
  choice (.begins .privateName) (token .privateIdentifier .privateName)
    (token .propertyIdentifier .name)

/-- An assignment of a default or an initial value, if there is one. -/
def initializer : Grammar Rule :=
  maybe (.seesOperator ["="]) (operator ["="] ++ rule .expression)

/-- An arrow and the body of the function after its parameters. -/
def arrow : Grammar Rule :=
  operator ["=>"] ++ rule .arrowBody ++ wrap .arrowFunction

/-- A parameter list that was read as something else, and its arrow. -/
def parametersAndArrow : Grammar Rule :=
  reread .parameters ++ arrow

/-- What may follow the head of a chain in an expression statement. -/
def restOfStatement : Grammar Rule :=
  rule .chainTail ++ rule .expressionTail ++ rule .sequenceTail ++ statementEnd

/-- A function after the word, whose kind depends on the star. -/
def functionOf (plain generator : Kind) (name : Grammar Rule) : Grammar Rule :=
  choice (.sees "*") (sign "*" ++ name ++ rule .functionTail ++ wrap generator)
    (name ++ rule .functionTail ++ wrap plain)

/-- A function after the word, which is a declaration if it has a name. -/
def functionStatement (declaration plain : Kind) : Grammar Rule :=
  choice seesIdentifier (identifier ++ rule .functionTail ++ wrap declaration)
    (rule .functionTail ++ wrap plain ++ restOfStatement)

/-- Variables after the word that declares them. -/
def declaration : Grammar Rule :=
  rule .declarators ++ statementEnd ++ wrap .variableDeclaration

/-- A declaration by one of the words that no expression begins with. -/
def wordDeclaration : Grammar Rule :=
  frame (choice (.seesWord "var") (keyword "var") (keyword "const") ++ declaration)

/-- The decorators of a class, a member or an export. -/
def decorators : Grammar Rule :=
  many (.sees "@") (rule .decorator)

def nameSegment : Grammar Rule :=
  choice (.begins .hyphenated) (token .identifier .hyphenated) identifier

/-- The second segment of a name with a namespace, after the first. -/
def namespaceTail : Grammar Rule :=
  sign ":" ++ nameSegment ++ wrap .namespacedName

/-- The children and the end of an element. -/
def elementTail (close : Grammar Rule) : Grammar Rule :=
  raw .symbol (.literal ">") ++ wrap .openingTag ++ many (.not (.begins .closing)) (rule .child) ++
    node .closingTag (token .symbol .closing ++
      choice (.sees ">") empty (rule .elementName) ++ close) ++
    wrap .element

/-- An element, given how to read the last sign of each of its two forms. -/
def elementOf (close : String → Grammar Rule) : Grammar Rule :=
  frame (sign "<" ++
    choice (.sees ">") (elementTail (close ">"))
      (rule .elementName ++ many (.begins .name ||| .sees "\x7b") (rule .attribute) ++
        choice (.sees "/>") (close "/>" ++ wrap .selfClosingElement) (elementTail (close ">"))))

/-- An expression in braces, given how to read the closing brace. -/
def containerOf (close : Grammar Rule) : Grammar Rule :=
  node .container (sign "\x7b" ++
    first [
      (.sees "\x7d", empty),
      (.sees "...", node .spread (sign "..." ++ rule .expression))]
      (rule .sequence) ++
    close)

/-- Statements up to where the guard holds. -/
def statementsUntil (guard : Guard) : Grammar Rule :=
  many (.not guard) (rule .item)

/-- What may be exported or imported by name, or the text that names it. -/
def specifierName : Grammar Rule :=
  choice seesString moduleString (token .label .name)

def namedSpecifiers : Grammar Rule :=
  sign "\x7b" ++ choice (.sees "\x7d") empty (rule .specifiers) ++ sign "\x7d"

def allSpecifier : Grammar Rule :=
  sign "*" ++ keyword "as" ++ identifier

/-- The module that names come from, and its attributes. -/
def moduleSource : Grammar Rule :=
  moduleString ++ maybe (.sameLine &&& (.seesWord "with" ||| .seesWord "assert"))
    (choice (.seesWord "with") (keyword "with") (keyword "assert") ++ rule .object)

/-- The first part of a loop head is read; what follows is a condition and a step. -/
def restOfLoopHead : Grammar Rule :=
  sign ";" ++ choice (.sees ";") empty (rule .sequence) ++ sign ";" ++
    choice (.sees ")") empty (rule .sequence)

/-- What a loop variable runs over. -/
def loopRange : Grammar Rule :=
  choice (.seesWord "of") (keyword "of") (keyword "in") ++ rule .sequence

/-- What each rule reads. -/
def rules : Rule → Grammar Rule
  | .item => choice (.begins .markupComment) (token .comment .markupComment) (rule .statement)
  | .statement =>
    first [
      (.sees "\x7b", rule .block),
      (.sees "@", frame (decorators ++
        choice (.seesWord "export") (rule .exportStatement)
          (rule .classStatement ++ wrap .statement))),
      (.seesWord "export", frame (rule .exportStatement)),
      (.seesWord "import", frame (rule .importStatement))]
      (node .statement (rule .plainStatement))
  | .block => node .block (sign "\x7b" ++ statementsUntil (.sees "\x7d") ++ sign "\x7d")
  | .plainStatement =>
    first [
      (.sees ";", sign ";"),
      (.seesWord "debugger", keyword "debugger" ++ statementEnd),
      (.seesWord "if", keyword "if" ++ condition ++ rule .statement ++
        maybe (.seesWord "else") (keyword "else" ++ rule .statement)),
      (.seesWord "for", keyword "for" ++ maybe (.seesWord "await") (keyword "await") ++
        rule .loopHead ++ rule .statement),
      (.seesWord "while", keyword "while" ++ condition ++ rule .statement),
      (.seesWord "do", keyword "do" ++ rule .statement ++ keyword "while" ++ condition ++
        maybe (.sees ";") (sign ";")),
      (.seesWord "try", keyword "try" ++ rule .block ++
        maybe (.seesWord "catch") (keyword "catch" ++
          maybe (.sees "(") (sign "(" ++ binding ++ sign ")") ++ rule .block) ++
        maybe (.seesWord "finally") (keyword "finally" ++ rule .block)),
      (.seesWord "with", keyword "with" ++ condition ++ rule .statement),
      (.seesWord "switch", keyword "switch" ++ condition ++ sign "\x7b" ++
        many (.seesWord "case" ||| .seesWord "default")
          (choice (.seesWord "case") (keyword "case" ++ rule .sequence) (keyword "default") ++
            sign ":" ++
            statementsUntil (.seesWord "case" ||| .seesWord "default" ||| .sees "\x7d")) ++
        sign "\x7d"),
      (.seesWord "break" ||| .seesWord "continue",
        choice (.seesWord "break") (keyword "break") (keyword "continue") ++
          choice (.sees ";" ||| .unmarkedEnd) statementEnd
            (token .label .identifier ++ statementEnd)),
      (.seesWord "return", keyword "return" ++
        choice (.sees ";" ||| .unmarkedEnd) statementEnd (rule .sequence ++ statementEnd)),
      (.seesWord "throw", keyword "throw" ++ rule .sequence ++ statementEnd)]
      (rule .wordStatement)
  | .wordStatement =>
    first [
      (seesDeclaration, wordDeclaration),
      (.seesWord "function", frame (keyword "function" ++ rule .functionStatement)),
      (.seesWord "class", frame (rule .classStatement)),
      (.seesWord "async", frame (rule .asyncStatement)),
      (.seesWord "let", frame (rule .letStatement)),
      (.seesWord "await" ||| .seesWord "yield" ||| .seesWord "undefined" |||
        .not seesIdentifier, rule .sequence ++ statementEnd)]
      (identifier ++
        choice (.sees ":") (reread .label ++ sign ":" ++ rule .statement)
          (maybe seesArrow arrow ++ restOfStatement))
  | .functionStatement =>
    choice (.sees "*")
      (sign "*" ++ functionStatement .generatorDeclaration .generatorFunction)
      (functionStatement .functionDeclaration .functionExpression)
  | .classStatement =>
    keyword "class" ++
      choice seesIdentifier (identifier ++ rule .classTail ++ wrap .classDeclaration)
        (rule .classTail ++ wrap .classExpression ++ restOfStatement)
  | .letStatement =>
    token .identifier (.word "let") ++
      first [
        (seesIdentifier ||| .sees "\x7b" ||| .sees "[", reread .keyword ++ declaration),
        (.sees ":", reread .label ++ sign ":" ++ rule .statement)]
        (maybe seesArrow arrow ++ restOfStatement)
  | .asyncStatement =>
    token .identifier (.word "async") ++
      first [
        (.seesWord "function", reread .keyword ++ keyword "function" ++ rule .functionStatement),
        (.sees ":", reread .label ++ sign ":" ++ rule .statement)]
        (rule .asyncTail ++ restOfStatement)
  | .importStatement =>
    token .importWord (.word "import") ++
      choice (.sees "(" ||| .seesOperator ["."])
        (rule .importTail ++ restOfStatement ++ wrap .statement)
        (reread .keyword ++
          choice seesString empty
            (first [(.sees "*", allSpecifier), (.sees "\x7b", namedSpecifiers)]
              (identifier ++ maybe (.sees ",") (sign "," ++
                choice (.sees "*") allSpecifier namedSpecifiers)) ++
              keyword "from") ++
          moduleSource ++ statementEnd ++ wrap .importStatement)
  | .exportStatement =>
    keyword "export" ++
      first [
        (.sees "*", sign "*" ++ maybe (.seesWord "as") (keyword "as" ++ specifierName) ++
          keyword "from" ++ moduleSource ++ statementEnd ++ wrap .exportStatement),
        (.sees "\x7b", namedSpecifiers ++
          maybe (.seesWord "from") (keyword "from" ++ moduleSource) ++ statementEnd ++
          wrap .exportStatement),
        (.seesWord "default", keyword "default" ++ rule .exported ++ wrap .defaultExport)]
        (require seesDefinition ++ rule .exported ++ wrap .exportStatement)
  | .exported =>
    first [
      (seesDeclaration, wordDeclaration),
      (.seesWord "function", frame (keyword "function" ++ rule .functionStatement)),
      (.seesWord "class" ||| .sees "@", frame (decorators ++ rule .classStatement)),
      (.seesWord "async", frame (rule .asyncStatement)),
      (.seesWord "let", frame (rule .letStatement))]
      (rule .expression ++ statementEnd)
  | .loopHead =>
    sign "(" ++
      first [
        (seesDeclaration ||| .seesWord "let",
          first [(.seesWord "var", keyword "var"), (.seesWord "let", keyword "let")]
            (keyword "const") ++ binding ++
            choice seesLoopWord loopRange
              (initializer ++ maybe (.sees ",") (sign "," ++ rule .declarators) ++
                restOfLoopHead)),
        (.sees ";", restOfLoopHead),
        (seesPrefixOperator ||| seesUpdateOperator ||| .seesWord "await" ||| .seesWord "yield",
          rule .sequence ++ restOfLoopHead)]
        (frame (rule .chain ++
            choice seesLoopWord (reread .target) (rule .expressionTail ++ rule .sequenceTail)) ++
          choice seesLoopWord loopRange restOfLoopHead) ++
      sign ")"
  | .specifiers =>
    specifierName ++ maybe (.seesWord "as") (keyword "as" ++ specifierName) ++
      maybe (.sees ",") (sign "," ++ choice (.sees "\x7d") empty (rule .specifiers))
  | .declarators => listed (binding ++ initializer)
  | .sequence => frame (rule .expression ++ rule .sequenceTail)
  | .sequenceTail => maybe (.sees ",") (sign "," ++ listed (rule .expression) ++ wrap .sequence)
  | .expression => frame (rule .operand ++ rule .expressionTail)
  | .expressionTail =>
    many (.seesOperator binaryOperators ||| .seesWord "instanceof" ||| .seesWord "in" |||
        .seesOperator ["?"])
      (choice (.seesOperator ["?"])
        (operator ["?"] ++ rule .expression ++ sign ":" ++ rule .expression ++ wrap .ternary)
        (first [
          (.seesWord "instanceof", keyword "instanceof"),
          (.seesWord "in", keyword "in")]
          (operator binaryOperators) ++
          rule .operand ++ wrap .binary))
  | .operand =>
    first [
      (seesPrefixOperator, node .unary
        (first [
          (.seesWord "typeof", keyword "typeof"),
          (.seesWord "void", keyword "void"),
          (.seesWord "delete", keyword "delete")]
          (operator ["!", "~", "-", "+"]) ++
          rule .operand)),
      (seesUpdateOperator, node .update (operator ["++", "--"] ++ rule .operand)),
      (.seesWord "await", frame (token .identifier (.word "await") ++
        choice seesOperand (reread .keyword ++ rule .operand ++ wrap .await)
          (maybe seesArrow arrow ++ rule .chainTail))),
      (.seesWord "yield", node .yield (keyword "yield" ++
        first [
          (.sees "*", sign "*" ++ rule .expression),
          (seesOperand, rule .expression)]
          empty)),
      (.begins .privateName, token .privateIdentifier .privateName ++ require (.seesWord "in"))]
      (rule .chain)
  | .chain => frame (rule .chainHead ++ rule .chainTail)
  | .chainTail =>
    many (.seesOperator [".", "?."] ||| .sees "[" ||| .sees "(" ||| .sees "\x60" |||
        .sameLine &&& seesUpdateOperator)
      (rule .chainLink) ++
      first [
        (.seesOperator ["="],
          reread .target ++ operator ["="] ++ rule .expression ++ wrap .assignment),
        (.seesOperator updatingOperators,
          reread .updatedTarget ++ operator updatingOperators ++ rule .expression ++
            wrap .augmentedAssignment)]
        empty
  | .chainHead =>
    first [
      (.seesWord "this", token .thisWord (.word "this")),
      (.seesWord "super", token .superWord (.word "super")),
      (.seesWord "null", token .nullWord (.word "null")),
      (.seesWord "true", token .trueWord (.word "true")),
      (.seesWord "false", token .falseWord (.word "false")),
      (.seesWord "undefined", token .undefined (.word "undefined")),
      (.begins .number, token .number .number),
      (seesString, token .string .string),
      (.begins .regex, token .regex .regex),
      (.sees "\x60", rule .template),
      (.sees "\x7b", rule .object),
      (.sees "[", arrayLiteral),
      (.sees "(", rule .cover ++ choice seesArrow parametersAndArrow (reread .grouping)),
      (.sees "<", rule .element),
      (.seesWord "function", keyword "function" ++
        functionOf .functionExpression .generatorFunction (maybe seesIdentifier identifier)),
      (.seesWord "class" ||| .sees "@", node .classExpression (decorators ++ keyword "class" ++
        maybe seesIdentifier identifier ++ rule .classTail)),
      (.seesWord "async", token .identifier (.word "async") ++
        choice (.seesWord "function")
          (reread .keyword ++ keyword "function" ++
            functionOf .functionExpression .generatorFunction (maybe seesIdentifier identifier))
          (rule .asyncTail)),
      (.seesWord "new", keyword "new" ++
        choice (.seesOperator ["."])
          (operator ["."] ++ keyword "target" ++ wrap .metaProperty)
          (rule .newTarget ++ maybe (.sees "(") (rule .arguments) ++ wrap .newExpression)),
      (.seesWord "import", token .importWord (.word "import") ++ rule .importTail)]
      (identifier ++ maybe seesArrow arrow)
  | .chainLink =>
    first [
      (.seesOperator ["."], operator ["."] ++ property ++ wrap .member),
      (.seesOperator ["?."], operator ["?."] ++
        first [
          (.sees "[", sign "[" ++ rule .sequence ++ sign "]" ++ wrap .subscript),
          (.sees "(", rule .arguments ++ wrap .call)]
          (property ++ wrap .member)),
      (.sees "[", sign "[" ++ rule .sequence ++ sign "]" ++ wrap .subscript),
      (.sees "(", rule .arguments ++ wrap .call),
      (.sees "\x60", rule .template ++ wrap .call)]
      (operator ["++", "--"] ++ wrap .update)
  | .asyncTail =>
    first [
      (seesArrow, arrow),
      (.sameLine &&& seesIdentifier &&& .not (.seesWord "of"),
        reread .keyword ++ identifier ++ arrow),
      (.sees "(", reread .keyword ++ rule .arguments ++
        choice seesArrow parametersAndArrow (wrap .call ++ reread .namedCall))]
      empty
  | .importTail =>
    choice (.seesOperator ["."])
      (operator ["."] ++
        choice (.seesWord "meta") (keyword "meta" ++ wrap .metaProperty)
          (property ++ wrap .member))
      (require (.sees "("))
  | .newTarget =>
    frame (rule .chainHead ++
      many (.seesOperator ["."] ||| .sees "[" ||| .sees "\x60")
        (first [
          (.seesOperator ["."], operator ["."] ++ property ++ wrap .member),
          (.sees "[", sign "[" ++ rule .sequence ++ sign "]" ++ wrap .subscript)]
          (rule .template ++ wrap .call)))
  | .arrowBody => choice (.sees "\x7b") (rule .block) (rule .expression)
  | .cover =>
    node .parenthesized (sign "(" ++
      choice (.sees ")") empty
        (frame (item ++ maybe (.sees ",") (rule .coverTail ++ wrap .sequence))) ++
      sign ")")
  | .coverTail =>
    sign "," ++ choice (.sees ")") empty (item ++ maybe (.sees ",") (rule .coverTail))
  | .arguments => node .arguments (sign "(" ++ withHoles ")" item ++ sign ")")
  | .template =>
    node .template (raw .symbol (.literal "\x60") ++
      many (.not (.sees "\x60"))
        (choice (.sees "$\x7b")
          (node .substitution (sign "$\x7b" ++ rule .sequence ++
            raw .symbol (.literal "\x7d")))
          (raw .symbol .templateText)) ++
      sign "\x60")
  | .object =>
    node .object (sign "\x7b" ++ withHoles "\x7d" (rule .objectMember) ++ sign "\x7d")
  | .objectMember =>
    first [
      (.sees "...", node .spread (sign "..." ++ rule .expression)),
      (seesModifier, frame (token .propertyIdentifier .name ++
        choice seesMemberName (reread .keyword ++ rule .methodTail) (rule .memberTail))),
      (.seesOperator ["*"], frame (operator ["*"] ++ rule .methodTail))]
      (frame (rule .propertyName ++ rule .memberTail))
  | .memberTail =>
    first [
      (.sees "(", rule .functionTail ++ wrap .method),
      (.sees ":", sign ":" ++ rule .expression ++ wrap .pair)]
      (reread .shorthand ++ maybe (.seesOperator ["="])
        (operator ["="] ++ rule .expression ++ wrap .shorthandDefault))
  | .methodTail =>
    first [
      (seesModifier, token .propertyIdentifier .name ++
        choice seesMemberName (reread .keyword ++ rule .methodTail)
          (rule .functionTail ++ wrap .method)),
      (.seesOperator ["*"], operator ["*"] ++ rule .methodTail)]
      (rule .propertyName ++ rule .functionTail ++ wrap .method)
  | .propertyName =>
    first [
      (.begins .name, token .propertyIdentifier .name),
      (.begins .privateName, token .privateIdentifier .privateName),
      (seesString, token .string .string),
      (.begins .number, token .number .number)]
      (node .computedName (sign "[" ++ rule .expression ++ sign "]"))
  | .functionTail => rule .cover ++ reread .parameters ++ rule .block
  | .classTail =>
    maybe (.seesWord "extends") (keyword "extends" ++ rule .expression) ++
      node .classBody (sign "\x7b" ++
        many (.not (.sees "\x7d"))
          (choice (.sees ";") (sign ";") (frame (decorators ++ rule .classMember))) ++
        sign "\x7d")
  | .classMember =>
    first [
      (seesModifier, token .propertyIdentifier .name ++
        first [
          (.sees "\x7b", reread .keyword ++ rule .block),
          (seesMemberName, reread .keyword ++ rule .classMember),
          (.sees "(", rule .functionTail ++ wrap .method)]
          (initializer ++ wrap .field ++ statementEnd)),
      (.seesOperator ["*"], operator ["*"] ++ rule .classMember)]
      (rule .propertyName ++
        choice (.sees "(") (rule .functionTail ++ wrap .method)
          (initializer ++ wrap .field ++ statementEnd))
  | .decorator =>
    node .decorator (sign "@" ++
      choice (.sees "(") condition
        (frame (identifier ++
          many (.seesOperator ["."]) (operator ["."] ++ property ++ wrap .member) ++
          maybe (.sees "(") (rule .arguments ++ wrap .call))))
  | .element => elementOf sign
  | .childElement => elementOf fun text => raw .symbol (.literal text)
  | .elementName =>
    frame (choice (.begins .hyphenated)
      (token .identifier .hyphenated ++ maybe (.sees ":") namespaceTail)
      (identifier ++ choice (.sees ":") namespaceTail
        (many (.seesOperator ["."])
          (operator ["."] ++ token .propertyIdentifier .name ++ wrap .member))))
  | .child =>
    first [
      (.sees "\x7b", rule .childContainer),
      (.sees "<!--", raw .comment .markupComment),
      (.sees "<", rule .childElement)]
      (raw .elementText .elementText)
  | .attribute =>
    choice (.sees "\x7b") (rule .container)
      (node .attribute
        (frame (choice (.begins .hyphenated) (token .propertyIdentifier .hyphenated)
            (token .propertyIdentifier .name) ++
          maybe (.sees ":") (reread .segment ++ namespaceTail)) ++
          maybe (.sees "=") (sign "=" ++
            first [(.sees "\x7b", rule .container), (.sees "<", rule .element)]
              (token .string .attributeString))))
  | .container => containerOf (sign "\x7d")
  | .childContainer => containerOf (raw .symbol (.literal "\x7d"))

/-- One more item of a script, in which every pattern has been recognised as one. -/
def settledItem : Grammar Rule :=
  rule .item ++ reread .settled

/-- Read as many items as there are, up to `count`. -/
def readItems (fuel : Nat) : Nat → Cursor → Cursor
  | 0, cursor => cursor
  | count + 1, cursor =>
    match read rules fuel settledItem cursor with
    | none => cursor
    | some next => readItems fuel count next

/-- The position after a first line that names an interpreter. -/
def start (text : List Char) : Cursor :=
  match Lexeme.interpreterLine.split? text with
  | some (line, rest) => .before rest [.leaf .comment line]
  | none => .before text []

/-- The syntax tree of a script, or the line of the first statement that is not one. -/
def read (text : List Char) : Except Nat Tree :=
  let last := readItems (300 * (text.length + 2)) text.length (start text)
  if last.rest.isEmpty then .ok (.node .program last.covered.reverse)
  else .error (lineFeeds (Tree.textAll last.covered.reverse) + 1)

end Script

end Phrasebook.Markup
