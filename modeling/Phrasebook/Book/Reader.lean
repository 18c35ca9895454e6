import Phrasebook.Book.Basic
import Phrasebook.Book.Flaw
import Phrasebook.Disk.Path
import Phrasebook.Markup.Literal
import Phrasebook.Markup.Script
import Phrasebook.Phrase.Dependency
import Phrasebook.Text.Digit
import Phrasebook.Text.Lines
import Phrasebook.Text.Space

/-!
# Reading books

A book is a script that ends with the default export of an object.  The object
has one member for each key, whose value is an object again: its members are
the renderings by language, flags, the context, and notes.
-/

namespace Phrasebook.Book

open Markup

def corrupt {α : Type} (site : Site) (flaw : Flaw) : Except ReadError α :=
  .error (.corrupt flaw (some site.line))

/-- A site, if it has one of the given kinds. -/
def expect (kinds : List Kind) (site? : Option Site) : Except ReadError Site :=
  match site? with
  | none => .error (.corrupt (.notOneOf kinds none) none)
  | some site =>
    if kinds.contains site.tree.kind then .ok site
    else corrupt site (.notOneOf kinds (some site.tree.kind))

/-- The text that a literal stands for. -/
def meaning (literal : Site) : Except ReadError String :=
  match Literal.meaning? literal.text with
  | some text => .ok text
  | none => .error .noCharacter

/-- A member of an object with its name and its value. -/
structure Member where
  site : Site
  name : String
  value : Site

def member (site : Site) : Except ReadError Member := do
  let pair ← expect [.pair] (some site)
  let key ← expect [.string, .propertyIdentifier] pair.contents[0]?
  let name ←
    match key.tree.kind with
    | .string => meaning key
    | _ => .ok (String.ofList key.text)
  match pair.contents[1]? with
  | some value => return ⟨pair, name, value⟩
  | none => .error (.corrupt (.notOneOf [] none) none)

def listedPlace (item : Site) : Except ReadError Place := do
  let literal ← expect [.string] (some item)
  let text ← meaning literal
  match splitLastColon text.toList with
  | none => corrupt item .notPlace
  | some (path, line) =>
    if path.isEmpty then corrupt item .notPlace
    else if line.isEmpty || !line.all Text.isDigit then corrupt item .notLineNumber
    else
      match Text.natOfDigits? 0 line with
      | some number => return ⟨String.ofList path, number⟩
      | none => .error .noNumber

/-- Whether a flag is set, which it is wherever it is given. -/
def flag (name : String) (value : Site) : Except ReadError Bool := do
  let site ← expect [.trueWord, .falseWord] (some value)
  if site.tree.kind == .trueWord then return true
  corrupt site (.notTrue name)

def parameters (function : Site) : Except ReadError (List String) :=
  match function.contents[0]? with
  | none => .ok []
  | some head =>
    let named := fun (site : Site) =>
      (expect [.identifier] (some site)).map fun site => String.ofList site.text
    match head.tree.kind with
    | .formalParameters => head.contents.mapM named
    | _ => (named head).map fun name => [name]

/-- A tree without the parentheses around it. -/
def withoutParentheses : Nat → Site → Site
  | 0, site => site
  | fuel + 1, site =>
    match site.tree.kind with
    | .parenthesized =>
      match site.expression? with
      | some inner => withoutParentheses fuel inner
      | none => site
    | _ => site

/-- The names that the children of an element need, or what in them is forbidden. -/
def needed (tag : String) (element : Site) : Except (Nat × Phrase.UsageFault) (List String) :=
  let opening := element.opening
  Phrase.namesNeeded tag (opening.line + lineFeeds opening.text) element.tree.elementChildren

/-- The markup between the tags of an element, if it needs nothing but the parameters. -/
def markupOf? (tag : String) (parameters : List String) (element : Site) : Option String :=
  match element.tree.kind with
  | .selfClosingElement => some ""
  | .element =>
    match needed tag element with
    | .ok names =>
      if names.all parameters.contains then some (String.ofList element.tree.body) else none
    | .error _ => none
  | _ => none

/-- The rendering that a function is, and its parameters. -/
def rendering (tag language : String) (value : Site) :
    Except ReadError (Rendering × List String) := do
  let function ← expect [.arrowFunction] (some value)
  let parameters ← parameters function
  match function.contents.getLast? with
  | none => .error (.corrupt (.notOneOf [] none) none)
  | some body =>
    let isBlock := body.tree.kind == .block
    let markup? :=
      if isBlock then none
      else markupOf? tag parameters (withoutParentheses body.text.length body)
    return ({
      language
      form := if isBlock then .block else .expression
      body := String.ofList body.text
      markup?
      line? := some function.line }, parameters)

/-- An entry while its members are read, with the parameters of the renderings so far. -/
structure Draft where
  entry : Entry
  parameters? : Option (List String) := none

/-- Whether a member is a note. -/
def isNote (name : String) : Bool :=
  name.toList.head? == some '#'

/-- Take one member of an entry into account. -/
def Draft.add (tag : String) (draft : Draft) (site : Site) : Except ReadError Draft := do
  let ⟨pair, name, value⟩ ← member site
  let entry := draft.entry
  if isNote name then
    return { draft with entry := { entry with notes := entry.notes ++ [String.ofList pair.text] } }
  else if name == "_new" then
    return { draft with entry := { entry with isNew := ← flag name value } }
  else if name == "_deleted" then
    return { draft with entry := { entry with isDeleted := ← flag name value } }
  else if name == "_context" then
    let context ← meaning (← expect [.string] (some value))
    return { draft with entry := { entry with context } }
  else if name == "_refs" then
    let list ← expect [.array] (some value)
    let places ← list.contents.mapM listedPlace
    return { draft with entry := { entry with places := entry.places ++ places } }
  else
    let (rendering, parameters) ← rendering tag name value
    if draft.parameters?.any (· != parameters) then
      corrupt value .otherParameters
    return {
      entry := { entry with renderings := entry.renderings ++ [rendering] }
      parameters? := some parameters }

def entryOf (tag : String) (member : Member) : Except ReadError Entry := do
  let body ← expect [.object] (some member.value)
  let start : Draft := ⟨{ key := member.name, line? := some member.site.line }, none⟩
  let draft ← body.contents.foldlM (Draft.add tag) start
  return { draft.entry with dependencies := draft.parameters?.getD [] }

/-- Read one more entry after others. -/
def addEntry (tag : String) (entries : List Entry) (site : Site) :
    Except ReadError (List Entry) := do
  let member ← member site
  if entries.any (·.key == member.name) then
    corrupt site (.repeatedKey member.name)
  return entries ++ [← entryOf tag member]

def isDefaultExport (site : Site) : Bool :=
  site.tree.kind == .defaultExport

/-- The value that a default export gives, if it is not a declaration. -/
def exported? (site : Site) : Option Site :=
  site.contents.getLast?.filter fun value => !value.tree.kind.isDeclaration

def exportIn (text : List Char) (script : Tree) : Except ReadError Site :=
  match (Site.root script).children.filter isDefaultExport with
  | [] => .error (.corrupt .noExport (some (max 1 (Text.wholeLines text).length)))
  | [site] => .ok site
  | _ :: second :: _ => corrupt second .manyExports

/-- Nothing but blanks follows the export. -/
def checkEnd (text : List Char) (site : Site) : Except ReadError Unit :=
  let before := site.before.length + site.text.length
  match (text.drop before).span Text.isAsciiSpace with
  | (_, []) => .ok ()
  | (blank, _) =>
    .error (.corrupt .trailingContent (some (lineFeeds (text.take before ++ blank) + 1)))

def scriptOf (text : List Char) : Except ReadError Tree :=
  match Script.read text with
  | .ok script => .ok script
  | .error line => .error (.corrupt .notAScript (some line))

/-- The object that lists the entries, and the text before the export. -/
def listing (text : List Char) : Except ReadError (List Char × Site) := do
  let site ← exportIn text (← scriptOf text)
  checkEnd text site
  let object ← expect [.object] (exported? site)
  return (site.before.reverse, object)

/-- Whether a name or a text in the members of an object is written with an escape for half of a
surrogate pair. -/
def escapesHalves (object : Site) : Bool :=
  object.contents.any fun pair => pair.contents.any fun literal =>
    literal.tree.kind == .string && Literal.escapesHalf literal.text

def read (path? : Option String) (tag : String) (text : String) : Except ReadError Book := do
  let (preamble, object) ← listing text.toList
  let entries ← object.contents.foldlM (addEntry tag) []
  let bodies := object.contents.flatMap fun entry => entry.contents.drop 1
  return {
    preamble := String.ofList preamble
    entries
    path? := path?.map fun path => (Disk.Path.ofString path).written
    holdsHalves := (object :: bodies).any escapesHalves }

/-- The lines of the renderings that hold something forbidden in a phrase, and what it is. -/
def obstacles (tag : String) (text : String) : List (Nat × Phrase.UsageFault) :=
  match listing text.toList with
  | .error _ => []
  | .ok (_, object) =>
    object.contents.flatMap fun entry =>
      (entry.contents.flatMap Site.contents).filterMap fun pair =>
        match pair.contents[1]?.bind fun function => function.contents.getLast? with
        | none => none
        | some body =>
          let element := withoutParentheses body.text.length body
          match element.tree.kind with
          | .element =>
            match needed tag element with
            | .ok _ => none
            | .error (_, fault) => some (element.line, fault)
          | _ => none

end Phrasebook.Book
