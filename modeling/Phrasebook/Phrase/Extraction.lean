import Phrasebook.Markup.Literal
import Phrasebook.Markup.Script
import Phrasebook.Phrase.Basic
import Phrasebook.Phrase.Dependency
import Phrasebook.Text.Source

/-!
# Extraction of phrases

Every element of a source with the name of the marking tag is a phrase.  The
element must obey the rules of marking: it has a closing tag, holds no other
marked element, and has only the attributes that are meant for it.
-/

namespace Phrasebook.Phrase

open Markup

/-- Why no phrase can be made of an element. -/
inductive Refusal where
  | usage (error : UsageError)
  | version (fault : VersionFault)
  /-- A part of the source that is needed is not text. -/
  | notText
deriving Repr

/-- A source file under the name that places in it have. -/
structure Origin where
  path : String
  source : Text.Source

/-- What the attributes of a marked element say. -/
structure Remarks where
  dependencies : List String := []
  context : String := ""
  keyAttribute? : Option String := none

/-- The refusal for a broken rule at a site. -/
def Origin.refuse {α : Type} (origin : Origin) (site : Site) (fault : UsageFault) :
    Except Refusal α :=
  .error (.usage ⟨origin.path, site.line, fault⟩)

/-- The text of a site, if all of it is text. -/
def Origin.text (origin : Origin) (site : Site) : Except Refusal String :=
  if origin.source.isTextBetween site.start site.stop then .ok (String.ofList site.text)
  else .error .notText

def Origin.listedName (origin : Origin) (item : Site) : Except Refusal String :=
  match item.tree.kind with
  | .identifier => .ok (String.ofList item.text)
  | kind => origin.refuse item (.dependencyNotName kind)

/-- The names that the attribute for dependencies lists. -/
def Origin.listedDependencies (origin : Origin) (listing : Site) :
    Except Refusal (List String) :=
  match listing.attributeValue? with
  | none => origin.refuse listing .dependenciesNotContained
  | some value =>
    match value.tree.kind with
    | .container =>
      match value.expression? with
      | none => origin.refuse value .dependenciesNotListed
      | some array =>
        match array.tree.kind with
        | .array => array.contents.mapM origin.listedName
        | _ => origin.refuse array .dependenciesNotListed
    | _ => origin.refuse value .dependenciesNotContained

/-- The text that the attribute for the context gives. -/
def Origin.givenContext (origin : Origin) (setting : Site) : Except Refusal String :=
  match setting.attributeValue? with
  | none => origin.refuse setting .contextNotLiteral
  | some value =>
    match value.tree.kind with
    | .string => (origin.text value).map fun text => Literal.attributeMeaning text.toList
    | _ => origin.refuse value .contextNotLiteral

/-- Attributes that any element may have and that say nothing about the phrase. -/
def silentAttributes : List String :=
  ["style", "__self", "__source"]

/-- Take one attribute of an element into account. -/
def Origin.remark (origin : Origin) (element : Site) (remarks : Remarks) (member : Site) :
    Except Refusal Remarks :=
  match member.tree.kind with
  | .attribute =>
    let name := String.ofList member.attributeName
    if name == "deps" then
      (origin.listedDependencies member).map fun names =>
        { remarks with dependencies := remarks.dependencies ++ names }
    else if name == "context" then
      (origin.givenContext member).map fun context => { remarks with context := context }
    else if name == "key" then
      (origin.text member).map fun text => { remarks with keyAttribute? := some text }
    else if silentAttributes.contains name then .ok remarks
    else origin.refuse element (.unknownAttribute name)
  | _ => origin.refuse member .spreadAttribute

/-- What the attributes of an element say. -/
def Origin.remarks (origin : Origin) (element : Site) : Except Refusal Remarks :=
  element.attributes.foldlM (origin.remark element) {}

/-- The source text between the tags of an element, if all of it is text. -/
def Origin.body (origin : Origin) (element : Site) : Except Refusal String :=
  let body := element.tree.body
  let start := element.opening.stop
  if origin.source.isTextBetween start (start + byteCount body) then .ok (String.ofList body)
  else .error .notText

def Origin.childDependencies (origin : Origin) (tag : String) (element : Site) :
    Except Refusal (List String) :=
  let opening := element.opening
  match namesNeeded tag (opening.line + lineFeeds opening.text) element.tree.elementChildren with
  | .ok names => .ok names
  | .error (line, fault) => .error (.usage ⟨origin.path, line, fault⟩)

def linesOf : List Char → List (List Char)
  | [] => [[]]
  | character :: text =>
    if character == '\n' then [] :: linesOf text
    else
      match linesOf text with
      | [] => [[character]]
      | line :: lines => (character :: line) :: lines

/-- A line without an indentation that it may start with. -/
def dropIndentation (indentation line : List Char) : List Char :=
  if indentation.isPrefixOf line then line.drop indentation.length else line

def Origin.phrase (origin : Origin) (tag : String) (version : Version) (element : Site) :
    Except Refusal Phrase := do
  if element.around.any (Tree.isTagged tag.toList) then
    origin.refuse element (.nested tag)
  if element.tree.kind != .element then
    origin.refuse element (.noClosingTag tag)
  let body ← origin.body element
  let remarks ← origin.remarks element
  let found ← origin.childDependencies tag element
  let dependencies := sortedTexts (remarks.dependencies ++ found)
  let normal := String.ofList (version.normalize body.toList)
  let signature := signatureOf normal remarks.context dependencies
  let isMultiline := lineFeeds element.text != 0
  let indentation := element.lineStart.takeWhile isGap
  let lines := (linesOf body.toList).map fun line =>
    String.ofList (dropIndentation indentation line)
  return {
    key := keyOf signature
    signature, body
    context := remarks.context
    dependencies, isMultiline
    lines := if isMultiline then lines else [body]
    place := ⟨origin.path, element.line⟩
    start := element.start
    stop := element.stop
    keyAttribute? := remarks.keyAttribute? }

def Origin.phraseOf (origin : Origin) (tag : String) (version : Int) (element : Site) :
    Except Refusal Phrase :=
  match Version.ofNumber version with
  | .error fault => .error (.version fault)
  | .ok version =>
    if element.tree.isTagged tag.toList then origin.phrase tag version element
    else origin.refuse element .notMarked

def marked (tag : String) (script : Tree) : List Site :=
  (Site.root script).walk.filter fun site => site.tree.isTagged tag.toList

/-- The syntax tree of a source. -/
def Origin.script (origin : Origin) : Except Refusal Tree :=
  match Script.read origin.source.characters with
  | .ok script => .ok script
  | .error line => .error (.usage ⟨origin.path, line, .notAScript⟩)

def Origin.phrasesIn (origin : Origin) (tag : String) (version : Int) (script : Tree) :
    Except Refusal (List Phrase) :=
  (marked tag script).mapM (origin.phraseOf tag version)

/-- The phrases of a source. -/
def Origin.phrases (origin : Origin) (tag : String) (version : Int) :
    Except Refusal (List Phrase) := do
  origin.phrasesIn tag version (← origin.script)

end Phrasebook.Phrase
