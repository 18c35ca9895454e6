import Phrasebook.Build.Edit
import Phrasebook.Build.Element
import Phrasebook.Json.Literal
import Phrasebook.Phrase.Extraction

/-!
# Built sources and books

Building a source replaces every phrase by an element, and two text literals
by constants: one says whether the source is built for a language, and the
other names the language.  Building a book leaves the functions of the language
whose renderings have not taken the place of their phrases.
-/

namespace Phrasebook.Build

open Markup

/-- The literal that stands for whether a source is built for a language. -/
def bakedConstant : String :=
  "JSXLATE_IS_BAKED"

/-- The literal that stands for the language that a source is built for. -/
def languageConstant : String :=
  "JSXLATE_LANG"

/-- Why a source or a book cannot be built. -/
inductive BuildError where
  | refused (refusal : Phrase.Refusal)
  | missing (miss : Miss)
  /-- An escape in a text literal gives a number that no character has. -/
  | noCharacter
  /-- What is left of the source is not text. -/
  | notText

/-- How sources are built. -/
structure BuildOptions where
  book? : Option Book := none
  /-- The languages to build for, the preferred one first; none leaves references. -/
  languages : List String := []
  keepsChildren : Bool := true
  version : Int := 0
  tag : String := "T"

/-- The book to take renderings from. -/
def BuildOptions.source? (options : BuildOptions) : Option Book :=
  if options.languages.isEmpty then none else options.book?

def BuildOptions.language? (options : BuildOptions) : Option String :=
  match options.source? with
  | none => none
  | some _ => options.languages.head?.filter fun language => !language.isEmpty

/-- The element that takes the place of a phrase. -/
def elementFor (options : BuildOptions) (phrase : Phrase) : Except Miss Element :=
  match options.source? with
  | some book => rendered options.tag book options.languages phrase
  | none => .ok (referring options.tag options.keepsChildren phrase)

def phraseEdit (options : BuildOptions) (phrase : Phrase) : Except BuildError Edit :=
  match elementFor options phrase with
  | .ok element => .ok ⟨phrase.start, phrase.stop, element.text.toList⟩
  | .error miss => .error (.missing miss)

def escapeApostrophes (text : List Char) : List Char :=
  text.flatMap fun character => if character == '\'' then ['\\', '\''] else [character]

def languageLiteral (language : String) (literal : List Char) : List Char :=
  let text := Json.literal false language
  if literal.head? == some '\'' then '\'' :: escapeApostrophes (Literal.unquote text) ++ ['\'']
  else text

/-- What takes the place of a text literal, if it stands for a constant. -/
def constantText? (language? : Option String) (literal : List Char) (meaning : String) :
    Option (List Char) :=
  if meaning == bakedConstant then
    some (if language?.isSome then "true" else "false").toList
  else if meaning == languageConstant then
    language?.map fun language => languageLiteral language literal
  else none

/-- The edit that replaces a text literal, if it stands for a constant. -/
def constantEdit (language? : Option String) (site : Site) : Except BuildError (Option Edit) :=
  match Literal.meaning? site.text with
  | none => .error .noCharacter
  | some meaning =>
    .ok ((constantText? language? site.text meaning).map fun text =>
      ⟨site.start, site.stop, text⟩)

def isWithin (spans : List (Nat × Nat)) (site : Site) : Bool :=
  spans.any fun (start, stop) => start ≤ site.start && site.stop ≤ stop

def constantEdits (options : BuildOptions) (phrases : List Phrase) (script : Tree) :
    Except BuildError (List Edit) := do
  let spans := phrases.map fun phrase => (phrase.start, phrase.stop)
  let literals := (Site.root script).walk.filter fun site =>
    site.tree.kind == .string && !isWithin spans site
  let edits ← literals.mapM (constantEdit options.language?)
  return edits.filterMap id

def editsOf (origin : Phrase.Origin) (options : BuildOptions) : Except BuildError (List Edit) := do
  let refused := fun {α : Type} (outcome : Except Phrase.Refusal α) =>
    outcome.mapError BuildError.refused
  let script ← refused origin.script
  let phrases ← refused (origin.phrasesIn options.tag options.version script)
  let replaced ← phrases.mapM (phraseEdit options)
  let constants ← constantEdits options phrases script
  return replaced ++ constants

/-- The text that edits make of a source. -/
def edited (origin : Phrase.Origin) (edits : List Edit) : Except BuildError String :=
  match (Text.Source.ofBytes (applyEdits edits origin.source.bytes)).text? with
  | some text => .ok text
  | none => .error .notText

def source (origin : Phrase.Origin) (options : BuildOptions) : Except BuildError String := do
  edited origin (← editsOf origin options)

/-- A key as a literal in plain ASCII; halves of surrogate pairs in it are escaped as such. -/
def keyLiteral (holdsHalves : Bool) (key : String) : List Char :=
  let escaped := fun (character : Char) =>
    if holdsHalves && Text.standsForHalf character then
      Json.unitEscape (character.toNat - Text.halfDistance)
    else Json.encodeCharacter true character
  '"' :: key.toList.flatMap escaped ++ ['"']

/-- The member of a built book for an entry, if it has one. -/
def bookMember (holdsHalves : Bool) (languages : List String) (indent : String) (entry : Entry) :
    Except Miss (Option String) :=
  match entry.firstRendering? languages with
  | none => .error ⟨entry.key, languages, none⟩
  | some rendering =>
    if rendering.markup?.isSome then .ok none
    else
      .ok (some (indent ++ String.ofList (keyLiteral holdsHalves entry.key) ++ ": (" ++
        ", ".intercalate entry.dependencies ++ ") => " ++ rendering.body ++ ",\n"))

def book (book : Book) (languages : List String) (indent : String) : Except Miss String := do
  let members ← book.entries.mapM (bookMember book.holdsHalves languages indent)
  return book.preamble ++ "export default \x7b\n" ++ String.join (members.filterMap id) ++
    "\x7d\n"

end Phrasebook.Build
