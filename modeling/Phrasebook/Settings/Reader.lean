import Phrasebook.Number.Numeral
import Phrasebook.Phrase.Normal
import Phrasebook.Settings.Basic
import Phrasebook.Text.Lowercase
import Phrasebook.Text.Space
import Phrasebook.Yaml.Content

/-!
# Reading settings

Settings come from a settings file, and variables of the environment take
precedence over it.  A value of the wrong kind counts as missing, except where
a version of the normal form is meant.
-/

namespace Phrasebook.Settings

open Phrase (Version VersionFault)

def fileName : String :=
  ".jsxlate.yml"

/-- Why settings cannot be used. -/
inductive Fault where
  | notText
  | malformed
  /-- The document is well-formed, but a value in it is not. -/
  | noValue (fault : Yaml.Fault)
  | noMapping
  | version (fault : VersionFault)
  /-- A variable that is a truth value has another value. -/
  | noTruth (value : String)
  | noLanguage
  | noDirectory
  | insertMode (mode : String)
  | noIndent
deriving DecidableEq, Repr

/-- What is said about a fault, if anything is. -/
def Fault.message? (fault : Fault) : Option String :=
  match fault with
  | notText => none
  | malformed => some ("Failed to parse " ++ fileName)
  | noValue _ => none
  | noMapping => some (fileName ++ " must contain a mapping at the root")
  | version fault => some fault.message
  | noTruth value => some ("invalid JSXLATE_KEEP_CHILDREN value: " ++ Text.quoted value)
  | noLanguage => some "at least one language must be configured in 'langs'"
  | noDirectory => some "at least one source directory must be configured in 'src_dirs'"
  | insertMode mode =>
    some ("invalid insert_mode " ++ Text.quoted mode ++ " (expected one of: " ++
      ", ".intercalate insertModes ++ ")")
  | noIndent => some "'indent' must not be empty"

/-! ## Kinds of values -/

/-- A value as text, if it is a text or a number. -/
def textOf? : Value → Option String
  | .text characters => some characters
  | .integer number => some (toString number)
  | .decimal number => some number.written
  | _ => none

/-- The texts of a list; a single text counts as a list. -/
def textsOf : Value → List String
  | .text characters => [characters]
  | .list items => items.filterMap textOf?
  | .bytes content => content.map fun byte => toString byte.toNat
  | _ => []

/-- A truth value, or a text that stands for one. -/
def truthOf? : Value → Option Bool
  | .truth holds => some holds
  | .text characters =>
    let word := Text.lower (Text.strip characters)
    if ["true", "yes", "1"].contains word then some true
    else if ["false", "no", "0"].contains word then some false
    else none
  | _ => none

/-- The number of a version. -/
def versionOf (value : Value) : Except Fault Int :=
  let fault := Fault.version (.notNumber value.written)
  match value with
  | .integer number => .ok number
  | .text characters =>
    match Number.integerOf? 10 characters.toList with
    | some number => .ok number
    | none => .error fault
  | _ => .error fault

/-! ## The settings file -/

/-- The text of a field; empty texts and values of another kind give way to a usual one. -/
def textField (document : Value) (name usual : String) : String :=
  (((document.field? name).bind textOf?).filter (· != "")).getD usual

/-- The texts of a field, or the usual ones if there is no such field. -/
def textsField (document : Value) (name : String) (usual : List String) : List String :=
  ((document.field? name).map textsOf).getD usual

/-- An extension without the dots in front of it. -/
def bareExtension (extension : String) : String :=
  String.ofList (extension.toList.dropWhile (· == '.'))

def buildOf (value : Value) : BuildSettings where
  language? := (value.field? "lang").bind textOf?
  fallback? := (value.field? "fallback_lang").bind textOf?
  keepsChildren := ((value.field? "keep_children").bind truthOf?).getD true

def ofValue (document : Value) : Except Fault Settings := do
  let usual : Settings := {}
  let version ← match document.field? "normalizer_version" with
    | some value => versionOf value
    | none => pure usual.version
  let indent := match document.field? "indent" with
    | some value => (textOf? value).getD ""
    | none => usual.indent
  return {
    languages := textsField document "langs" usual.languages
    sourceDirectories := textsField document "src_dirs" usual.sourceDirectories
    extensions := match document.field? "extensions" with
      | some value => (textsOf value).map bareExtension
      | none => usual.extensions
    excludedDirectories := textsField document "exclude_dirs" []
    excludedFiles := textsField document "exclude_files" []
    insertMode := textField document "insert_mode" usual.insertMode
    bookFile := textField document "translations_file" usual.bookFile
    importFile := textField document "import_file" usual.importFile
    placesFile := textField document "refs_file" usual.placesFile
    indent
    version
    tag := textField document "translation_tag" usual.tag
    marker := textField document "marker_tag" usual.marker
    build := ((document.field? "build").map buildOf).getD {} }

def documentOf (text : String) : Except Fault Value :=
  if text.toList.all Text.isStripped then .ok (.mapping [])
  else
    match Yaml.read text with
    | .error .malformed => .error .malformed
    | .error fault => .error (.noValue fault)
    | .ok none | .ok (some .null) => .ok (.mapping [])
    | .ok (some (.mapping fields)) => .ok (.mapping fields)
    | .ok (some _) => .error .noMapping

/-! ## The environment -/

/-- The variables of the environment. -/
abbrev Environment := List (String × String)

/-- The variables that matter. -/
def variableNames : List String :=
  ["HOME", "JSXLATE_BAKE_LANG", "JSXLATE_FALLBACK_LANG", "JSXLATE_INSERT_MODE",
    "JSXLATE_KEEP_CHILDREN", "JSXLATE_LANGS", "JSXLATE_NORMALIZER_VERSION",
    "JSXLATE_TRANSLATIONS_FILE"]

/-- The value of a variable; an empty one counts as missing. -/
def Environment.get? (environment : Environment) (name : String) : Option String :=
  (environment.lookup name).filter (· != "")

/-- The languages in a variable, between commas. -/
def languagesIn (text : String) : List String :=
  ((text.toList.splitOn ',').map fun part => Text.strip (String.ofList part)).filter (· != "")

def withEnvironment (environment : Environment) (settings : Settings) : Except Fault Settings := do
  let version ← match environment.get? "JSXLATE_NORMALIZER_VERSION" with
    | some text => versionOf (.text text)
    | none => pure settings.version
  let keepsChildren ← match environment.get? "JSXLATE_KEEP_CHILDREN" with
    | none => pure settings.build.keepsChildren
    | some text =>
      match truthOf? (.text text) with
      | some holds => pure holds
      | none => throw (.noTruth text)
  return { settings with
    languages := ((environment.get? "JSXLATE_LANGS").map languagesIn).getD settings.languages
    bookFile := (environment.get? "JSXLATE_TRANSLATIONS_FILE").getD settings.bookFile
    insertMode := (environment.get? "JSXLATE_INSERT_MODE").getD settings.insertMode
    version
    build := {
      language? := (environment.get? "JSXLATE_BAKE_LANG").or settings.build.language?
      fallback? := (environment.get? "JSXLATE_FALLBACK_LANG").or settings.build.fallback?
      keepsChildren } }

/-! ## All settings -/

/-- Refuse settings that cannot be used. -/
def check (settings : Settings) : Except Fault Unit := do
  if settings.languages.isEmpty then throw .noLanguage
  if settings.sourceDirectories.isEmpty then throw .noDirectory
  if !insertModes.contains settings.insertMode then throw (.insertMode settings.insertMode)
  if settings.indent.isEmpty then throw .noIndent
  match Version.ofNumber settings.version with
  | .ok _ => return
  | .error fault => throw (.version fault)

def ofDocument (environment : Environment) (document : Value) : Except Fault Settings := do
  let settings ← withEnvironment environment (← ofValue document)
  check settings
  return settings

end Phrasebook.Settings
