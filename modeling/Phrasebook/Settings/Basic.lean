/-!
# Settings

What a project says about its languages, its files and how they are written.
-/

namespace Phrasebook

/-- How sources are built. -/
structure BuildSettings where
  language? : Option String := none
  fallback? : Option String := none
  keepsChildren : Bool := true
deriving DecidableEq, Repr

namespace BuildSettings

/-- The languages to build for, the preferred one first. Without a preferred one there are none. -/
def languages (settings : BuildSettings) : List String :=
  let given := [settings.language?, settings.fallback?].filterMap fun language? =>
    language?.filter (· != "")
  if settings.language?.any (· != "") then given else []

end BuildSettings

/-- The settings of a project. -/
structure Settings where
  languages : List String := ["en"]
  sourceDirectories : List String := ["src"]
  extensions : List String := ["js", "jsx"]
  excludedDirectories : List String := []
  excludedFiles : List String := []
  insertMode : String := "relative"
  bookFile : String := "src/jsxlate-translations.js"
  importFile : String := "src/jsxlate.js"
  placesFile : String := ".jsxlate/refs.json"
  indent : String := "\t"
  version : Int := 0
  tag : String := "T"
  marker : String := "O"
  build : BuildSettings := {}
deriving DecidableEq, Repr

namespace Settings

/-- The ways in which new entries find their place. -/
def insertModes : List String :=
  ["relative", "append"]

/-- Whether new entries go to the end. -/
def appends (settings : Settings) : Bool :=
  settings.insertMode == "append"

/-- The settings that matter most, with their names. -/
def described (settings : Settings) : List (String × String) :=
  [("langs", ",".intercalate settings.languages),
    ("src_dirs", ",".intercalate settings.sourceDirectories),
    ("extensions", ",".intercalate settings.extensions),
    ("insert mode", if settings.appends then "append" else "relative insert"),
    ("translations_file", settings.bookFile),
    ("normalizer_version", toString settings.version)]

end Settings

end Phrasebook
