import Phrasebook.Disk.Specifier
import Phrasebook.Json.Literal
import Phrasebook.Settings.Basic

/-!
# Starter files

The files of a new project: an empty book, and the module that makes the
tag around phrases for the sources.
-/

namespace Phrasebook.Starter

/-- Lines as text. -/
def ofLines (lines : List String) : String :=
  String.join (lines.map (· ++ "\n"))

/-- A character of a literal, escaped if it means something in markup. -/
def escapeMarkup (character : Char) : List Char :=
  if character == '<' then "\\u003c".toList
  else if character == '>' then "\\u003e".toList
  else if character == '&' then "\\u0026".toList
  else if character == '\'' then "\\u0027".toList
  else [character]

/-- A text as a literal that may stand in markup. -/
def safeLiteral (text : String) : String :=
  String.ofList ((Json.literal true text).flatMap escapeMarkup)

/-- The empty book. -/
def bookText (settings : Settings) : String :=
  let marker := settings.marker
  let language := settings.languages.head?.getD ""
  ofLines [
    "import React from 'react';",
    "const " ++ marker ++ " = React.Fragment;",
    "",
    "// This is your translations file. It is rewritten by \x60jsxlate update\x60, which",
    "// parses it, adds new translations and updates the underscore-prefixed fields",
    "// to reflect changes in your sources. To avoid nasty surprises:",
    "//  - Everything before the export statement is kept as-is; you can add imports,",
    "//    helper functions and whatever else you need here.",
    "//  - Everything inside the export statement except function bodies is rebuilt.",
    "//    Comments and formatting you add there are overwritten, and unexpected",
    "//    content makes \x60jsxlate update\x60 consider the file corrupt.",
    "//  - Hash-prefixed keys such as \"#comment\" are preserved; use them to annotate",
    "//    translations.",
    "//  - Function bodies may use block form or expression form; both of these are",
    "//    valid and equivalent:",
    "//       \"" ++ language ++ "\": () => \x7b",
    "//           return <" ++ marker ++ ">Hello world!</" ++ marker ++ ">",
    "//       \x7d,",
    "//       \"" ++ language ++ "\": () => <" ++ marker ++ ">Hello world!</" ++ marker ++ ">,",
    "//    Once a translation exists it is never touched again, so convert between",
    "//    the two styles as you wish. One-line translations are added in expression",
    "//    form.",
    "//  - Run \x60jsxlate update\x60 before committing; it verifies the file.",
    "//",
    "// See also the import file (" ++ settings.importFile ++ ") for usage notes.",
    "",
    "export default \x7b",
    "\x7d"]

/-- The module that makes the tag around phrases, with the specifier of the book, the usual language
and the name of the tag. -/
def moduleText (specifier language tag : String) : String :=
  ofLines [
    "import React from 'react';",
    "import translations from '" ++ specifier ++ "';",
    "",
    "let setup, module;",
    "/* \x60jsxlate build\x60 replaces the \"JSXLATE_IS_BAKED\" and \"JSXLATE_LANG\" string",
    " * literals with the build mode and the baked language. */",
    "if (\"JSXLATE_IS_BAKED\") \x7b",
    "\tsetup = require('jsxlate/setup-baked');",
    "\tmodule = setup(\x7b",
    "\t\ttranslations,",
    "\t\tlang: \"JSXLATE_LANG\",",
    "\t\x7d);",
    "\x7d else \x7b",
    "\tsetup = require('jsxlate/setup');",
    "\tmodule = setup(\x7b",
    "\t\ttranslations,",
    "\t\tdefault_lang: " ++ language ++ ",",
    "\t\x7d);",
    "\x7d",
    "",
    "const \x7b " ++ tag ++ ", Provider, Consumer \x7d = module;",
    "",
    "/* Usage:",
    " *   <" ++ tag ++ ">translate me</" ++ tag ++ ">",
    " *   <" ++ tag ++ ">You have \x7bcount\x7d unread message(s)</" ++ tag ++
      ">   ('count' becomes a dependency)",
    " *   <" ++ tag ++ " context=\"file\">Save</" ++ tag ++
      ">                     (context separates identical texts)",
    " *   <" ++ tag ++ " deps=\x7b[count]\x7d>You have messages</" ++ tag ++
      ">         (extra dependencies)",
    " * Rules:",
    " *   - <" ++ tag ++ ">-tags cannot be nested",
    " *   - no inline functions and no 'this' inside <" ++ tag ++ ">-tags",
    " *   - only the 'deps', 'context' and 'key' attributes are supported",
    " */",
    "export \x7b " ++ tag ++ ", Provider, Consumer \x7d"]

/-- The module that makes the tag around phrases, unless the book has no specifier in it. -/
def importText? (root : Disk.Path) (settings : Settings) : Option String :=
  (Disk.specifierFor? root.parts (root.join (Disk.Path.ofString settings.importFile))
    (root.join (Disk.Path.ofString settings.bookFile))).map fun specifier =>
      moduleText specifier (safeLiteral (settings.languages.head?.getD "")) settings.tag

end Phrasebook.Starter
