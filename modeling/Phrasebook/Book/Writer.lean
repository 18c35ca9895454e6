import Phrasebook.Book.Basic
import Phrasebook.Json.Literal

/-!
# Writing books

A book is written as its preamble followed by the default export of an object
with one member for each entry.
-/

namespace Phrasebook.Book

/-- The line that marks an entry whose renderings still have to be written. -/
def newMarker : String :=
  "\"_new\": true, // FIXME remove this line when translation is done"

/-- The line that marks an entry whose phrase is gone from the sources. -/
def deletedMarker : String :=
  "\"_deleted\": true, // FIXME translation has no references; " ++
    "delete this entire section if you no longer need it"

def literal (text : String) : String :=
  String.ofList (Json.literal false text)

/-- The member for a rendering. -/
def renderingText (dependencies : List String) (rendering : Rendering) : String :=
  literal rendering.language ++ ": (" ++ ", ".intercalate dependencies ++ ") => " ++
    rendering.body ++ ",\n"

/-- The members of an entry, each without its indentation. -/
def memberTexts (entry : Entry) : List String :=
  entry.notes.map (· ++ ",\n") ++
    (if entry.isNew then [newMarker ++ "\n"] else []) ++
    (if entry.isDeleted then [deletedMarker ++ "\n"] else []) ++
    (if entry.context.isEmpty then []
      else ["\"_context\": " ++ literal entry.context ++ ",\n"]) ++
    entry.renderings.map (renderingText entry.dependencies)

def entryText (indent : String) (entry : Entry) : String :=
  indent ++ literal entry.key ++ ": \x7b\n" ++
    String.join ((memberTexts entry).map fun text => indent ++ indent ++ text) ++
    indent ++ "\x7d,\n"

def text (indent : String) (book : Book) : String :=
  book.preamble ++ "export default \x7b\n" ++
    "\n".intercalate (book.entries.map (entryText indent)) ++ "\x7d\n"

end Phrasebook.Book
