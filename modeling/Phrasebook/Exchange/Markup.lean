import Phrasebook.Exchange.Document
import Phrasebook.Text.Lowercase
import Phrasebook.Text.Replace

/-!
# Nodes as markup

How the nodes of a document are written in a source.
-/

namespace Phrasebook.Exchange

/-- The tags that have no content. -/
def voidTags : List String :=
  ["area", "base", "br", "col", "embed", "hr", "img", "input", "keygen", "link", "meta", "param",
    "source", "track", "wbr"]

/-- What a quoted attribute cannot hold, with the references that are put in its place one after the
other. Every line break becomes the same reference. -/
def attributeReferences : List (String × String) :=
  [("&", "&amp;"), ("'", "&apos;"), ("\"", "&quot;"), ("<", "&lt;"), (">", "&gt;"),
    ("\r\n", "&#13;"), ("\r", "&#13;"), ("\n", "&#13;")]

/-- A text as the content of a quoted attribute. -/
def quoteAttribute (text : List Char) : List Char :=
  attributeReferences.foldl
    (fun text (part, reference) => Text.replace part.toList reference.toList text) text

/-- An attribute in a tag. -/
def Attribute.code (entry : Attribute) : String :=
  " " ++ entry.name ++
    match entry.value? with
    | none => ""
    | some (.text quote value) =>
      let quote := String.singleton quote.character
      "=" ++ quote ++ String.ofList (quoteAttribute value.toList) ++ quote
    | some (.code code) => "=" ++ code

/-- A text with every line break followed by an indentation. -/
def indentLines (indentation : List Char) : List Char → List Char
  | [] => []
  | '\r' :: '\n' :: text => '\n' :: indentation ++ indentLines indentation text
  | character :: text =>
    (if character == '\n' || character == '\r' then '\n' :: indentation else [character]) ++
      indentLines indentation text

/-- Whether a tag has no content. -/
def isVoid (name : String) : Bool :=
  voidTags.contains (Text.lower name)

mutual

def Node.markup (indent : String) : Node → String
  | .text value =>
    String.ofList (indentLines (indent ++ indent ++ indent ++ indent).toList value.toList)
  | .code code => code
  | .tag name attributes children =>
    let opening := name ++ String.join (attributes.map Attribute.code)
    if isVoid name then "<" ++ opening ++ "/>"
    else "<" ++ opening ++ ">" ++ nodesMarkup indent children ++ "</" ++ name ++ ">"

/-- The source text of nodes. -/
def nodesMarkup (indent : String) : List Node → String
  | [] => ""
  | node :: nodes => node.markup indent ++ nodesMarkup indent nodes

end

end Phrasebook.Exchange
