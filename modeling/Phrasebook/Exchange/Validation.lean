import Phrasebook.Exchange.Document
import Phrasebook.Json.Reader

/-!
# Validation of documents

A value is accepted as a document if it has the right fields of the right
types.  All problems are reported, in the order of the fields, each with the
way to it.  Fields that a document does not know are ignored.
-/

namespace Phrasebook.Exchange

/-- What is wrong with a value. -/
inductive ProblemKind where
  | notJson
  | notObject
  | notTagged
  | noTag
  | unknownTag
  | missing
  | notList
  | notText
  | notTruth
  | unclearTruth
  | notAmong
deriving DecidableEq, Repr

/-- The name of a problem. -/
def ProblemKind.title : ProblemKind → String
  | notJson => "json_invalid"
  | notObject => "model_type"
  | notTagged => "dict_type"
  | noTag => "union_tag_not_found"
  | unknownTag => "union_tag_invalid"
  | missing => "missing"
  | notList => "list_type"
  | notText => "string_type"
  | notTruth => "bool_type"
  | unclearTruth => "bool_parsing"
  | notAmong => "literal_error"

/-- A step on the way into a value. -/
inductive Step where
  | field (name : String)
  | item (index : Nat)
deriving DecidableEq, Repr

structure Problem where
  kind : ProblemKind
  way : List Step
deriving DecidableEq, Repr

/-- A value that was accepted, or all problems of the one that was given. -/
abbrev Checked (α : Type) : Type :=
  Except (List Problem) α

namespace Checked

def fail {α : Type} (kind : ProblemKind) : Checked α :=
  .error [⟨kind, []⟩]

/-- Problems one step further down. -/
def under {α : Type} (step : Step) (checked : Checked α) : Checked α :=
  checked.mapError fun problems =>
    problems.map fun problem => { problem with way := step :: problem.way }

/-- Two values, or the problems of both. -/
def both {α β γ : Type} (combine : α → β → γ) : Checked α → Checked β → Checked γ
  | .ok left, .ok right => .ok (combine left right)
  | .ok _, .error problems => .error problems
  | .error problems, .ok _ => .error problems
  | .error left, .error right => .error (left ++ right)

/-- All values from an index on, or the problems of all of them. -/
def all {α : Type} (index : Nat) : List (Checked α) → Checked (List α)
  | [] => .ok []
  | first :: others => both List.cons (under (.item index) first) (all (index + 1) others)

end Checked

open Checked

/-- A field that must be there. -/
def required {α : Type} (name : String) (check : Value → Checked α) (value : Value) : Checked α :=
  under (.field name)
    (match value.field? name with
    | some field => check field
    | none => fail .missing)

/-- A field with a value for the case that it is not there. -/
def optional {α : Type} (name : String) (default : α) (check : Value → Checked α)
    (value : Value) : Checked α :=
  under (.field name)
    (match value.field? name with
    | some field => check field
    | none => .ok default)

def checkText : Value → Checked String
  | .text characters => .ok characters
  | _ => fail .notText

/-- The words for truth values, in any case. -/
def truthWords : List (String × Bool) :=
  [("0", false), ("off", false), ("f", false), ("false", false), ("n", false), ("no", false),
    ("1", true), ("on", true), ("t", true), ("true", true), ("y", true), ("yes", true)]

def truthOfInt (number : Int) : Checked Bool :=
  if number == 0 then .ok false else if number == 1 then .ok true else fail .unclearTruth

/-- Whether a number fits into 64 bits. -/
def isSmall (number : Int) : Bool :=
  -9223372036854775808 ≤ number && number < 9223372036854775808

def checkTruth : Value → Checked Bool
  | .truth holds => .ok holds
  | .integer number => if isSmall number then truthOfInt number else fail .notTruth
  | .decimal number =>
    match number.toInt? with
    | some number => if isSmall number then truthOfInt number else fail .notTruth
    | none => fail .notTruth
  | .text characters =>
    match truthWords.lookup characters.toLower with
    | some holds => .ok holds
    | none => fail .unclearTruth
  | _ => fail .notTruth

/-- A value or nothing. -/
def checkOptional {α : Type} (check : Value → Checked α) : Value → Checked (Option α)
  | .null => .ok none
  | value => (check value).map some

def checkList {α : Type} (check : Value → Checked α) : Value → Checked (List α)
  | .list items => all 0 (items.map check)
  | _ => fail .notList

def checkObject {α : Type} (check : Value → Checked α) : Value → Checked α
  | .mapping entries => check (.mapping entries)
  | _ => fail .notObject

/-- A value whose kind is given by a field, checked by the check for its kind. -/
def checkTagged {α : Type} (checks : List (String × (Value → Checked α))) :
    Value → Checked α
  | .mapping entries =>
    match Value.field? (.mapping entries) "type" with
    | none => fail .noTag
    | some (.text name) =>
      match checks.lookup name with
      | some check => under (.field name) (check (.mapping entries))
      | none => fail .unknownTag
    | some _ => fail .unknownTag
  | _ => fail .notTagged

def checkQuote : Value → Checked Quote
  | .text "\"" => .ok .double
  | .text "'" => .ok .single
  | _ => fail .notAmong

def checkAttributeValue : Value → Checked AttributeValue :=
  checkTagged [
    ("text", fun value =>
      both AttributeValue.text (optional "quote" .double checkQuote value)
        (required "value" checkText value)),
    ("expr", fun value => (required "code" checkText value).map AttributeValue.code)]

def checkAttribute : Value → Checked Attribute :=
  checkObject fun value =>
    both Attribute.mk (required "name" checkText value)
      (optional "value" none (checkOptional checkAttributeValue) value)

/-- A node that is nested no deeper than given. -/
def checkNode : Nat → Value → Checked Node
  | 0, _ => fail .notTagged
  | depth + 1, value =>
    checkTagged [
      ("text", fun value => (required "value" checkText value).map Node.text),
      ("expr", fun value => (required "code" checkText value).map Node.code),
      ("tag", fun value =>
        both (fun name (rest : List Attribute × List Node) => Node.tag name rest.1 rest.2)
          (required "name" checkText value)
          (both Prod.mk (optional "attributes" [] (checkList checkAttribute) value)
            (optional "children" [] (checkList (checkNode depth)) value)))]
      value

/-- How deep a document may be nested. -/
def depthLimit : Nat :=
  200

def checkWording : Value → Checked Wording :=
  checkObject fun value =>
    both Wording.mk (required "lang" checkText value)
      (optional "markers" [] (checkList (checkList (checkNode depthLimit))) value)

def checkItem : Value → Checked Item :=
  checkObject fun value =>
    both (fun (front : String × Option Bool) (back : Bool × List Wording) =>
        Item.mk front.1 front.2 back.1 back.2)
      (both Prod.mk (required "key" checkText value)
        (optional "is_new" none (checkOptional checkTruth) value))
      (both Prod.mk (optional "is_deleted" false checkTruth value)
        (optional "translations" [] (checkList checkWording) value))

def checkDocument : Value → Checked Document :=
  checkObject fun value =>
    (optional "entries" [] (checkList checkItem) value).map Document.mk

def Document.read (text : String) : Checked Document :=
  match Json.read? depthLimit text with
  | some value => checkDocument value
  | none => fail .notJson

end Phrasebook.Exchange
