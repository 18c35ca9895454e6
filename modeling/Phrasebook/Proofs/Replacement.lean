import Phrasebook.Build.Basic
import Phrasebook.Proofs.Extraction
import Phrasebook.Proofs.Literals

/-!
# What takes the place of phrases and constants

An element that takes the place of a phrase has the key attribute of the phrase
and is one of four: with references or with markup, and with or without
children.  A constant is replaced by a word or by a literal for the language.
Both are described here by the texts that they put into a source.
-/

namespace Phrasebook.Build

open Markup
open Phrase (IsPhraseOf keyAttributeOf? marked)

/-! ## Elements -/

/-- The attributes by which an element refers to a phrase, with a blank before each of them. -/
def referenceText (phrase : Phrase) : String :=
  " k=\"" ++ phrase.key ++ "\" deps=\x7b[" ++ ", ".intercalate phrase.dependencies ++ "]\x7d"

/-- The source text of the key attribute of an element with a blank before it, if there is one. -/
def keyText (element : Site) : String :=
  ((keyAttributeOf? element).map (" " ++ ·)).getD ""

/-- What takes the place of a marked element. -/
inductive IsElementFor (options : BuildOptions) (element : Site) (phrase : Phrase) :
    String → Prop where
  /-- An element that is looked up when a program runs may keep its children. -/
  | keeping (notBuilt : options.book? = none ∨ options.languages = [])
      (keeps : options.keepsChildren = true) :
    IsElementFor options element phrase
      ("<" ++ options.tag ++ referenceText phrase ++ keyText element ++ ">" ++
        String.ofList element.tree.body ++ "</" ++ options.tag ++ ">")
  | closing (notBuilt : options.book? = none ∨ options.languages = [])
      (drops : options.keepsChildren = false) :
    IsElementFor options element phrase
      ("<" ++ options.tag ++ referenceText phrase ++ keyText element ++ "/>")
  /-- The first rendering in one of the languages gives the children, if it has markup. -/
  | inlined {book : Book} {rendering : Rendering} {markup : String}
      (isBook : options.book? = some book)
      (isFirst : (options.languages.findSome? fun language =>
        book.rendering? phrase.key language) = some rendering)
      (hasMarkup : rendering.markup? = some markup) :
    IsElementFor options element phrase
      ("<" ++ options.tag ++ keyText element ++ ">" ++ markup ++ "</" ++ options.tag ++ ">")
  | emptied {book : Book} {rendering : Rendering}
      (isBook : options.book? = some book)
      (isFirst : (options.languages.findSome? fun language =>
        book.rendering? phrase.key language) = some rendering)
      (noMarkup : rendering.markup? = none) :
    IsElementFor options element phrase
      ("<" ++ options.tag ++ referenceText phrase ++ keyText element ++ ">" ++
        "</" ++ options.tag ++ ">")

/-- An edit that puts one element in the place of a marked element. -/
structure ReplacesElement (origin : Phrase.Origin) (options : BuildOptions) (element : Site)
    (edit : Edit) : Prop where
  start : edit.start = element.start
  stop : edit.stop = element.stop
  text : ∃ phrase, origin.phraseOf options.tag options.version element = .ok phrase ∧
    IsElementFor options element phrase (String.ofList edit.text)

theorem ReplacesElement.span_eq {origin : Phrase.Origin} {options : BuildOptions} {element : Site}
    {edit : Edit} (replaces : ReplacesElement origin options element edit) :
    (element.start, element.stop) = (edit.start, edit.stop) := by
  rw [replaces.start, replaces.stop]

section Elements

variable {origin : Phrase.Origin} {options : BuildOptions} {element : Site} {phrase : Phrase}
  {made : Element}

theorem source?_eq_none_iff :
    options.source? = none ↔ options.book? = none ∨ options.languages = [] := by
  unfold BuildOptions.source?
  cases options.languages <;> simp

theorem source?_eq_some_iff {book : Book} :
    options.source? = some book ↔ options.book? = some book ∧ options.languages ≠ [] := by
  unfold BuildOptions.source?
  cases options.languages <;> simp

theorem join_attributes (isPhrase : phrase.keyAttribute? = keyAttributeOf? element) :
    String.join ((reference phrase ++ phrase.keyAttribute?.toList).map (" " ++ ·)) =
        referenceText phrase ++ keyText element ∧
      String.join (phrase.keyAttribute?.toList.map (" " ++ ·)) = keyText element := by
  rw [isPhrase, keyText]
  cases keyAttributeOf? element <;>
    refine ⟨String.toList_inj.mp ?_, String.toList_inj.mp ?_⟩ <;>
    simp [String.join, reference, referenceText]

theorem isElementFor_of_elementFor (isPhrase : phrase.keyAttribute? = keyAttributeOf? element)
    (isBody : phrase.body = String.ofList element.tree.body)
    (done : elementFor options phrase = .ok made) :
    IsElementFor options element phrase made.text := by
  obtain ⟨withReference, withoutReference⟩ := join_attributes isPhrase
  unfold elementFor at done
  split at done
  · rename_i book isSource
    obtain ⟨isBook, _⟩ := source?_eq_some_iff.mp isSource
    unfold rendered at done
    split at done
    · contradiction
    · rename_i rendering isFirst
      split at done
      · rename_i markup hasMarkup
        obtain rfl := Except.ok.inj done
        simp only [Element.text, withoutReference]
        rw [← String.append_assoc]
        exact .inlined isBook isFirst hasMarkup
      · rename_i noMarkup
        obtain rfl := Except.ok.inj done
        simp only [Element.text, withReference]
        rw [← String.append_assoc, ← String.append_assoc, String.append_empty]
        exact .emptied isBook isFirst noMarkup
  · rename_i isSource
    obtain rfl := Except.ok.inj done
    have notBuilt := source?_eq_none_iff.mp isSource
    unfold referring
    cases keeps : options.keepsChildren with
    | true =>
        simp only [Element.text, withReference, if_pos, isBody]
        rw [← String.append_assoc, ← String.append_assoc]
        exact .keeping notBuilt keeps
    | false =>
        simp only [Element.text, withReference, Bool.false_eq_true, if_false]
        rw [← String.append_assoc, ← String.append_assoc]
        exact .closing notBuilt keeps

theorem replacesElement_of_phraseEdit {edit : Edit}
    (isPhrase : origin.phraseOf options.tag options.version element = .ok phrase)
    (done : phraseEdit options phrase = .ok edit) :
    ReplacesElement origin options element edit := by
  have found := Phrase.isPhraseOf_of_phraseOf isPhrase
  unfold phraseEdit at done
  split at done
  · rename_i made isMade
    obtain rfl := Except.ok.inj done
    refine ⟨found.start, found.stop, phrase, isPhrase, ?_⟩
    rw [String.ofList_toList]
    exact isElementFor_of_elementFor found.keyAttribute? found.body isMade
  · contradiction

end Elements

/-! ## Constants -/

/-- The language that sources are built for: the first one, if there is a book to build from. -/
def IsBuiltFor (options : BuildOptions) (language : String) : Prop :=
  options.book?.isSome = true ∧ options.languages.head? = some language ∧ language ≠ ""

/-- What takes the place of a text literal that stands for a constant. -/
inductive IsConstantFor (options : BuildOptions) (literal : List Char) : String → Prop where
  | built {language : String} (isBuilt : IsBuiltFor options language)
      (isConstant : Literal.meaning? literal = some "JSXLATE_IS_BAKED") :
    IsConstantFor options literal "true"
  | notBuilt (notBuilt : ∀ language, ¬IsBuiltFor options language)
      (isConstant : Literal.meaning? literal = some "JSXLATE_IS_BAKED") :
    IsConstantFor options literal "false"
  /-- A literal for the language has the quotes of the one that it replaces. -/
  | language {language : String} {text : List Char} (isBuilt : IsBuiltFor options language)
      (isConstant : Literal.meaning? literal = some "JSXLATE_LANG")
      (isRead : IsReadAs text language)
      (sameQuote : text.head? = some (if literal.head? = some '\'' then '\'' else '"')) :
    IsConstantFor options literal (String.ofList text)

/-- An edit that puts a word or a literal in the place of a constant. -/
structure ReplacesConstant (options : BuildOptions) (literal : Site) (edit : Edit) : Prop where
  start : edit.start = literal.start
  stop : edit.stop = literal.stop
  text : IsConstantFor options literal.text (String.ofList edit.text)

theorem ReplacesConstant.span_eq {options : BuildOptions} {literal : Site} {edit : Edit}
    (replaces : ReplacesConstant options literal edit) :
    (literal.start, literal.stop) = (edit.start, edit.stop) := by
  rw [replaces.start, replaces.stop]

/-- A text literal outside all marked elements. -/
def isFreeLiteral (tag : String) (site : Site) : Bool :=
  site.tree.kind == .string && !site.around.any (Tree.isTagged tag.toList)

/-- The text literals that stand for constants outside all marked elements.  Where a source is not
built for a language, no literal stands for the language. -/
def constantSites (options : BuildOptions) (script : Tree) : List Site :=
  (Site.root script).walk.filter fun literal =>
    isFreeLiteral options.tag literal &&
      (Literal.meaning? literal.text == some "JSXLATE_IS_BAKED" ||
        Literal.meaning? literal.text == some "JSXLATE_LANG" && options.language?.isSome)

section Constants

variable {options : BuildOptions} {literal : Site} {edit : Edit}

theorem language?_eq_some_iff {language : String} :
    options.language? = some language ↔ IsBuiltFor options language := by
  unfold BuildOptions.language? IsBuiltFor BuildOptions.source?
  cases options.languages <;> cases options.book? <;> simp [and_comm]

/-- The edit for a text literal, if it stands for a constant. -/
def constantOf? (language? : Option String) (literal : Site) : Option Edit :=
  (Literal.meaning? literal.text).bind fun meaning =>
    (constantText? language? literal.text meaning).map fun text =>
      ⟨literal.start, literal.stop, text⟩

theorem constantEdit_eq_ok {language? : Option String} {edit? : Option Edit}
    (done : constantEdit language? literal = .ok edit?) :
    edit? = constantOf? language? literal := by
  unfold constantEdit at done
  split at done
  · contradiction
  · rename_i meaning isMeaning
    obtain rfl := Except.ok.inj done
    rw [constantOf?, isMeaning]
    rfl

theorem replacesConstant_of_constantOf?
    (isConstant : constantOf? options.language? literal = some edit) :
    ReplacesConstant options literal edit := by
  obtain ⟨meaning, isMeaning, isEdit⟩ := Option.bind_eq_some_iff.mp isConstant
  obtain ⟨text, isText, rfl⟩ := Option.map_eq_some_iff.mp isEdit
  refine ⟨rfl, rfl, ?_⟩
  unfold constantText? at isText
  split at isText
  · rename_i isBaked
    rw [beq_iff_eq.mp isBaked] at isMeaning
    obtain rfl := Option.some.inj isText
    rw [String.ofList_toList]
    cases isLanguage : options.language? with
    | some language => exact .built (language?_eq_some_iff.mp isLanguage) isMeaning
    | none =>
        refine .notBuilt (fun language isBuilt => ?_) isMeaning
        rw [language?_eq_some_iff.mpr isBuilt] at isLanguage
        contradiction
  · split at isText
    · rename_i isLanguageWord
      rw [beq_iff_eq.mp isLanguageWord] at isMeaning
      obtain ⟨language, isLanguage, rfl⟩ := Option.map_eq_some_iff.mp isText
      obtain ⟨isRead, sameQuote⟩ := isReadAs_languageLiteral language literal.text
      exact .language (language?_eq_some_iff.mp isLanguage) isMeaning isRead sameQuote
    · contradiction

/-- Of some literals, those that stand for constants are replaced. -/
theorem replacesConstant_of_constantEdit {literals : List Site} {edits : List (Option Edit)}
    (each : List.Forall₂ (fun literal edit? =>
      constantEdit options.language? literal = .ok edit?) literals edits) :
    List.Forall₂ (ReplacesConstant options)
      (literals.filter fun literal => (constantOf? options.language? literal).isSome)
      (edits.filterMap id) := by
  induction each with
  | nil => exact .nil
  | @cons literal edit? literals edits done _ ih =>
      rw [constantEdit_eq_ok done]
      cases isConstant : constantOf? options.language? literal with
      | none => simpa [isConstant] using ih
      | some edit => simpa [isConstant] using ⟨replacesConstant_of_constantOf? isConstant, ih⟩

theorem isSome_constantOf? (options : BuildOptions) (literal : Site) :
    (constantOf? options.language? literal).isSome =
      (Literal.meaning? literal.text == some "JSXLATE_IS_BAKED" ||
        Literal.meaning? literal.text == some "JSXLATE_LANG" && options.language?.isSome) := by
  unfold constantOf?
  cases Literal.meaning? literal.text with
  | none => rfl
  | some meaning =>
      simp only [Option.bind_some, Option.isSome_map, Option.some_beq_some]
      unfold constantText? bakedConstant languageConstant
      cases isBaked : meaning == "JSXLATE_IS_BAKED" with
      | true => rfl
      | false =>
          cases isLanguage : meaning == "JSXLATE_LANG" with
          | true => simp
          | false => rfl

end Constants

end Phrasebook.Build
