import Phrasebook.Exchange.Markup
import Phrasebook.Markup.Literal
import Phrasebook.Text.Source
import Mathlib.Data.List.Basic

/-!
# Quoted attributes

The replacements that quote a text do not touch what another one has written,
since the ampersand is the first that is replaced.  So together they quote one
character at a time, except that a carriage return and a line feed in a row are
quoted together.  Every sign of markup becomes a reference with a semicolon at
its end, so what follows cannot make a reference longer and what looks like one
in the text is none.  Quoted text stands for the text again, with a carriage
return for every line break.
-/

namespace Phrasebook.Text.Reference

section Decode

variable {name meaning reference text : List Char}

theorem decodeFrom_append (front text : List Char) :
    decodeFrom front.length (front ++ text) = decodeFrom 0 text := by
  induction front with
  | nil => rfl
  | cons first front ih => rw [List.length_cons, List.cons_append, decodeFrom, ih]

theorem decodeFrom_reference
    (found : at? (reference ++ text) = some (reference.length, meaning)) :
    decodeFrom 0 ('&' :: reference ++ text) = meaning ++ decodeFrom 0 text := by
  rw [List.cons_append, decodeFrom]
  simp [found, decodeFrom_append]

theorem decodeFrom_other {character : Char} (notReference : character ≠ '&') (text : List Char) :
    decodeFrom 0 (character :: text) = character :: decodeFrom 0 text := by
  simp [decodeFrom, notReference]

/-- A name is sought among texts, without taking each of them apart. -/
theorem ofName?_toList (name : String) :
    ofName? name.toList =
      (referenceNames.find? fun entry => entry.1 == name).map fun entry => entry.2.toList := by
  have isSame : (fun entry : String × String => entry.1.toList == name.toList) =
      fun entry => entry.1 == name := by
    funext entry
    rw [Bool.eq_iff_iff, beq_iff_eq, beq_iff_eq, String.toList_inj]
  rw [ofName?, isSame]

/-- A name reaches to the first semicolon. -/
theorem takeWhile_name (areNames : ∀ character ∈ name, isNameCharacter character = true)
    (short : name.length < 32) (text : List Char) :
    ((name ++ ';' :: text).take 32).takeWhile isNameCharacter = name := by
  obtain ⟨more, isMore⟩ : ∃ more, 32 - name.length = more + 1 := ⟨31 - name.length, by omega⟩
  have notName : isNameCharacter ';' = false := by decide
  rw [List.take_append, List.take_of_length_le (by omega), isMore, List.take_succ_cons,
    List.takeWhile_append_of_pos areNames, List.takeWhile_cons_of_neg (by simp [notName]),
    List.append_nil]

theorem at?_name (present : name ≠ []) (short : name.length < 32)
    (areNames : ∀ character ∈ name, isNameCharacter character = true)
    (known : ofName? (name ++ [';']) = some meaning) (text : List Char) :
    at? (name ++ [';'] ++ text) = some ((name ++ [';']).length, meaning) := by
  have isName := takeWhile_name areNames short text
  have behind : (name ++ ';' :: text).drop name.length = ';' :: text := List.drop_left
  have whole : (name ++ [';'] ++ text).take (name.length + 1) = name ++ [';'] :=
    List.take_left' (by simp)
  rw [List.append_assoc, List.singleton_append] at whole ⊢
  obtain ⟨first, others, rfl⟩ := List.exists_cons_of_ne_nil present
  have notNumber : first ≠ '#' := by
    rintro rfl
    exact absurd (areNames '#' List.mem_cons_self) (by decide)
  -- A number sign would begin a reference by number; a name has none.
  have isNamed :
      at? (first :: others ++ ';' :: text) = named? (first :: others ++ ';' :: text) := by
    rw [List.cons_append, at?.eq_def]
    split
    all_goals simp_all
  rw [isNamed, named?, isName]
  dsimp only
  rw [← List.length_cons (a := first), behind, semicolonAt, whole, known,
    beq_false_of_ne notNumber, if_neg Bool.false_ne_true, List.length_append, List.length_singleton]

theorem decodeFrom_name (name : List Char) (present : name ≠ []) (short : name.length < 32)
    (areNames : ∀ character ∈ name, isNameCharacter character = true)
    (known : ofName? (name ++ [';']) = some meaning) (text : List Char) :
    decodeFrom 0 ('&' :: (name ++ [';']) ++ text) = meaning ++ decodeFrom 0 text :=
  decodeFrom_reference (at?_name present short areNames known text)

end Decode

end Phrasebook.Text.Reference

namespace Phrasebook.Exchange

open Markup (Literal.attributeMeaning Literal.unquote)
open Text.Reference (decodeFrom decodeFrom_name decodeFrom_other decodeFrom_reference ofName?
  ofName?_toList)

/-- The signs that would end a quoted attribute or its tag, and line breaks. -/
def signs : List Char :=
  ['\'', '"', '<', '>', '\r', '\n']

/-- A character, but a carriage return for a line feed. -/
def returned (character : Char) : Char :=
  if character == '\n' then '\r' else character

/-- A text with a carriage return for every line break. -/
def withReturns (text : List Char) : List Char :=
  (Text.unifyLineEnds text).map returned

/-! ## Single characters -/

section Characters

variable {character : Char}

/-- The characters that a quoted attribute cannot hold, with their references. -/
def characterReferences : List (Char × String) :=
  [('&', "&amp;"), ('\'', "&apos;"), ('"', "&quot;"), ('<', "&lt;"), ('>', "&gt;"),
    ('\r', "&#13;"), ('\n', "&#13;")]

def quotedCharacter (character : Char) : List Char :=
  match characterReferences.lookup character with
  | some reference => reference.toList
  | none => [character]

theorem quotedCharacter_cases (character : Char) :
    (∃ reference, (character, reference) ∈ characterReferences ∧
      quotedCharacter character = reference.toList) ∨
    ((∀ reference, (character, reference) ∉ characterReferences) ∧
      quotedCharacter character = [character]) := by
  unfold quotedCharacter
  cases isListed : characterReferences.lookup character with
  | some reference =>
      obtain ⟨_, _, isTable, _⟩ := List.lookup_eq_some_iff.mp isListed
      exact .inl ⟨reference, isTable ▸ List.mem_append_right _ List.mem_cons_self, rfl⟩
  | none =>
      refine .inr ⟨fun reference pairMem => ?_, rfl⟩
      have other := List.lookup_eq_none_iff.mp isListed _ pairMem
      simp at other

/-- An unlisted character is neither a sign nor the start of a reference. -/
theorem notMem_of_unlisted
    (unlisted : ∀ reference, (character, reference) ∉ characterReferences) :
    character ∉ '&' :: signs := by
  intro isSign
  have areListed : ∀ sign ∈ '&' :: signs, sign ∈ characterReferences.map Prod.fst := by
    simp only [signs, List.forall_mem_cons]
    refine ⟨?_, ?_, ?_, ?_, ?_, ?_, ?_, List.forall_mem_nil _⟩ <;> decide
  obtain ⟨⟨_, reference⟩, pairMem, rfl⟩ := List.mem_map.mp (areListed character isSign)
  exact unlisted reference pairMem

theorem reference_facts : ∀ pair ∈ characterReferences,
    (∀ sign ∈ signs, sign ∉ pair.2.toList) ∧ pair.2.toList.head? = some '&' ∧
      '&' ∉ pair.2.toList.tail := by
  have areSafe : ∀ pair ∈ characterReferences,
      (signs.all fun sign => sign ∉ pair.2.toList) = true := by decide
  have areFirst : ∀ pair ∈ characterReferences,
      pair.2.toList.head? = some '&' ∧ '&' ∉ pair.2.toList.tail := by decide
  intro pair pairMem
  refine ⟨fun sign signMem => ?_, areFirst pair pairMem⟩
  exact of_decide_eq_true (List.all_eq_true.mp (areSafe pair pairMem) sign signMem)

/-- Every reference stands for its character, except that line breaks become carriage returns. -/
theorem decodeFrom_listed : ∀ pair ∈ characterReferences, ∀ text : List Char,
    decodeFrom 0 (pair.2.toList ++ text) = returned pair.1 :: decodeFrom 0 text := by
  have known : ∀ pair ∈
      [("amp;", '&'), ("apos;", '\''), ("quot;", '"'), ("lt;", '<'), ("gt;", '>')],
      ofName? pair.1.toList = some [pair.2] := by
    simp only [ofName?_toList]
    decide +kernel
  simp only [List.forall_mem_cons] at known
  obtain ⟨isAnd, isSingle, isDouble, isLess, isGreater, -⟩ := known
  have ofReturn : ∀ text, decodeFrom 0 ("&#13;".toList ++ text) = '\r' :: decodeFrom 0 text :=
    fun text => @decodeFrom_reference ['\r'] "#13;".toList text rfl
  simp only [characterReferences, List.forall_mem_cons]
  refine ⟨?_, ?_, ?_, ?_, ?_, ofReturn, ofReturn, List.forall_mem_nil _⟩
  · exact decodeFrom_name "amp".toList nofun (by decide) (List.all_eq_true.mp rfl) isAnd
  · exact decodeFrom_name "apos".toList nofun (by decide) (List.all_eq_true.mp rfl) isSingle
  · exact decodeFrom_name "quot".toList nofun (by decide) (List.all_eq_true.mp rfl) isDouble
  · exact decodeFrom_name "lt".toList nofun (by decide) (List.all_eq_true.mp rfl) isLess
  · exact decodeFrom_name "gt".toList nofun (by decide) (List.all_eq_true.mp rfl) isGreater

theorem decodeFrom_quotedCharacter (character : Char) (text : List Char) :
    decodeFrom 0 (quotedCharacter character ++ text) = returned character :: decodeFrom 0 text := by
  obtain ⟨reference, isListed, isQuoted⟩ | ⟨unlisted, isQuoted⟩ := quotedCharacter_cases character
  · rw [isQuoted, decodeFrom_listed _ isListed text]
  · have noSign := notMem_of_unlisted unlisted
    have isSame : returned character = character := by
      unfold returned
      grind [signs]
    rw [isQuoted, isSame]
    exact decodeFrom_other (by grind) text

end Characters

/-! ## Texts -/

/-- A text as the content of a quoted attribute, where each of its characters is looked at once. -/
def quotedInOnePass : List Char → List Char
  | [] => []
  | '\r' :: '\n' :: text => "&#13;".toList ++ quotedInOnePass text
  | character :: text => quotedCharacter character ++ quotedInOnePass text

/-- What is quoted is a line break of two characters or a single character. -/
theorem quotedInOnePass_induction {motive : List Char → List Char → Prop} (nil : motive [] [])
    (pair : ∀ text quoted, motive text quoted →
      motive ('\r' :: '\n' :: text) (quotedCharacter '\n' ++ quoted))
    (single : ∀ character text quoted, ('\r' = character → text.head? ≠ some '\n') →
      motive text quoted → motive (character :: text) (quotedCharacter character ++ quoted))
    (text : List Char) : motive text (quotedInOnePass text) := by
  induction text using quotedInOnePass.induct with
  | case1 => exact nil
  | case2 text ih => exact pair text _ ih
  | case3 character text notPair ih =>
      rw [quotedInOnePass.eq_3 character text notPair]
      refine single character text _ ?_ ih
      rintro rfl isFeed
      obtain ⟨others, rfl⟩ := List.head?_eq_some_iff.mp isFeed
      exact notPair others rfl rfl

theorem suffix_of_notMem {first : Char} {front back text : List Char} (absent : first ∉ front)
    (isBack : first :: back <:+ front ++ text) : first :: back <:+ text := by
  induction front with
  | nil => exact isBack
  | cons other front ih =>
      obtain isWhole | isBack := List.suffix_cons_iff.mp isBack
      · exact absurd ((List.cons.inj isWhole).1 ▸ List.mem_cons_self) absent
      · exact ih (fun later => absent (List.mem_cons_of_mem _ later)) isBack

/-- An ampersand begins what is written for a character or stands behind it. -/
theorem prefix_or_suffix {character : Char} {back text : List Char}
    (isBack : '&' :: back <:+ quotedCharacter character ++ text) :
    (∃ pair ∈ characterReferences, pair.2.toList <+: '&' :: back) ∨ '&' :: back <:+ text := by
  obtain ⟨reference, isListed, isQuoted⟩ | ⟨unlisted, isQuoted⟩ := quotedCharacter_cases character
  · obtain ⟨-, isHead, absent⟩ := reference_facts _ isListed
    obtain ⟨tail, isReference⟩ := List.head?_eq_some_iff.mp isHead
    rw [isReference, List.tail_cons] at absent
    rw [isQuoted, isReference, List.cons_append] at isBack
    obtain isWhole | isBack := List.suffix_cons_iff.mp isBack
    · refine .inl ⟨_, isListed, ?_⟩
      rw [isWhole, isReference]
      exact List.prefix_append _ _
    · exact .inr (suffix_of_notMem absent isBack)
  · rw [isQuoted] at isBack
    have noSign := notMem_of_unlisted unlisted
    exact .inr (suffix_of_notMem (by grind) isBack)

theorem notMem_quotedCharacter {sign : Char} (isSign : sign ∈ signs) (character : Char) :
    sign ∉ quotedCharacter character := by
  obtain ⟨reference, isListed, isQuoted⟩ | ⟨unlisted, isQuoted⟩ := quotedCharacter_cases character
  · rw [isQuoted]
    exact (reference_facts _ isListed).1 sign isSign
  · have noSign := notMem_of_unlisted unlisted
    rw [isQuoted, List.mem_singleton]
    rintro rfl
    exact noSign (List.mem_cons_of_mem _ isSign)

theorem withReturns_pair (text : List Char) :
    withReturns ('\r' :: '\n' :: text) = returned '\n' :: withReturns text := by
  rw [withReturns, Text.unifyLineEnds, List.map_cons, withReturns]

theorem withReturns_single {character : Char} {text : List Char}
    (notPair : '\r' = character → text.head? ≠ some '\n') :
    withReturns (character :: text) = returned character :: withReturns text := by
  have isUnified : Text.unifyLineEnds (character :: text) =
      (if character == '\r' then '\n' else character) :: Text.unifyLineEnds text := by
    refine Text.unifyLineEnds.eq_3 _ _ fun others isReturn isFeed => ?_
    exact notPair isReturn.symm (by rw [isFeed, List.head?_cons])
  have isReturned :
      returned (if character == '\r' then '\n' else character) = returned character := by
    unfold returned
    grind
  rw [withReturns, isUnified, List.map_cons, isReturned, withReturns]

/-! ## Replacements one after the other -/

section Replacements

variable {sign : Char} {replacement front text : List Char}

theorem replace_singleton (sign : Char) (replacement text : List Char) :
    Text.replace [sign] replacement text =
      text.flatMap fun character => if character == sign then replacement else [character] := by
  unfold Text.replace
  induction text with
  | nil => rfl
  | cons character text ih =>
      rw [Text.replaceFrom, List.length_singleton, Nat.sub_self, ih, List.flatMap_cons]
      by_cases same : character = sign
      · simp [same, List.isPrefixOf]
      · simp [same, Ne.symm same, List.isPrefixOf]

theorem flatMap_singleton_of_notMem (absent : sign ∉ front) :
    (front.flatMap fun character => if character == sign then replacement else [character]) =
      front := by
  refine (List.flatMap_congr fun character isMem => if_neg fun isSign => ?_).trans
    (List.flatMap_singleton' front)
  exact absent (beq_iff_eq.mp isSign ▸ isMem)

theorem replace_lineBreak (replacement text : List Char) :
    Text.replace ['\r', '\n'] replacement ('\r' :: '\n' :: text) =
      replacement ++ Text.replace ['\r', '\n'] replacement text := by
  rw [Text.replace, Text.replaceFrom, if_pos (by simp)]
  rfl

theorem replace_return (noFeed : text.head? ≠ some '\n') (replacement : List Char) :
    Text.replace ['\r', '\n'] replacement ('\r' :: text) =
      '\r' :: Text.replace ['\r', '\n'] replacement text := by
  rw [Text.replace, Text.replaceFrom, if_neg]
  · rfl
  · cases text with
    | nil => decide
    | cons next text =>
        have other : '\n' ≠ next := fun same => noFeed (same ▸ rfl)
        simp [other]

theorem replace_append_of_notMem (absent : '\r' ∉ front) (replacement text : List Char) :
    Text.replace ['\r', '\n'] replacement (front ++ text) =
      front ++ Text.replace ['\r', '\n'] replacement text := by
  induction front with
  | nil => rfl
  | cons first front ih =>
      rw [List.mem_cons, not_or] at absent
      have other : ¬['\r', '\n'].isPrefixOf (first :: (front ++ text)) = true := by
        simp [absent.1]
      rw [List.cons_append, Text.replace, Text.replaceFrom, if_neg other, List.cons_append,
        ← ih absent.2]
      rfl

/-- A character with its reference, unless it belongs to a line break. -/
def quotedSign (character : Char) : List Char :=
  if character == '\r' || character == '\n' then [character] else quotedCharacter character

/-- No sign is in the references of those that are replaced before it. -/
theorem foldl_take_five (text : List Char) :
    (attributeReferences.take 5).foldl (fun text (part, reference) =>
        Text.replace part.toList reference.toList text) text = text.flatMap quotedSign := by
  have each (character : Char) :
      ((((if character == '&' then "&amp;".toList else [character]).flatMap
        fun character => if character == '\'' then "&apos;".toList else [character]).flatMap
        fun character => if character == '"' then "&quot;".toList else [character]).flatMap
        fun character => if character == '<' then "&lt;".toList else [character]).flatMap
        (fun character => if character == '>' then "&gt;".toList else [character]) =
      quotedSign character := by
    by_cases isListed : character ∈ ['&', '\'', '"', '<', '>']
    · simp only [List.mem_cons, List.not_mem_nil, or_false] at isListed
      rcases isListed with rfl | rfl | rfl | rfl | rfl <;> rfl
    · simp only [List.mem_cons, List.not_mem_nil, or_false, not_or] at isListed
      obtain ⟨notAnd, notSingle, notDouble, notLess, notGreater⟩ := isListed
      have isItself : quotedSign character = [character] := by
        unfold quotedSign
        split
        · rfl
        · rename_i noBreak
          obtain ⟨reference, pairMem, _⟩ | ⟨_, isItself⟩ := quotedCharacter_cases character
          · simp_all [characterReferences]
          · exact isItself
      have keeps {sign : Char} (other : character ≠ sign) (reference : List Char) :
          (if character == sign then reference else [character]) = [character] :=
        if_neg (by simpa using other)
      simp only [isItself, keeps notAnd, keeps notSingle, keeps notDouble, keeps notLess,
        keeps notGreater, List.flatMap_singleton]
  have toLists : "&".toList = ['&'] ∧ "'".toList = ['\''] ∧ "\"".toList = ['"'] ∧
      "<".toList = ['<'] ∧ ">".toList = ['>'] := ⟨rfl, rfl, rfl, rfl, rfl⟩
  simp only [attributeReferences, List.take_succ_cons, List.take_zero, List.foldl_cons,
    List.foldl_nil, toLists, replace_singleton, List.flatMap_assoc]
  refine List.flatMap_congr fun character _ => ?_
  rw [← each]
  simp only [List.flatMap_assoc]

theorem notMem_quotedSign {character : Char} (isBreak : sign = '\r' ∨ sign = '\n')
    (other : character ≠ sign) : sign ∉ quotedSign character := by
  unfold quotedSign
  split
  · exact fun isMem => other (List.mem_singleton.mp isMem).symm
  · refine notMem_quotedCharacter ?_ character
    rcases isBreak with rfl | rfl <;> decide

theorem quotedSign_ne_nil (character : Char) : quotedSign character ≠ [] := by
  unfold quotedSign
  split
  · exact List.cons_ne_nil _ _
  · obtain ⟨reference, pairMem, isQuoted⟩ | ⟨_, isQuoted⟩ := quotedCharacter_cases character
    · rw [isQuoted]
      intro isNil
      have isHead := (reference_facts _ pairMem).2.1
      rw [isNil] at isHead
      contradiction
    · rw [isQuoted]
      exact List.cons_ne_nil _ _

theorem head?_flatMap_quotedSign (noFeed : text.head? ≠ some '\n') :
    (text.flatMap quotedSign).head? ≠ some '\n' := by
  cases text with
  | nil => exact noFeed
  | cons character text =>
      have other : character ≠ '\n' := fun same => noFeed (same ▸ rfl)
      have absent := notMem_quotedSign (.inr rfl) other
      obtain ⟨first, others, isSign⟩ := List.exists_cons_of_ne_nil (quotedSign_ne_nil character)
      rw [isSign] at absent
      rw [List.flatMap_cons, isSign]
      rintro isFeed
      exact absent (Option.some.inj isFeed ▸ List.mem_cons_self)

/-- Once the other signs are replaced, the three replacements of line breaks are one. -/
theorem replace_lineBreaks (text : List Char) :
    (((Text.replace ['\r', '\n'] "&#13;".toList (text.flatMap quotedSign)).flatMap
      fun character => if character == '\r' then "&#13;".toList else [character]).flatMap
      fun character => if character == '\n' then "&#13;".toList else [character]) =
        quotedInOnePass text := by
  induction text using quotedInOnePass_induction with
  | nil => rfl
  | pair text quoted ih =>
      have same : ('\r' :: '\n' :: text).flatMap quotedSign =
          '\r' :: '\n' :: text.flatMap quotedSign := rfl
      rw [same, replace_lineBreak, List.flatMap_append, List.flatMap_append, ih]
      rfl
  | single character text quoted notPair ih =>
      rw [List.flatMap_cons]
      by_cases isReturn : character = '\r'
      · subst isReturn
        have isFirst : quotedSign '\r' ++ text.flatMap quotedSign =
            '\r' :: text.flatMap quotedSign := rfl
        rw [isFirst, replace_return (head?_flatMap_quotedSign (notPair rfl)), List.flatMap_cons,
          List.flatMap_append, ih]
        rfl
      · have noReturn := notMem_quotedSign (.inl rfl) isReturn
        rw [replace_append_of_notMem noReturn, List.flatMap_append,
          flatMap_singleton_of_notMem noReturn, List.flatMap_append, ih]
        by_cases isFeed : character = '\n'
        · rw [isFeed]
          rfl
        · have isQuoted : quotedSign character = quotedCharacter character := by
            simp [quotedSign, isReturn, isFeed]
          rw [flatMap_singleton_of_notMem (notMem_quotedSign (.inr rfl) isFeed), isQuoted]

/-- The replacements one after the other give every character its reference. -/
theorem quoteAttribute_eq (text : List Char) : quoteAttribute text = quotedInOnePass text := by
  rw [← replace_lineBreaks, ← replace_singleton, ← replace_singleton, ← foldl_take_five]
  rfl

end Replacements

/-! ## Quoted texts -/

/-- What a quoted text promises: it ends neither its attribute nor its tag, its ampersands begin
references from the list and those only, and between quotes it stands for the text. -/
structure Quotes (text quoted : List Char) : Prop where
  safe : ∀ sign ∈ signs, sign ∉ quoted
  references : ∀ back, '&' :: back <:+ quoted →
    ∃ pair ∈ attributeReferences, pair.2.toList <+: '&' :: back
  meaning : ∀ quote, Literal.attributeMeaning (quote :: quoted ++ [quote]) =
    String.ofList (withReturns text)

theorem quotes_quoteAttribute (text : List Char) : Quotes text (quoteAttribute text) where
  safe sign isSign := by
    rw [quoteAttribute_eq]
    induction text using quotedInOnePass_induction with
    | nil => exact List.not_mem_nil
    | pair text quoted ih =>
        exact fun isMem => (List.mem_append.mp isMem).elim (notMem_quotedCharacter isSign _) ih
    | single character text quoted _ ih =>
        exact fun isMem => (List.mem_append.mp isMem).elim (notMem_quotedCharacter isSign _) ih
  references back := by
    have isReference : (∃ pair ∈ characterReferences, pair.2.toList <+: '&' :: back) →
        ∃ pair ∈ attributeReferences, pair.2.toList <+: '&' :: back := by
      rintro ⟨pair, pairMem, isPrefix⟩
      have areListed : ∀ pair ∈ characterReferences,
          (String.singleton pair.1, pair.2) ∈ attributeReferences := by decide
      exact ⟨_, areListed pair pairMem, isPrefix⟩
    rw [quoteAttribute_eq]
    induction text using quotedInOnePass_induction with
    | nil => exact fun isBack => absurd (List.suffix_nil.mp isBack) (List.cons_ne_nil _ _)
    | pair text quoted ih => exact fun isBack => (prefix_or_suffix isBack).elim isReference ih
    | single character text quoted _ ih =>
        exact fun isBack => (prefix_or_suffix isBack).elim isReference ih
  meaning quote := by
    have isDecoded : decodeFrom 0 (quotedInOnePass text) = withReturns text := by
      induction text using quotedInOnePass_induction with
      | nil => rfl
      | pair text quoted ih => rw [decodeFrom_quotedCharacter, ih, withReturns_pair]
      | single character text quoted notPair ih =>
          rw [decodeFrom_quotedCharacter, ih, withReturns_single notPair]
    rw [quoteAttribute_eq, Literal.attributeMeaning, Literal.unquote, Text.Reference.decode]
    simp [isDecoded]

example : quoteAttribute "a&lt\r\n'".toList = "a&amp;lt&#13;&apos;".toList := by
  decide

end Phrasebook.Exchange
