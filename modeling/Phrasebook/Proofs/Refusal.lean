import Phrasebook.Proofs.Provenance
import Phrasebook.Proofs.StoreRun

/-!
# Refusals

A text that is no book is refused as a corrupt one, and a text that is no
store as one with a fault, but for two causes: an escape with braces for a
number that no character has, and a line number of digits that write none.
-/

namespace Phrasebook

/-! ## Why steps fail -/

/-- Every fault of an outcome has a cause. -/
def FailsBy {ε α : Type} (cause : ε → Prop) (outcome : Except ε α) : Prop :=
  ∀ fault, outcome = .error fault → cause fault

section FailsBy

variable {ε α β : Type} {cause : ε → Prop}

theorem failsBy_ok (value : α) : FailsBy cause (.ok value : Except ε α) := by
  intro fault failed
  contradiction

theorem failsBy_error {fault : ε} (isCause : cause fault) :
    FailsBy cause (.error fault : Except ε α) := by
  intro other failed
  rwa [← Except.error.inj failed]

theorem FailsBy.bind {outcome : Except ε α} {next : α → Except ε β}
    (first : FailsBy cause outcome)
    (others : ∀ value, outcome = .ok value → FailsBy cause (next value)) :
    FailsBy cause (outcome >>= next) := by
  cases outcome with
  | error fault => exact failsBy_error (first fault rfl)
  | ok value => exact others value rfl

theorem FailsBy.map {outcome : Except ε α} (fails : FailsBy cause outcome) (change : α → β) :
    FailsBy cause (outcome.map change) := by
  cases outcome with
  | error fault => exact failsBy_error (fails fault rfl)
  | ok value => exact failsBy_ok _

theorem failsBy_mapM {step : α → Except ε β} {values : List α}
    (fails : ∀ value ∈ values, FailsBy cause (step value)) : FailsBy cause (values.mapM step) := by
  induction values with
  | nil => exact failsBy_ok _
  | cons value values ih =>
      obtain ⟨isFirst, areOthers⟩ := List.forall_mem_cons.mp fails
      rw [List.mapM_cons]
      exact isFirst.bind fun _ _ => (ih areOthers).bind fun _ _ => failsBy_ok _

theorem failsBy_foldlM {step : β → α → Except ε β} {values : List α}
    (fails : ∀ state, ∀ value ∈ values, FailsBy cause (step state value)) (first : β) :
    FailsBy cause (values.foldlM step first) := by
  induction values generalizing first with
  | nil => exact failsBy_ok _
  | cons value values ih =>
      rw [List.foldlM_cons]
      have areOthers : ∀ state, ∀ other ∈ values, FailsBy cause (step state other) :=
        fun state other otherMem => fails state other (List.mem_cons_of_mem value otherMem)
      exact (fails first value List.mem_cons_self).bind fun next _ => ih areOthers next

end FailsBy

/-! ## Literals without a meaning -/

namespace Markup.Literal

section Meaning

theorem numberAt_lt {base : Nat} (positive : 0 < base) (value : Nat) (text : List Char) :
    (Text.Reference.numberAt base value text).1 < (value + 1) * base ^ text.length := by
  have lt_mul_pow : ∀ value count : Nat, value < (value + 1) * base ^ count := fun value count =>
    Nat.lt_of_lt_of_le (Nat.lt_succ_self value)
      (Nat.le_mul_of_pos_right _ (Nat.pow_pos positive))
  induction text generalizing value with
  | nil => exact lt_mul_pow value 0
  | cons character text ih =>
      rw [Text.Reference.numberAt]
      cases Text.Reference.hexValue? character with
      | none => exact lt_mul_pow value _
      | some digit =>
          dsimp only
          split_ifs with isDigit
          · calc (Text.Reference.numberAt base (value * base + digit) text).1
                < (value * base + digit + 1) * base ^ text.length := ih _
              _ ≤ (value + 1) * base * base ^ text.length := by
                  refine Nat.mul_le_mul_right _ ?_
                  rw [Nat.succ_mul]
                  omega
              _ = (value + 1) * base ^ (character :: text).length := by
                  rw [List.length_cons, Nat.pow_succ', Nat.mul_assoc]
          · exact lt_mul_pow value _

/-- Only the digits of an escape with braces can give a number above those of all characters. -/
theorem isBraced_of_numberEscape? {text : List Char} {length number : Nat}
    (isEscape : numberEscape? text = some (length, number)) (large : 0x10FFFF < number) :
    ['u', '\x7b'] <+: text := by
  have number_lt (digits : List Char) (count : Nat) :
      (Text.Reference.numberAt 16 0 (digits.take count)).1 < 16 ^ count := by
    calc (Text.Reference.numberAt 16 0 (digits.take count)).1
        < (0 + 1) * 16 ^ (digits.take count).length := numberAt_lt (by decide) 0 _
      _ ≤ 16 ^ count := by
          rw [Nat.zero_add, Nat.one_mul]
          exact Nat.pow_le_pow_right (by decide) (List.length_take_le _ _)
  unfold numberEscape? at isEscape
  dsimp only at isEscape
  split at isEscape
  · exact ⟨_, rfl⟩
  · rename_i digits _
    split_ifs at isEscape
    obtain ⟨-, rfl⟩ := Prod.mk.inj (Option.some.inj isEscape)
    have small := number_lt (('u' :: digits).drop 1) 4
    omega
  · rename_i digits
    split_ifs at isEscape
    obtain ⟨-, rfl⟩ := Prod.mk.inj (Option.some.inj isEscape)
    have small := number_lt (('x' :: digits).drop 1) 2
    omega
  · contradiction

theorem isBraced_of_escapeAt {text : List Char} (noMeaning : escapeAt text = none) :
    ['u', '\x7b'] <+: text := by
  unfold escapeAt at noMeaning
  split at noMeaning
  · rename_i length number isEscape
    split_ifs at noMeaning with large
    exact isBraced_of_numberEscape? isEscape large
  · split at noMeaning <;> contradiction

/-- A literal without a meaning has an escape with braces. -/
theorem isBraced_of_decodeFrom {read : Nat} {text : List Char}
    (noMeaning : decodeFrom read text = none) : ['\\', 'u', '\x7b'] <:+: text := by
  fun_induction decodeFrom read text with
  | case1 => contradiction
  | case2 read first text ih => exact (ih noMeaning).trans (List.suffix_cons _ _).isInfix
  | case3 first text isEscape noEscape =>
      obtain rfl := beq_iff_eq.mp isEscape
      exact (List.cons_prefix_cons.mpr ⟨rfl, isBraced_of_escapeAt noEscape⟩).isInfix
  | case4 first text isEscape length meaning _ ih =>
      exact (ih (Option.map_eq_none_iff.mp noMeaning)).trans (List.suffix_cons _ _).isInfix
  | case5 first text notEscape ih =>
      exact (ih (Option.map_eq_none_iff.mp noMeaning)).trans (List.suffix_cons _ _).isInfix

/-- A literal without escapes stands for itself. -/
theorem decodeFrom_of_notMem {text : List Char} (noEscape : '\\' ∉ text) :
    decodeFrom 0 text = some (text.map Char.toNat) := by
  induction text with
  | nil => rfl
  | cons first text ih =>
      rw [List.mem_cons, not_or] at noEscape
      have notEscape : (first == '\\') = false := beq_eq_false_iff_ne.mpr (Ne.symm noEscape.1)
      rw [decodeFrom, notEscape, ih noEscape.2]
      rfl

theorem unquote_isInfix (literal : List Char) : unquote literal <:+: literal :=
  (List.dropLast_prefix _).isInfix.trans (List.drop_suffix 1 literal).isInfix

theorem isBraced_of_meaning? {literal : List Char} (noMeaning : meaning? literal = none) :
    ['\\', 'u', '\x7b'] <:+: literal :=
  (isBraced_of_decodeFrom (Option.map_eq_none_iff.mp noMeaning)).trans (unquote_isInfix literal)

theorem subset_of_meaning? {literal : List Char} {text : String} (noEscape : '\\' ∉ literal)
    (isMeaning : meaning? literal = some text) : text.toList ⊆ literal := by
  have noEscapeWithin : '\\' ∉ unquote literal :=
    fun escapeMem => noEscape ((unquote_isInfix literal).subset escapeMem)
  obtain ⟨codes, isDecoded, rfl⟩ := Option.map_eq_some_iff.mp isMeaning
  obtain rfl := Option.some.inj ((decodeFrom_of_notMem noEscapeWithin).symm.trans isDecoded)
  have itself : Text.characterFor ∘ Char.toNat = id := funext Text.characterFor_toNat
  rw [String.toList_ofList, List.map_map, itself, List.map_id]
  exact (unquote_isInfix literal).subset

end Meaning

end Markup.Literal

/-! ## Lines without a number -/

/-- A text is that of a place, but a digit of the line is of those that write no number. -/
def LacksLine (text : String) : Prop :=
  ∃ path line, splitLastColon text.toList = some (path, line) ∧
    (∀ digit ∈ line, Text.isDigit digit = true) ∧ ∃ digit ∈ line, Text.digitValue? digit = none

section LacksLine

theorem exists_digitValue?_eq_none {value : Nat} {digits : List Char}
    (noNumber : Text.natOfDigits? value digits = none) :
    ∃ digit ∈ digits, Text.digitValue? digit = none := by
  induction digits generalizing value with
  | nil => contradiction
  | cons digit digits ih =>
      rw [Text.natOfDigits?] at noNumber
      split at noNumber
      · rename_i noValue
        exact ⟨digit, List.mem_cons_self, noValue⟩
      · obtain ⟨other, otherMem, noValue⟩ := ih noNumber
        exact ⟨other, List.mem_cons_of_mem _ otherMem, noValue⟩

theorem lacksLine_of_natOfDigits? {text : String} {path line : List Char}
    (isSplit : splitLastColon text.toList = some (path, line))
    (areDigits : line.all Text.isDigit = true) (noNumber : Text.natOfDigits? 0 line = none) :
    LacksLine text :=
  ⟨path, line, isSplit, List.all_eq_true.mp areDigits, exists_digitValue?_eq_none noNumber⟩

theorem LacksLine.exists_mem {text : String} (lacksLine : LacksLine text) :
    ∃ digit ∈ text.toList, Text.isDigit digit = true ∧ Text.digitValue? digit = none := by
  obtain ⟨path, line, isSplit, areDigits, digit, digitMem, noValue⟩ := lacksLine
  refine ⟨digit, ?_, areDigits digit digitMem, noValue⟩
  unfold splitLastColon at isSplit
  have whole := List.span_eq_takeWhile_dropWhile (p := (· != ':')) (l := text.toList.reverse)
  split at isSplit
  · contradiction
  · rename_i after colon before isSpan
    obtain ⟨rfl, rfl⟩ := Prod.mk.inj (Option.some.inj isSplit)
    rw [whole] at isSpan
    have isAfter := (Prod.mk.inj isSpan).1
    rw [List.mem_reverse, ← isAfter] at digitMem
    exact List.mem_reverse.mp ((List.takeWhile_prefix _).subset digitMem)

end LacksLine

/-! ## Books -/

namespace Book

open Markup

/-- A text is refused as corrupt. -/
def ReadError.IsCorrupt : ReadError → Prop
  | .corrupt _ _ => True
  | .noCharacter | .noNumber => False

/-- Why the text of a script is refused as a book. -/
def IsCause (script : Site) : ReadError → Prop
  | .corrupt _ _ => True
  | .noCharacter =>
    ∃ literal ∈ script.walk, literal.tree.kind = .string ∧ Literal.meaning? literal.text = none
  | .noNumber =>
    ∃ literal ∈ script.walk, literal.tree.kind = .string ∧
      ∃ text, Literal.meaning? literal.text = some text ∧ LacksLine text

/-- What a text holds that is refused for a fault. -/
def ReadError.ShowsIn (text : List Char) : ReadError → Prop
  | .corrupt _ _ => True
  | .noCharacter => ['\\', 'u', '\x7b'] <:+: text
  | .noNumber => ∃ character ∈ text, character = '\\' ∨
      Text.isDigit character = true ∧ Text.digitValue? character = none

end Book

theorem FailsBy.isCause {α : Type} {script : Markup.Site} {outcome : Except Book.ReadError α}
    (fails : FailsBy Book.ReadError.IsCorrupt outcome) : FailsBy (Book.IsCause script) outcome := by
  intro fault failed
  have isCorrupt := fails fault failed
  cases fault with
  | corrupt flaw line? => exact trivial
  | noCharacter | noNumber => exact isCorrupt.elim

namespace Book

open Markup

/-! Most steps refuse a text as corrupt only. -/

section Corrupt

theorem failsBy_corrupt {α : Type} (site : Site) (flaw : Flaw) :
    FailsBy ReadError.IsCorrupt (corrupt site flaw : Except ReadError α) :=
  failsBy_error trivial

theorem failsBy_expect (kinds : List Kind) (site? : Option Site) :
    FailsBy ReadError.IsCorrupt (expect kinds site?) := by
  unfold expect
  split
  · exact failsBy_error trivial
  · split_ifs
    · exact failsBy_ok _
    · exact failsBy_corrupt _ _

theorem failsBy_flag (name : String) (value : Site) :
    FailsBy ReadError.IsCorrupt (flag name value) := by
  refine (failsBy_expect _ _).bind fun site _ => ?_
  split_ifs
  · exact failsBy_ok _
  · exact failsBy_corrupt _ _

theorem failsBy_parameters (function : Site) :
    FailsBy ReadError.IsCorrupt (parameters function) := by
  unfold parameters
  split
  · exact failsBy_ok _
  · dsimp only
    split
    · exact failsBy_mapM fun site _ => (failsBy_expect _ _).map _
    · exact ((failsBy_expect _ _).map _).map _

theorem failsBy_rendering (tag language : String) (value : Site) :
    FailsBy ReadError.IsCorrupt (rendering tag language value) := by
  refine (failsBy_expect _ _).bind fun function _ => ?_
  refine (failsBy_parameters function).bind fun parameters _ => ?_
  split
  · exact failsBy_error trivial
  · exact failsBy_ok _

theorem failsBy_listing (text : List Char) : FailsBy ReadError.IsCorrupt (listing text) := by
  have isScript : FailsBy ReadError.IsCorrupt (scriptOf text) := by
    unfold scriptOf
    split
    · exact failsBy_ok _
    · exact failsBy_error trivial
  have isExport (script : Tree) : FailsBy ReadError.IsCorrupt (exportIn text script) := by
    unfold exportIn
    split
    · exact failsBy_error trivial
    · exact failsBy_ok _
    · exact failsBy_corrupt _ _
  have isEnd (site : Site) : FailsBy ReadError.IsCorrupt (checkEnd text site) := by
    unfold checkEnd
    dsimp only
    split
    · exact failsBy_ok _
    · exact failsBy_error trivial
  exact isScript.bind fun script _ => (isExport script).bind fun site _ =>
    (isEnd site).bind fun _ _ => (failsBy_expect _ _).bind fun _ _ => failsBy_ok _

end Corrupt

section Read

variable {tag : String} {script site : Site}

theorem mem_walk_of_mem_contents (siteMem : site ∈ script.walk) {child : Site}
    (childMem : child ∈ site.contents) : child ∈ script.walk :=
  Site.mem_walk_of_mem_children siteMem (List.mem_of_mem_filter childMem)

theorem failsBy_meaning (siteMem : site ∈ script.walk) (isString : site.tree.kind = .string) :
    FailsBy (IsCause script) (meaning site) := by
  unfold meaning
  split
  · exact failsBy_ok _
  · rename_i noMeaning
    exact failsBy_error ⟨site, siteMem, isString, noMeaning⟩

theorem failsBy_member (siteMem : site ∈ script.walk) : FailsBy (IsCause script) (member site) := by
  refine (failsBy_expect _ _).isCause.bind fun pair isPair => ?_
  obtain rfl := Option.some.inj (expect_eq_ok isPair).1
  refine (failsBy_expect _ _).isCause.bind fun key isKey => ?_
  have keyMem : key ∈ script.walk :=
    mem_walk_of_mem_contents siteMem (List.mem_of_getElem? (expect_eq_ok isKey).1)
  dsimp only
  split
  · rename_i isString
    refine (failsBy_meaning keyMem isString).bind fun name _ => ?_
    split
    · exact failsBy_ok _
    · exact failsBy_error trivial
  · refine (failsBy_ok _).bind fun name _ => ?_
    split
    · exact failsBy_ok _
    · exact failsBy_error trivial

theorem failsBy_listedPlace (siteMem : site ∈ script.walk) :
    FailsBy (IsCause script) (listedPlace site) := by
  refine (failsBy_expect _ _).isCause.bind fun literal isLiteral => ?_
  obtain ⟨isSite, isString⟩ := expect_eq_ok isLiteral
  obtain rfl := Option.some.inj isSite
  have isString := List.mem_singleton.mp isString
  refine (failsBy_meaning siteMem isString).bind fun text isText => ?_
  have isMeaning : Literal.meaning? site.text = some text := by
    unfold meaning at isText
    split at isText
    · rename_i isMeaning
      rw [isMeaning, Except.ok.inj isText]
    · contradiction
  split
  · exact (failsBy_corrupt _ _).isCause
  · rename_i path line isSplit
    split_ifs with noPath noLine
    · exact (failsBy_corrupt _ _).isCause
    · exact (failsBy_corrupt _ _).isCause
    · split
      · exact failsBy_ok _
      · rename_i noNumber
        have areDigits : line.all Text.isDigit = true := by simp_all
        exact failsBy_error ⟨site, siteMem, isString, text, isMeaning,
          lacksLine_of_natOfDigits? isSplit areDigits noNumber⟩

theorem failsBy_add (draft : Draft) (siteMem : site ∈ script.walk) :
    FailsBy (IsCause script) (draft.add tag site) := by
  refine (failsBy_member siteMem).bind fun found isMember => ?_
  obtain ⟨pair, name, value⟩ := found
  have valueMem : value ∈ script.walk :=
    Site.mem_walk_of_mem_children siteMem (value_mem_children isMember)
  dsimp only
  split_ifs with isNote isNew isDeleted isContext isPlaces
  · exact failsBy_ok _
  · exact (failsBy_flag _ _).isCause.bind fun _ _ => failsBy_ok _
  · exact (failsBy_flag _ _).isCause.bind fun _ _ => failsBy_ok _
  · refine (failsBy_expect _ _).isCause.bind fun literal isLiteral => ?_
    obtain ⟨isSite, isString⟩ := expect_eq_ok isLiteral
    obtain rfl := Option.some.inj isSite
    exact (failsBy_meaning valueMem (List.mem_singleton.mp isString)).bind fun _ _ => failsBy_ok _
  · refine (failsBy_expect _ _).isCause.bind fun list isList => ?_
    obtain rfl := Option.some.inj (expect_eq_ok isList).1
    refine FailsBy.bind (failsBy_mapM fun item itemMem => ?_) fun _ _ => failsBy_ok _
    exact failsBy_listedPlace (mem_walk_of_mem_contents valueMem itemMem)
  · refine (failsBy_rendering _ _ _).isCause.bind fun rendering _ => ?_
    split_ifs
    · exact (failsBy_corrupt _ _).isCause.bind fun _ _ => failsBy_ok _
    · exact failsBy_ok _

theorem failsBy_addEntry (entries : List Entry) (siteMem : site ∈ script.walk) :
    FailsBy (IsCause script) (addEntry tag entries site) := by
  refine (failsBy_member siteMem).bind fun found isMember => ?_
  have valueMem : found.value ∈ script.walk :=
    Site.mem_walk_of_mem_children siteMem (value_mem_children isMember)
  have isEntry : FailsBy (IsCause script) (entryOf tag found) := by
    refine (failsBy_expect _ _).isCause.bind fun body isBody => ?_
    obtain rfl := Option.some.inj (expect_eq_ok isBody).1
    refine FailsBy.bind (failsBy_foldlM (fun draft member memberMem => ?_) _)
      fun _ _ => failsBy_ok _
    exact failsBy_add draft (mem_walk_of_mem_contents valueMem memberMem)
  split_ifs
  · exact (failsBy_corrupt _ _).isCause.bind fun _ _ => isEntry.bind fun _ _ => failsBy_ok _
  · exact isEntry.bind fun _ _ => failsBy_ok _

variable {path? : Option String} {text : String} {fault : ReadError}

/-- A text that is no book is refused as corrupt, or a literal in it is the cause. -/
theorem isCause_of_read (failed : read path? tag text = .error fault) :
    fault.IsCorrupt ∨
      ∃ script, Script.read text.toList = .ok script ∧ IsCause (Site.root script) fault := by
  unfold read at failed
  cases isListing : listing text.toList with
  | error other =>
      rw [isListing] at failed
      obtain rfl := Except.error.inj failed
      exact .inl (failsBy_listing _ other isListing)
  | ok found =>
      obtain ⟨preamble, object⟩ := found
      obtain ⟨script, site, isScript, siteMem, -, -, objectMem⟩ := listing_eq_ok isListing
      have objectMem : object ∈ (Site.root script).walk := Site.mem_walk_of_mem_children
        (Site.mem_walk_of_mem_children (Site.self_mem_walk _) siteMem) objectMem
      rw [isListing] at failed
      have fails : FailsBy (IsCause (Site.root script))
          (object.contents.foldlM (addEntry tag) []) :=
        failsBy_foldlM (fun entries entry entryMem =>
          failsBy_addEntry entries (mem_walk_of_mem_contents objectMem entryMem)) []
      exact .inr ⟨script, isScript, (fails.bind fun _ _ => failsBy_ok _) fault failed⟩

/-- A text that is no book is refused as corrupt, unless it holds an escape with braces, or a digit
that writes no number and may itself be escaped. -/
theorem showsIn_of_read (failed : read path? tag text = .error fault) :
    fault.ShowsIn text.toList := by
  have text_isInfix {script : Tree} (isScript : Script.read text.toList = .ok script)
      {literal : Site} (literalMem : literal ∈ (Site.root script).walk) :
      literal.text <:+: text.toList := by
    obtain ⟨back, whole⟩ := Site.text_eq_of_mem_walk_root literalMem
    exact ⟨_, back, whole.symm.trans (Script.isScriptOf_of_read isScript).text⟩
  rcases isCause_of_read failed with isCorrupt | ⟨script, isScript, isCause⟩
  · cases fault with
    | corrupt flaw line? => exact trivial
    | noCharacter | noNumber => exact isCorrupt.elim
  · cases fault with
    | corrupt flaw line? => exact trivial
    | noCharacter =>
        obtain ⟨literal, literalMem, -, noMeaning⟩ := isCause
        exact (Literal.isBraced_of_meaning? noMeaning).trans (text_isInfix isScript literalMem)
    | noNumber =>
        obtain ⟨literal, literalMem, -, meaning, isMeaning, lacksLine⟩ := isCause
        have subset := (text_isInfix isScript literalMem).subset
        by_cases isEscape : '\\' ∈ literal.text
        · exact ⟨_, subset isEscape, .inl rfl⟩
        · obtain ⟨digit, digitMem, isDigit⟩ := lacksLine.exists_mem
          exact ⟨digit, subset (Literal.subset_of_meaning? isEscape isMeaning digitMem),
            .inr isDigit⟩

end Read

/-- A superscript is a digit, but no number is read from it. -/
theorem read_superscript :
    read none "T" "export default \x7b\"k\": \x7b\"_refs\": [\"a:²\"]\x7d\x7d" =
      .error .noNumber := by
  have eq_error {outcome : Except ReadError Book}
      (isRefused : (match outcome with
        | .error fault => decide (fault = .noNumber)
        | .ok _ => false) = true) : outcome = .error .noNumber := by
    split at isRefused
    · exact congrArg Except.error (of_decide_eq_true isRefused)
    · contradiction
  exact eq_error (by decide +kernel)

end Book

/-! ## Stores -/

namespace PlaceStore

/-- Why a document is refused as a store. -/
def IsCause (document : Value) : Fault → Prop
  | .noNumber =>
    ∃ entries key items item, document.field? "refs" = some (.mapping entries) ∧
      (key, .list items) ∈ entries ∧ .text item ∈ items ∧ LacksLine item
  | _ => True

section Read

variable {text : String} {fault : Fault}

theorem failsBy_placeOf (key : String) (value : Value) :
    FailsBy (fun fault => fault = .noNumber → ∃ item, value = .text item ∧ LacksLine item)
      (placeOf key value) := by
  unfold placeOf
  split
  · rename_i item
    split
    · exact failsBy_error nofun
    · rename_i path line isSplit
      split_ifs with isOther
      · exact failsBy_error nofun
      · split
        · exact failsBy_ok _
        · rename_i noNumber
          have areDigits : line.all Text.isDigit = true := by simp_all
          exact failsBy_error fun _ =>
            ⟨item, rfl, lacksLine_of_natOfDigits? isSplit areDigits noNumber⟩
  · exact failsBy_error nofun

theorem failsBy_placesOf (key value : Value) :
    FailsBy (fun fault => fault = .noNumber →
        ∃ items item, value = .list items ∧ .text item ∈ items ∧ LacksLine item)
      (placesOf key value) := by
  unfold placesOf
  dsimp only
  split
  · rename_i items
    refine FailsBy.map (failsBy_mapM fun value valueMem => ?_) _
    intro fault failed isNumber
    obtain ⟨item, rfl, lacksLine⟩ := failsBy_placeOf _ value fault failed isNumber
    exact ⟨items, item, rfl, valueMem, lacksLine⟩
  · exact failsBy_error nofun

theorem failsBy_ofValue (document : Value) : FailsBy (IsCause document) (ofValue document) := by
  unfold ofValue
  split_ifs
  · exact failsBy_error trivial
  · split
    · rename_i entries areEntries
      refine FailsBy.map (failsBy_mapM fun entry entryMem => ?_) _
      intro fault failed
      cases fault with
      | noNumber =>
          obtain ⟨items, item, isList, itemMem, lacksLine⟩ :=
            failsBy_placesOf entry.1 entry.2 .noNumber failed rfl
          exact ⟨entries, entry.1, items, item, areEntries, isList ▸ entryMem, itemMem, lacksLine⟩
      | _ => exact trivial
    · exact failsBy_error trivial

end Read

end PlaceStore

namespace Project

/-- Stored places that cannot be read are refused for a fault of their file, which has a message
unless a line in it has no number. -/
theorem isCause_of_readPlaces {project : Project} {session last : Session} {failure : Failure}
    (isText : ∀ source, session.disk.read project.placesPath = .ok source →
      source.lines?.isSome = true)
    (failed : project.readPlaces.run.run session = (.error failure, last)) :
    ∃ fault, failure = .places project.placesPath fault ∧
      (fault = .noNumber → ∃ source text document,
        session.disk.read project.placesPath = .ok source ∧ source.lines? = some text ∧
        Json.read? text.length text = some document ∧ PlaceStore.IsCause document .noNumber) := by
  have isFailure := storedPlaces_of_readPlaces failed
  unfold storedPlaces at isFailure
  split at isFailure
  · split_ifs at isFailure
    obtain rfl := Except.error.inj isFailure
    exact ⟨.unreadable, rfl, nofun⟩
  · rename_i source isSource
    split at isFailure
    · rename_i noText
      have isLines := isText source isSource
      rw [noText] at isLines
      contradiction
    · rename_i text areLines
      cases isRead : PlaceStore.read text with
      | ok store =>
          rw [isRead] at isFailure
          contradiction
      | error fault =>
          rw [isRead] at isFailure
          obtain rfl := Except.error.inj isFailure
          refine ⟨fault, rfl, ?_⟩
          rintro rfl
          unfold PlaceStore.read at isRead
          split at isRead
          · rename_i document isDocument
            exact ⟨source, text, document, isSource, areLines, isDocument,
              PlaceStore.failsBy_ofValue document _ isRead⟩
          · cases isRead

end Project

end Phrasebook
