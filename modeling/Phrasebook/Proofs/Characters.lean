import Phrasebook.Markup.Lexeme

/-!
# Characters of lexemes

A lexeme of any class holds no null character, and one that can be a name holds
only the characters that names are written with.  Both follow the way in which
measures are put together.
-/

namespace Phrasebook.Markup

namespace Measure

/-- Every character that a measure takes off a text is of one kind. -/
def TakesOnly (holds : Char → Bool) (measure : Measure) : Prop :=
  ∀ text : List Char, ∀ character ∈ text.take (measure text), holds character = true

/-! ## Measures that are put together -/

section Combined

variable {holds other : Char → Bool} {measure first second : Measure}

theorem TakesOnly.mono (only : TakesOnly holds measure)
    (implies : ∀ character, holds character = true → other character = true) :
    TakesOnly other measure :=
  fun text character characterMem => implies character (only text character characterMem)

/-- A stretch of a text, and another one directly after it. -/
theorem forall_mem_take_add {text : List Char} {length more : Nat}
    (front : ∀ character ∈ text.take length, holds character = true)
    (back : ∀ character ∈ (text.drop length).take more, holds character = true) :
    ∀ character ∈ text.take (length + more), holds character = true := by
  rw [List.take_add]
  exact List.forall_mem_append.mpr ⟨front, back⟩

theorem forall_mem_take_cons {character : Char} {text : List Char} {length : Nat}
    (accepted : holds character = true)
    (back : ∀ other ∈ text.take length, holds other = true) :
    ∀ other ∈ (character :: text).take (length + 1), holds other = true := by
  rw [List.take_succ_cons]
  exact List.forall_mem_cons.mpr ⟨accepted, back⟩

theorem takesOnly_one {accepts : Char → Bool}
    (implies : ∀ character, accepts character = true → holds character = true) :
    TakesOnly holds (one accepts) := by
  intro text
  unfold one
  split
  · exact nofun
  · rename_i first rest
    split
    · rename_i accepted
      exact forall_mem_take_cons (implies first accepted) nofun
    · exact nofun

theorem takesOnly_sign {sign : Char} (accepted : holds sign = true) :
    TakesOnly holds (one (· == sign)) :=
  takesOnly_one fun _ same => beq_iff_eq.mp same ▸ accepted

theorem takesOnly_literal {word : List Char} (accepted : word.all holds = true) :
    TakesOnly holds (literal word) := by
  intro text
  unfold literal
  split
  · rename_i begins
    rw [← List.prefix_iff_eq_take.mp (List.isPrefixOf_iff_prefix.mp begins)]
    exact List.all_eq_true.mp accepted
  · exact nofun

theorem TakesOnly.andThen (isFirst : TakesOnly holds first) (isSecond : TakesOnly holds second) :
    TakesOnly holds (andThen first second) := by
  intro text
  unfold Measure.andThen
  split
  · exact nofun
  · split
    · exact nofun
    · exact forall_mem_take_add (isFirst text) (isSecond _)

theorem TakesOnly.andMaybe (isFirst : TakesOnly holds first)
    (isSecond : TakesOnly holds second) : TakesOnly holds (andMaybe first second) := by
  intro text
  unfold Measure.andMaybe
  split
  · exact nofun
  · exact forall_mem_take_add (isFirst text) (isSecond _)

theorem TakesOnly.longer (isFirst : TakesOnly holds first) (isSecond : TakesOnly holds second) :
    TakesOnly holds (longer first second) := by
  intro text
  rcases Nat.le_total (first text) (second text) with isLess | isLess
  · rw [Measure.longer, Nat.max_eq_right isLess]
    exact isSecond text
  · rw [Measure.longer, Nat.max_eq_left isLess]
    exact isFirst text

theorem forall_mem_take_runFrom (only : TakesOnly holds measure) (text : List Char)
    {pending : Nat} (counted : ∀ character ∈ text.take pending, holds character = true) :
    ∀ character ∈ text.take (runFrom measure pending text), holds character = true := by
  -- What is pending is the rest of the unit that was begun; `counted` speaks for it.
  induction text generalizing pending with
  | nil => simp
  | cons first text ih =>
      cases pending with
      | succ pending =>
          rw [List.take_succ_cons, List.forall_mem_cons] at counted
          exact forall_mem_take_cons counted.1 (ih counted.2)
      | zero =>
          unfold runFrom
          split
          · exact nofun
          · rename_i length isLength
            have unit := only (first :: text)
            rw [isLength, List.take_succ_cons, List.forall_mem_cons] at unit
            exact forall_mem_take_cons unit.1 (ih unit.2)

theorem TakesOnly.run (only : TakesOnly holds measure) : TakesOnly holds (run measure) :=
  fun text => forall_mem_take_runFrom only text nofun

theorem forall_mem_takeWhile {accepts : Char → Bool}
    (implies : ∀ character, accepts character = true → holds character = true)
    (text : List Char) :
    ∀ character ∈ text.takeWhile accepts, holds character = true :=
  fun character characterMem =>
    implies character (List.all_eq_true.mp List.all_takeWhile character characterMem)

theorem takesOnly_stretch {accepts : Char → Bool}
    (implies : ∀ character, accepts character = true → holds character = true) :
    TakesOnly holds (stretch accepts) := by
  intro text
  rw [stretch, ← List.prefix_iff_eq_take.mp (List.takeWhile_prefix accepts)]
  exact forall_mem_takeWhile implies text

theorem takesOnly_upTo {accepts : Char → Bool} (limit : Nat)
    (implies : ∀ character, accepts character = true → holds character = true) :
    TakesOnly holds (upTo limit accepts) := by
  intro text
  have isPrefix : (text.take limit).takeWhile accepts <+: text :=
    (List.takeWhile_prefix accepts).trans (List.take_prefix limit text)
  rw [upTo, ← List.prefix_iff_eq_take.mp isPrefix]
  exact forall_mem_takeWhile implies _

theorem takesOnly_exactly {accepts : Char → Bool} (count : Nat)
    (implies : ∀ character, accepts character = true → holds character = true) :
    TakesOnly holds (exactly count accepts) := by
  intro text
  unfold exactly
  split
  · rename_i enough
    have only := takesOnly_upTo count implies text
    rwa [enough] at only
  · exact nofun

theorem takesOnly_digits {accepts : Char → Bool}
    (implies : ∀ character, accepts character = true → holds character = true)
    (underscore : holds '_' = true) : TakesOnly holds (digits accepts) := by
  have single : TakesOnly holds (one accepts) := takesOnly_one implies
  exact single.andMaybe (single.longer ((takesOnly_sign underscore).andThen single)).run

theorem forall_mem_take_closingFrom {delimiter : Char} (isDelimiter : holds delimiter = true)
    (only : TakesOnly holds measure) (text : List Char) {pending : Nat}
    (counted : ∀ character ∈ text.take pending, holds character = true) :
    ∀ character ∈ text.take (closingFrom delimiter measure pending text),
      holds character = true := by
  induction text generalizing pending with
  | nil => simp
  | cons first text ih =>
      cases pending with
      | succ pending =>
          rw [List.take_succ_cons, List.forall_mem_cons] at counted
          have rest := ih counted.2
          unfold closingFrom
          split
          · exact nofun
          · exact forall_mem_take_cons counted.1 rest
      | zero =>
          unfold closingFrom
          split
          · rename_i ends
            exact forall_mem_take_cons (beq_iff_eq.mp ends ▸ isDelimiter) nofun
          · split
            · exact nofun
            · rename_i length isLength
              have unit := only (first :: text)
              rw [isLength, List.take_succ_cons, List.forall_mem_cons] at unit
              have rest := ih unit.2
              split
              · exact nofun
              · exact forall_mem_take_cons unit.1 rest

theorem TakesOnly.closing {delimiter : Char} (isDelimiter : holds delimiter = true)
    (only : TakesOnly holds measure) : TakesOnly holds (closing delimiter measure) :=
  fun text => forall_mem_take_closingFrom isDelimiter only text nofun

theorem TakesOnly.delimited {delimiter : Char} (isDelimiter : holds delimiter = true)
    (only : TakesOnly holds measure) : TakesOnly holds (delimited delimiter measure) :=
  (takesOnly_sign isDelimiter).andThen (only.closing isDelimiter)

end Combined

/-! ## Names -/

/-- The characters that names are written with: those of words, hyphens and the signs of escapes. -/
def writesName (character : Char) : Bool :=
  isNamePart character || ['-', '\\', '\x7b', '\x7d'].contains character

section Names

/-- Classes can be compared by trying out all ASCII characters. -/
theorem holds_of_isAscii {accepts holds : Char → Bool} {character : Char}
    (isAscii : character.toNat < 128)
    (tried : ∀ code < 128, accepts (Char.ofNat code) = true → holds (Char.ofNat code) = true)
    (accepted : accepts character = true) : holds character = true := by
  have implied := tried character.toNat isAscii
  rw [Char.ofNat_toNat] at implied
  exact implied accepted

theorem writesName_of_isNamePart (character : Char) (isPart : isNamePart character = true) :
    writesName character = true := by
  rw [writesName, isPart, Bool.true_or]

theorem writesName_of_isHexDigit (character : Char) (isDigit : isHexDigit character = true) :
    writesName character = true := by
  have isAscii : character.toNat < 128 := by
    simp only [isHexDigit, Char.isDigit, Char.reduceVal, ge_iff_le, UInt32.le_iff_toNat_le,
      UInt32.reduceToNat, Char.toNat_val, Char.le_def, Bool.or_eq_true, Bool.and_eq_true,
      decide_eq_true_eq] at isDigit
    omega
  exact holds_of_isAscii isAscii (by decide) isDigit

theorem writesName_of_isAlpha (character : Char) (isLetter : character.isAlpha = true) :
    writesName character = true := by
  have isAscii : character.toNat < 128 := by
    delta Char.isAlpha Char.isUpper Char.isLower at isLetter
    simp only [Char.reduceVal, ge_iff_le, UInt32.le_iff_toNat_le, UInt32.reduceToNat,
      Char.toNat_val, Bool.decide_and, Bool.or_eq_true, Bool.and_eq_true,
      decide_eq_true_eq] at isLetter
    omega
  exact holds_of_isAscii isAscii (by decide) isLetter

theorem writesName_of_isDigit (character : Char) (isDigit : character.isDigit = true) :
    writesName character = true := by
  refine writesName_of_isHexDigit character ?_
  rw [isHexDigit, isDigit, Bool.true_or, Bool.true_or]

theorem takesOnly_escapeDigits : TakesOnly writesName escapeDigits := by
  intro text
  unfold escapeDigits
  split
  · rename_i text
    dsimp only
    split
    · rename_i closed
      have isClosed := (Bool.and_eq_true_iff.mp closed).2
      refine forall_mem_take_cons rfl (forall_mem_take_add ?_ ?_)
      · exact takesOnly_stretch writesName_of_isHexDigit text
      · cases rest : text.drop (stretch isHexDigit text) with
        | nil => exact nofun
        | cons next rest' =>
            rw [rest] at isClosed
            obtain rfl : next = '\x7d' := by simpa using isClosed
            exact forall_mem_take_cons rfl nofun
    · exact nofun
  · exact takesOnly_exactly 4 writesName_of_isHexDigit text

theorem takesOnly_nameEscape : TakesOnly writesName nameEscape :=
  (takesOnly_literal rfl).andThen takesOnly_escapeDigits

theorem takesOnly_name : TakesOnly writesName name := by
  have start : TakesOnly writesName
      (one fun character => isNamePart character && !character.isDigit) :=
    takesOnly_one fun character isStart =>
      writesName_of_isNamePart character (Bool.and_eq_true_iff.mp isStart).1
  have part : TakesOnly writesName (one isNamePart) := takesOnly_one writesName_of_isNamePart
  exact (start.longer takesOnly_nameEscape).andMaybe (part.longer takesOnly_nameEscape).run

theorem takesOnly_identifier : TakesOnly writesName identifier := by
  intro text
  unfold identifier
  dsimp only
  split
  · exact nofun
  · exact takesOnly_name text

theorem takesOnly_hyphenated : TakesOnly writesName hyphenated := by
  unfold hyphenated
  dsimp only
  have first (character : Char)
      (isFirst : (character.isAlpha || character == '_' || character == '$') = true) :
      writesName character = true := by
    rcases Bool.or_eq_true_iff.mp isFirst with isFirst | isDollar
    · rcases Bool.or_eq_true_iff.mp isFirst with isLetter | isLine
      · exact writesName_of_isAlpha character isLetter
      · rw [beq_iff_eq.mp isLine]
        decide
    · rw [beq_iff_eq.mp isDollar]
      decide
  have part (character : Char)
      (isPart : (character.isAlpha || character == '_' || character == '$' ||
        character.isDigit) = true) : writesName character = true :=
    (Bool.or_eq_true_iff.mp isPart).elim (first character) (writesName_of_isDigit character)
  have start := (takesOnly_one first).andMaybe (takesOnly_stretch part)
  refine (start.andThen (takesOnly_sign rfl)).andMaybe
    (takesOnly_stretch fun character isRest => ?_)
  rcases Bool.or_eq_true_iff.mp isRest with isPart | isHyphen
  · exact part character isPart
  · exact beq_iff_eq.mp isHyphen ▸ rfl

theorem takesOnly_word {holds : Char → Bool} {expected : String}
    (accepted : expected.toList.all holds = true) : TakesOnly holds (word expected) := by
  intro text
  unfold word
  split
  · rename_i starts
    have isPrefix := List.isPrefixOf_iff_prefix.mp (Bool.and_eq_true_iff.mp starts).1
    rw [← String.length_toList, ← List.prefix_iff_eq_take.mp isPrefix]
    exact List.all_eq_true.mp accepted
  · exact nofun

end Names

/-! ## All other lexemes -/

section Present

/-- A class that the null character is not in. -/
theorem isPresent_of {accepts : Char → Bool} (refused : accepts '\u0000' = false)
    (character : Char) (accepted : accepts character = true) : isPresent character = true := by
  refine bne_iff_ne.mpr ?_
  rintro rfl
  rw [refused] at accepted
  contradiction

theorem isPresent_of_writesName :
    ∀ character, writesName character = true → isPresent character = true :=
  isPresent_of (by decide)

theorem takesOnly_one_isPresent {accepts : Char → Bool} (refused : accepts '\u0000' = false) :
    TakesOnly isPresent (one accepts) :=
  takesOnly_one (isPresent_of refused)

theorem takesOnly_stretch_isPresent {accepts : Char → Bool}
    (refused : accepts '\u0000' = false) : TakesOnly isPresent (stretch accepts) :=
  takesOnly_stretch (isPresent_of refused)

theorem takesOnly_literalEscape : TakesOnly isPresent literalEscape := by
  intro text
  unfold literalEscape
  split
  · rename_i text
    split
    · exact nofun
    · rename_i isEscape
      refine forall_mem_take_cons rfl (forall_mem_take_cons rfl ?_)
      have digits : TakesOnly isPresent (exactly 2 isHexDigit) :=
        takesOnly_exactly 2 (isPresent_of (by decide))
      have digits := digits text
      unfold exactly at digits isEscape
      split at digits
      · exact digits
      · rename_i missing
        exact absurd (if_neg missing) isEscape
  · rename_i text
    split
    · exact nofun
    · refine forall_mem_take_cons rfl (forall_mem_take_cons rfl ?_)
      exact takesOnly_escapeDigits.mono isPresent_of_writesName text
  · rename_i first text _ _
    split
    · rename_i isOctal
      refine forall_mem_take_cons rfl (forall_mem_take_cons ?_ ?_)
      · exact isPresent_of (by decide) first isOctal
      · exact takesOnly_upTo 2 (isPresent_of (by decide)) text
    · split
      · rename_i isBreak
        obtain ⟨isFirst, isNext⟩ := Bool.and_eq_true_iff.mp isBreak
        have present : isPresent first = true := by
          rcases Bool.or_eq_true_iff.mp isFirst with isReturn | isMark
          · exact beq_iff_eq.mp isReturn ▸ rfl
          · exact beq_iff_eq.mp isMark ▸ rfl
        refine forall_mem_take_cons rfl (forall_mem_take_cons present ?_)
        have feed : TakesOnly isPresent (one isLineFeed) := takesOnly_one_isPresent (by decide)
        have single : one isLineFeed text = 1 := by
          unfold one at isNext ⊢
          split <;> simp_all
        have next := feed text
        rwa [single] at next
      · split
        · rename_i present
          exact forall_mem_take_cons rfl (forall_mem_take_cons present nofun)
        · exact nofun
  · exact nofun

theorem takesOnly_stringLiteral : TakesOnly isPresent stringLiteral := by
  have inner : TakesOnly isPresent (longer (one fun character =>
      isPresent character && character != '\\' && character != '\n' && character != '\r')
      literalEscape) :=
    (takesOnly_one_isPresent (by decide)).longer takesOnly_literalEscape
  exact (inner.delimited (by decide)).longer (inner.delimited (by decide))

theorem takesOnly_characterReference : TakesOnly isPresent characterReference := by
  have base : TakesOnly isPresent (one fun character => character == 'x' || character == 'X') :=
    takesOnly_one_isPresent (by decide)
  have letters := takesOnly_upTo 30 (isPresent_of (by decide : Char.isAlpha '\u0000' = false))
  have digits := takesOnly_upTo 5 (isPresent_of (by decide : Char.isDigit '\u0000' = false))
  have hexDigits := takesOnly_upTo 6 (isPresent_of (by decide : isHexDigit '\u0000' = false))
  have sign : TakesOnly isPresent (one (· == '#')) := takesOnly_sign rfl
  have number := sign.andThen (digits.longer (base.andThen hexDigits))
  exact (takesOnly_sign rfl).andThen ((letters.longer number).andThen (takesOnly_sign rfl))

theorem takesOnly_loneAmpersand : TakesOnly isPresent loneAmpersand := by
  intro text
  unfold loneAmpersand
  split
  · split
    · rename_i allowed
      simp only [Bool.and_eq_true] at allowed
      exact forall_mem_take_cons rfl (forall_mem_take_cons allowed.1.1 nofun)
    · exact nofun
  · exact nofun

theorem takesOnly_attributeString : TakesOnly isPresent attributeString := by
  have inner : TakesOnly isPresent (longer (one fun character =>
      isPresent character && character != '&')
      (longer characterReference loneAmpersand)) :=
    (takesOnly_one_isPresent (by decide)).longer
      (takesOnly_characterReference.longer takesOnly_loneAmpersand)
  exact (inner.delimited (by decide)).longer (inner.delimited (by decide))

theorem takesOnly_number : TakesOnly isPresent number := by
  have plain : TakesOnly isPresent (digits Char.isDigit) :=
    takesOnly_digits (isPresent_of (by decide)) rfl
  have based (lower upper : Char) (accepts : Char → Bool)
      (refused : (fun character => character == lower || character == upper) '\u0000' = false)
      (present : accepts '\u0000' = false) :
      TakesOnly isPresent (andThen (one (· == '0'))
        (andThen (one fun character => character == lower || character == upper)
          (digits accepts))) :=
    (takesOnly_sign rfl).andThen ((takesOnly_one_isPresent refused).andThen
      (takesOnly_digits (isPresent_of present) rfl))
  have basedInteger : TakesOnly isPresent basedInteger :=
    (based 'x' 'X' isHexDigit rfl (by decide)).longer
      ((based 'b' 'B' isBinaryDigit rfl (by decide)).longer
        (based 'o' 'O' isOctalDigit rfl (by decide)))
  have exponent : TakesOnly isPresent exponent :=
    (takesOnly_one_isPresent (by decide)).andThen
      (plain.longer ((takesOnly_one_isPresent (by decide)).andThen plain))
  have integerPart : TakesOnly isPresent integerPart := by
    intro text
    unfold Measure.integerPart
    dsimp only
    split
    · split
      · exact plain _
      · exact forall_mem_take_cons rfl nofun
    · exact plain text
  have point : TakesOnly isPresent (one (· == '.')) := takesOnly_sign rfl
  exact ((basedInteger.longer plain).andMaybe (takesOnly_sign rfl)).longer
    ((((integerPart.andThen point).andMaybe plain).andMaybe exponent).longer
      (((point.andThen plain).andMaybe exponent).longer (integerPart.andThen exponent)))

theorem takesOnly_regexLiteral : TakesOnly isPresent regexLiteral := by
  have visible (character : Char) (isVisible : isVisible character = true) :
      isPresent character = true :=
    (Bool.and_eq_true_iff.mp isVisible).1
  have classPart : TakesOnly isPresent regexClassPart := by
    intro text
    unfold regexClassPart
    split
    · split
      · rename_i isNext
        exact forall_mem_take_cons rfl (forall_mem_take_cons (visible _ isNext) nofun)
      · exact nofun
    · split
      · rename_i isPart
        exact forall_mem_take_cons (visible _ (Bool.and_eq_true_iff.mp isPart).1) nofun
      · exact nofun
    · exact nofun
  have part : TakesOnly isPresent regexPart := by
    intro text
    unfold regexPart
    split
    · split
      · exact nofun
      · exact forall_mem_take_cons rfl (classPart.closing rfl _)
    · exact classPart text
  exact (part.delimited rfl).andMaybe (takesOnly_stretch_isPresent (by decide))

theorem takesOnly_templateText : TakesOnly isPresent templateText := by
  have dollar : TakesOnly isPresent loneDollar := by
    intro text
    unfold loneDollar
    split
    · exact nofun
    · exact forall_mem_take_cons rfl nofun
    · exact nofun
  exact (((takesOnly_one_isPresent (by decide)).longer takesOnly_literalEscape).longer
    dollar).run

theorem takesOnly_elementText : TakesOnly isPresent elementText :=
  ((takesOnly_one_isPresent (by decide)).longer takesOnly_characterReference).run

/-- The operator that a text begins with is one of those that are known. -/
theorem operatorAt_eq_some {text : List Char} {found : String}
    (isFound : operatorAt text = some found) : found ∈ operators ∧ found.toList <+: text := by
  unfold operatorAt at isFound
  split at isFound
  · split at isFound
    · obtain rfl := Option.some.inj isFound
      exact ⟨by decide, _, rfl⟩
    · obtain rfl := Option.some.inj isFound
      exact ⟨by decide, _, rfl⟩
  · contradiction
  · have begins : found.toList.isPrefixOf text = true :=
      List.find?_some (p := fun known : String => known.toList.isPrefixOf text) isFound
    exact ⟨List.mem_of_find?_eq_some isFound, List.isPrefixOf_iff_prefix.mp begins⟩

theorem takesOnly_operator (expected : List String) : TakesOnly isPresent (operator expected) := by
  have present : operators.all (fun known => known.toList.all isPresent) = true := rfl
  intro text
  unfold operator
  split
  · rename_i found isFound
    obtain ⟨isKnown, isPrefix⟩ := operatorAt_eq_some isFound
    split
    · rw [← String.length_toList, ← List.prefix_iff_eq_take.mp isPrefix]
      exact List.all_eq_true.mp (List.all_eq_true.mp present found isKnown)
    · exact nofun
  · exact nofun

theorem takesOnly_blockEnd : TakesOnly isPresent blockEnd := by
  intro text
  induction text with
  | nil => exact nofun
  | cons character text ih =>
      unfold blockEnd
      split
      · exact nofun
      · rename_i same
        obtain ⟨rfl, rfl⟩ := List.cons.inj same
        exact forall_mem_take_cons rfl (forall_mem_take_cons rfl nofun)
      · rename_i same
        obtain ⟨rfl, rfl⟩ := List.cons.inj same
        split
        · rename_i present
          split
          · exact nofun
          · exact forall_mem_take_cons present ih
        · exact nofun

/-- Neither blanks nor comments hold the null character. -/
theorem takesOnly_trivia : TakesOnly isPresent trivia := by
  have lineComment : TakesOnly isPresent lineComment :=
    (takesOnly_literal rfl).andMaybe (takesOnly_stretch_isPresent (by decide))
  have blockComment : TakesOnly isPresent blockComment :=
    (takesOnly_literal rfl).andThen takesOnly_blockEnd
  exact (takesOnly_stretch_isPresent (by decide)).longer (lineComment.longer blockComment)

theorem takesOnly_markupComment : TakesOnly isPresent markupComment :=
  ((takesOnly_literal rfl).longer (takesOnly_literal rfl)).andMaybe
    (takesOnly_stretch_isPresent (by decide))

theorem takesOnly_interpreterLine : TakesOnly isPresent interpreterLine :=
  (takesOnly_literal rfl).andMaybe (takesOnly_stretch_isPresent (by decide))

end Present

end Measure

/-! ## Lexemes -/

namespace Lexeme

/-- Whether a lexeme is given by a text that holds no null character, if it is given by a text. -/
def isWritten : Lexeme → Bool
  | literal text | word text => text.toList.all isPresent
  | _ => true

/-- Whether a lexeme can be a name. -/
def isNaming : Lexeme → Bool
  | name | identifier | hyphenated => true
  | word text => text.toList.all Measure.writesName
  | _ => false

variable {lexeme : Lexeme}

theorem takesOnly_isPresent (written : lexeme.isWritten = true) :
    lexeme.measure.TakesOnly isPresent := by
  cases lexeme with
  | literal text => exact Measure.takesOnly_literal written
  | word text => exact Measure.takesOnly_word written
  | operator expected => exact Measure.takesOnly_operator expected
  | name => exact Measure.takesOnly_name.mono Measure.isPresent_of_writesName
  | identifier => exact Measure.takesOnly_identifier.mono Measure.isPresent_of_writesName
  | privateName =>
      exact (Measure.takesOnly_one (Measure.isPresent_of (by decide))).andThen
        (Measure.takesOnly_name.mono Measure.isPresent_of_writesName)
  | hyphenated => exact Measure.takesOnly_hyphenated.mono Measure.isPresent_of_writesName
  | number => exact Measure.takesOnly_number
  | string => exact Measure.takesOnly_stringLiteral
  | regex => exact Measure.takesOnly_regexLiteral
  | templateText => exact Measure.takesOnly_templateText
  | elementText => exact Measure.takesOnly_elementText
  | attributeString => exact Measure.takesOnly_attributeString
  | closing => exact Measure.takesOnly_literal rfl
  | markupComment => exact Measure.takesOnly_markupComment
  | interpreterLine => exact Measure.takesOnly_interpreterLine

theorem takesOnly_writesName (naming : lexeme.isNaming = true) :
    lexeme.measure.TakesOnly Measure.writesName := by
  cases lexeme with
  | name => exact Measure.takesOnly_name
  | identifier => exact Measure.takesOnly_identifier
  | hyphenated => exact Measure.takesOnly_hyphenated
  | word text => exact Measure.takesOnly_word naming
  | _ => contradiction

theorem forall_mem_of_split? {holds : Char → Bool} (only : lexeme.measure.TakesOnly holds)
    {text token rest : List Char} (cut : lexeme.split? text = some (token, rest)) :
    ∀ character ∈ token, holds character = true := by
  unfold split? at cut
  split at cut
  · contradiction
  · obtain ⟨rfl, _⟩ := Prod.mk.inj (Option.some.inj cut)
    exact only text

end Lexeme

end Phrasebook.Markup
