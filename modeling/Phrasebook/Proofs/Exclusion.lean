import Phrasebook.Book.Reader
import Phrasebook.PlaceStore
import Phrasebook.Proofs.JsonDocument
import Phrasebook.Proofs.Outcome

/-!
# Books and stores are told apart

No text is both a book and a store of places.  A store is a JSON object with
fields.  As a script it starts with a block, in which the name of the first
field is an expression, and no expression goes on with the colon after it.
-/

namespace Phrasebook.Markup.Grammar

/-! ## What a grammar ensures -/

section Ensures

variable {Rule : Type} {rules : Rule → Grammar Rule} {first second body : Grammar Rule}
  {guard : Guard} {cursor : Cursor} {between ends : Cursor → Prop}

/-- Where a grammar reads on from a cursor, it comes to a cursor with a property. -/
def Ensures (rules : Rule → Grammar Rule) (grammar : Grammar Rule) (cursor : Cursor)
    (ends : Cursor → Prop) : Prop :=
  ∀ fuel next, read rules fuel grammar cursor = some next → ends next

theorem Ensures.of_succ {grammar : Grammar Rule}
    (holds : ∀ fuel next, read rules (fuel + 1) grammar cursor = some next → ends next) :
    Ensures rules grammar cursor ends := by
  intro fuel next step
  cases fuel with
  | zero => cases step
  | succ fuel => exact holds fuel next step

theorem Ensures.empty (holds : ends cursor) : Ensures rules empty cursor ends := by
  refine .of_succ fun fuel next step => ?_
  obtain rfl := Option.some.inj step
  exact holds

theorem Ensures.token {kind : Kind} {lexeme : Lexeme}
    (holds : ∀ next, cursor.token? kind lexeme = some next → ends next) :
    Ensures rules (token kind lexeme) cursor ends :=
  .of_succ fun _ next step => holds next step

theorem Ensures.require (holds : guard.holds cursor = true → ends cursor) :
    Ensures rules (require guard) cursor ends := by
  refine .of_succ fun fuel next step => ?_
  simp only [read] at step
  obtain ⟨isTrue, same⟩ := Option.ite_none_right_eq_some.mp step
  obtain rfl := Option.some.inj same
  exact holds isTrue

theorem Ensures.sequence (isFirst : Ensures rules first cursor between)
    (isSecond : ∀ next, between next → Ensures rules second next ends) :
    Ensures rules (first ++ second) cursor ends := by
  refine .of_succ fun fuel next step => ?_
  simp only [HAppend.hAppend, Append.append, read] at step
  split at step
  · contradiction
  · rename_i middle firstStep
    exact isSecond middle (isFirst fuel middle firstStep) fuel next step

theorem Ensures.choice
    (isChosen : Ensures rules (if guard.holds cursor then first else second) cursor ends) :
    Ensures rules (choice guard first second) cursor ends := by
  refine .of_succ fun fuel next step => ?_
  simp only [read] at step
  refine isChosen fuel next ?_
  split
  · rwa [if_pos ‹_›] at step
  · rwa [if_neg ‹_›] at step

/-- The branch that a guard does not select does not matter. -/
theorem Ensures.otherwise (isFalse : guard.holds cursor = false)
    (isSecond : Ensures rules second cursor ends) :
    Ensures rules (.choice guard first second) cursor ends :=
  .choice (by rwa [isFalse, if_neg Bool.false_ne_true])

theorem Ensures.selected (isTrue : guard.holds cursor = true)
    (isFirst : Ensures rules first cursor ends) :
    Ensures rules (.choice guard first second) cursor ends :=
  .choice (by rwa [isTrue, if_pos rfl])

theorem Ensures.noMore (isFalse : guard.holds cursor = false) (holds : ends cursor) :
    Ensures rules (many guard body) cursor ends := by
  refine .of_succ fun fuel next step => ?_
  simp only [read, isFalse, Bool.false_eq_true, ↓reduceIte] at step
  obtain rfl := Option.some.inj step
  exact holds

theorem Ensures.more (isTrue : guard.holds cursor = true)
    (isBody : Ensures rules body cursor between)
    (isRest : ∀ next, between next → Ensures rules (many guard body) next ends) :
    Ensures rules (many guard body) cursor ends := by
  refine .of_succ fun fuel next step => ?_
  simp only [read, isTrue, ↓reduceIte] at step
  split at step
  · contradiction
  · rename_i middle bodyStep
    exact isRest middle (isBody fuel middle bodyStep) fuel next step

theorem Ensures.frame (isBody : Ensures rules body ⟨[], [], cursor.rest⟩ fun inner =>
      ends ⟨inner.done ++ cursor.covered, inner.gap, inner.rest⟩) :
    Ensures rules (frame body) cursor ends := by
  refine .of_succ fun fuel next step => ?_
  simp only [read] at step
  split at step
  · contradiction
  · rename_i inner innerStep
    obtain rfl := Option.some.inj step
    exact isBody fuel inner innerStep

theorem Ensures.rule {name : Rule} (isBody : Ensures rules (rules name) cursor ends) :
    Ensures rules (rule name) cursor ends :=
  .of_succ fun fuel next step => isBody fuel next step

/-- A grammar that reads nothing from a cursor has no use for what is read after it. -/
theorem Ensures.refused (isFirst : Ensures rules first cursor fun _ => False) :
    Ensures rules (first ++ second) cursor ends :=
  isFirst.sequence fun _ refused => refused.elim

end Ensures

end Phrasebook.Markup.Grammar

namespace Phrasebook.Markup

/-! ## Blanks -/

section Blanks

variable {blanks rest : List Char} {first : Char}

theorem trivia_eq_length (areBlank : ∀ blank ∈ blanks, isBlank blank = true)
    (notBlank : isBlank first = false) (notSlash : first ≠ '/') :
    Measure.trivia (blanks ++ first :: rest) = blanks.length := by
  have isStretch : Measure.blanks (blanks ++ first :: rest) = blanks.length := by
    rw [Measure.blanks, Measure.stretch, List.takeWhile_append_of_pos areBlank,
      List.takeWhile_cons_of_neg (by simp [notBlank]), List.append_nil]
  -- what starts with no slash is no comment
  have noComment : ∀ start rest', start ≠ '/' →
      Measure.lineComment (start :: rest') = 0 ∧ Measure.blockComment (start :: rest') = 0 := by
    intro start rest' isOther
    simp [Measure.lineComment, Measure.blockComment, Measure.andMaybe, Measure.andThen,
      Measure.literal, List.isPrefixOf, Ne.symm isOther]
  have others : Measure.lineComment (blanks ++ first :: rest) = 0 ∧
      Measure.blockComment (blanks ++ first :: rest) = 0 := by
    cases blanks with
    | nil => exact noComment first rest notSlash
    | cons blank blanks =>
        refine noComment blank _ ?_
        rintro rfl
        exact absurd (areBlank '/' List.mem_cons_self) (by decide)
  rw [Measure.trivia, Measure.longer, Measure.longer, isStretch, others.1, others.2]
  simp

/-- A gap of blanks ends where something else begins. -/
theorem splitGap_blanks (areBlank : ∀ blank ∈ blanks, isBlank blank = true)
    (notBlank : isBlank first = false) (notSlash : first ≠ '/') :
    (splitGap (blanks ++ first :: rest)).2 = first :: rest := by
  have ends (fuel : Nat) : (gapWithin fuel (first :: rest)).2 = first :: rest := by
    have noGap : Measure.trivia ([] ++ first :: rest) = 0 :=
      trivia_eq_length (List.forall_mem_nil _) notBlank notSlash
    cases fuel with
    | zero => rfl
    | succ fuel =>
        rw [List.nil_append] at noGap
        rw [gapWithin, noGap]
        rfl
  have isGap : Measure.trivia (blanks ++ first :: rest) = blanks.length :=
    trivia_eq_length areBlank notBlank notSlash
  cases blanks with
  | nil => exact ends _
  | cons blank blanks =>
      rw [splitGap, List.cons_append, List.length_cons, gapWithin, ← List.cons_append, isGap]
      change (gapWithin _ ((blank :: blanks ++ first :: rest).drop (blank :: blanks).length)).2 = _
      rw [List.drop_left]
      exact ends _

theorem splitGap_of_skipBlanks {text : List Char} (skips : Json.skipBlanks text = first :: rest)
    (notBlank : isBlank first = false) (notSlash : first ≠ '/') :
    (splitGap text).2 = first :: rest := by
  have isWhole : text.takeWhile Json.isBlank ++ first :: rest = text := by
    rw [← skips]
    exact List.takeWhile_append_dropWhile
  rw [← isWhole]
  refine splitGap_blanks (fun blank blankMem => ?_) notBlank notSlash
  have isBlank := List.all_eq_true.mp List.all_takeWhile blank blankMem
  simp only [Json.isBlank, Bool.or_eq_true, beq_iff_eq] at isBlank
  rcases isBlank with ((rfl | rfl) | rfl) | rfl <;> decide

end Blanks

/-! ## Literals -/

section Literals

variable {text after characters digits : List Char} {length : Nat}

/-- What a string literal in quotation marks is made of. -/
def quotedPart : Measure :=
  .longer
    (.one fun character =>
      isPresent character && character != '\\' && character != '\n' && character != '\r')
    .literalEscape

/-- How far a string literal reaches after its quotation mark. -/
def quotedLength : Measure :=
  .closing '"' quotedPart

theorem closingFrom_ne_zero {unit : Measure} {delimiter : Char} {pending : Nat}
    (isClosed : Measure.closingFrom delimiter unit pending text ≠ 0) :
    Measure.closingFrom delimiter unit 0 (text.drop pending) ≠ 0 ∧
      Measure.closingFrom delimiter unit pending text =
        pending + Measure.closingFrom delimiter unit 0 (text.drop pending) := by
  induction text generalizing pending with
  | nil => cases pending <;> exact absurd rfl isClosed
  | cons character text ih =>
      cases pending with
      | zero => exact ⟨isClosed, (Nat.zero_add _).symm⟩
      | succ pending =>
          rw [Measure.closingFrom] at isClosed ⊢
          split at isClosed
          · exact absurd rfl isClosed
          · rename_i isThere
            obtain ⟨isRest, same⟩ := ih isThere
            rw [List.drop_succ_cons]
            exact ⟨isRest, by omega⟩

theorem readCharacters_drop {read : Nat} (isRead : Json.readCharacters read text =
      some (characters, after)) :
    Json.readCharacters 0 (text.drop read) = some (characters, after) := by
  induction text generalizing read with
  | nil => cases read <;> cases isRead
  | cons character text ih =>
      cases read with
      | zero => exact isRead
      | succ read => exact ih isRead

/-- A literal goes on after its first part. -/
theorem quotedLength_cons {first : Char} (notQuote : first ≠ '"')
    (isClosed : quotedLength (first :: text) ≠ 0) :
    ∃ taken, quotedPart (first :: text) = taken + 1 ∧ quotedLength (text.drop taken) ≠ 0 ∧
      quotedLength (first :: text) = taken + 1 + quotedLength (text.drop taken) := by
  unfold quotedLength Measure.closing at isClosed ⊢
  rw [Measure.closingFrom, if_neg (by simpa using notQuote)] at isClosed ⊢
  split at isClosed
  · exact absurd rfl isClosed
  · rename_i taken isPart
    split at isClosed
    · exact absurd rfl isClosed
    · rename_i isThere
      obtain ⟨isRest, same⟩ := closingFrom_ne_zero isThere
      exact ⟨taken, isPart, isRest, by omega⟩

theorem quotedPart_backslash (text : List Char) :
    quotedPart ('\\' :: text) = Measure.literalEscape ('\\' :: text) := by
  simp [quotedPart, Measure.longer, Measure.one]

theorem quotedPart_le_one {first : Char} (notBackslash : first ≠ '\\') (text : List Char) :
    quotedPart (first :: text) ≤ 1 := by
  have noEscape : Measure.literalEscape (first :: text) = 0 := by
    unfold Measure.literalEscape
    split <;> simp_all
  rw [quotedPart, Measure.longer, noEscape, Measure.one]
  split <;> decide

/-- An escape of a unit takes four digits. -/
theorem quotedLength_unit {unit : Nat} (isUnit : Json.unitAt? digits = some unit)
    (isClosed : quotedLength ('\\' :: 'u' :: digits) ≠ 0) :
    quotedLength (digits.drop 4) ≠ 0 ∧
      quotedLength ('\\' :: 'u' :: digits) = 6 + quotedLength (digits.drop 4) := by
  obtain ⟨taken, isPart, isRest, same⟩ := quotedLength_cons (by decide) isClosed
  have notBrace : ∀ rest, digits ≠ '\x7b' :: rest := by
    rintro (_ | ⟨_, _ | ⟨_, _ | ⟨_, rest⟩⟩⟩) rfl <;>
      simp [Json.unitAt?, Text.Reference.hexValue?] at isUnit
  have isFour : taken = 5 := by
    rw [quotedPart_backslash, Measure.literalEscape] at isPart
    rw [Measure.escapeDigits, Measure.exactly] at isPart
    · split_ifs at isPart
      exact (Nat.succ.inj isPart).symm
    · exact notBrace
  subst isFour
  rw [List.drop_succ_cons] at isRest same
  exact ⟨isRest, same⟩

/-- An escape of JSON is one or two escapes of a script, if it is one at all. -/
theorem quotedLength_escape {count : Nat} {meaning : Char}
    (isEscape : Json.escapeAt? text = some (count, meaning))
    (isClosed : quotedLength ('\\' :: text) ≠ 0) :
    quotedLength (text.drop count) ≠ 0 ∧
      quotedLength ('\\' :: text) = count + 1 + quotedLength (text.drop count) := by
  unfold Json.escapeAt? at isEscape
  split at isEscape
  · rename_i digits
    split at isEscape
    · contradiction
    · rename_i unit isUnit
      obtain ⟨isThere, sameEnd⟩ := quotedLength_unit isUnit isClosed
      split_ifs at isEscape
      · obtain ⟨rfl, -⟩ := Prod.mk.inj (Option.some.inj isEscape)
        exact ⟨isThere, sameEnd⟩
      · split at isEscape
        · rename_i more isSecond
          split at isEscape
          · rename_i low isLow
            split_ifs at isEscape
            obtain ⟨rfl, -⟩ := Prod.mk.inj (Option.some.inj isEscape)
            rw [isSecond] at isThere sameEnd
            obtain ⟨isLast, lastEnd⟩ := quotedLength_unit isLow isThere
            have isDropped : ('u' :: digits).drop 11 = more.drop 4 := by
              have twice := congrArg (List.drop 6) isSecond
              rw [List.drop_drop] at twice
              exact twice
            rw [isDropped]
            exact ⟨isLast, by omega⟩
          · contradiction
        · contradiction
  · rename_i letter rest notUnit
    obtain ⟨character, isLetter, same⟩ := Option.map_eq_some_iff.mp isEscape
    obtain ⟨rfl, -⟩ := Prod.mk.inj same
    obtain ⟨taken, isPart, isRest, sameEnd⟩ := quotedLength_cons (by decide) isClosed
    have isTwo : Measure.literalEscape ('\\' :: letter :: rest) = 2 := by
      obtain ⟨front, back, whole, -⟩ := List.lookup_eq_some_iff.mp isLetter
      have isKnown : letter ∈ Json.readLetters.map (·.1) := by simp [whole]
      simp only [Json.readLetters, Json.letters, List.map_cons, List.map_nil, List.mem_cons,
        List.not_mem_nil, or_false] at isKnown
      rcases isKnown with rfl | rfl | rfl | rfl | rfl | rfl | rfl | rfl <;> rfl
    rw [quotedPart_backslash, isTwo] at isPart
    obtain rfl : taken = 1 := (Nat.succ.inj isPart).symm
    exact ⟨isRest, sameEnd⟩
  · contradiction

/-- A literal of JSON ends where it does as a literal of a script, if it is one. -/
theorem drop_quotedLength (isRead : Json.readCharacters 0 text = some (characters, after))
    (isClosed : quotedLength text ≠ 0) : text.drop (quotedLength text) = after := by
  induction isLength : text.length using Nat.strongRecOn generalizing text characters with
  | ind size ih =>
  cases text with
  | nil => cases isRead
  | cons first text =>
      rw [Json.readCharacters] at isRead
      by_cases isQuote : first = '"'
      · subst isQuote
        rw [if_pos (beq_self_eq_true _)] at isRead
        cases isRead
        rfl
      · rw [if_neg (by simpa using isQuote)] at isRead
        obtain ⟨taken, isPart, isRest, same⟩ := quotedLength_cons isQuote isClosed
        have goesOn (count : Nat) (others : List Char)
            (isOthers : Json.readCharacters count text = some (others, after))
            (isThere : quotedLength (text.drop count) ≠ 0)
            (sameEnd : quotedLength (first :: text) = count + 1 + quotedLength (text.drop count)) :
            (first :: text).drop (quotedLength (first :: text)) = after := by
          have shorter : (text.drop count).length < size := by
            rw [← isLength, List.length_drop, List.length_cons]
            omega
          rw [sameEnd, Nat.add_right_comm, List.drop_succ_cons, ← List.drop_drop]
          exact ih _ shorter (readCharacters_drop isOthers) isThere rfl
        by_cases isBackslash : first = '\\'
        · subst isBackslash
          rw [if_pos (beq_self_eq_true _)] at isRead
          split at isRead
          · contradiction
          · rename_i count meaning isEscape
            obtain ⟨⟨others, rest⟩, isOthers, same'⟩ := Option.map_eq_some_iff.mp isRead
            cases same'
            obtain ⟨isThere, sameEnd⟩ := quotedLength_escape isEscape isClosed
            exact goesOn count others isOthers isThere sameEnd
        · rw [if_neg (by simpa using isBackslash)] at isRead
          obtain ⟨-, isRead⟩ := Option.ite_none_left_eq_some.mp isRead
          obtain ⟨⟨others, rest⟩, isOthers, same'⟩ := Option.map_eq_some_iff.mp isRead
          cases same'
          have isOne := quotedPart_le_one isBackslash text
          obtain rfl : taken = 0 := by omega
          exact goesOn 0 others isOthers isRest same

theorem measure_string (text : List Char) :
    Lexeme.string.measure ('"' :: text) =
      if quotedLength text = 0 then 0 else quotedLength text + 1 := by
  have noOther : Lexeme.string.measure ('"' :: text) =
      Measure.andThen (.one (· == '"')) quotedLength ('"' :: text) :=
    Nat.max_zero _
  have isQuote : Measure.one (· == '"') ('"' :: text) = 1 := rfl
  rw [noOther, Measure.andThen, isQuote]
  simp only [List.drop_succ_cons, List.drop_zero]
  cases quotedLength text with
  | zero => rfl
  | succ length =>
      rw [if_neg (Nat.succ_ne_zero length)]
      exact Nat.add_comm 1 (length + 1)

/-- After a literal of JSON a script goes on with what JSON goes on with. -/
theorem rest_of_stringToken {kind : Kind} {cursor next : Cursor} {first : Char} {more : List Char}
    (isHere : cursor.rest = '"' :: text)
    (isRead : Json.readCharacters 0 text = some (characters, after))
    (goesOn : Json.skipBlanks after = first :: more) (notBlank : isBlank first = false)
    (notSlash : first ≠ '/') (step : cursor.token? kind .string = some next) :
    next.rest = first :: more := by
  unfold Cursor.token? at step
  split at step
  · contradiction
  · rename_i token rest cut
    obtain rfl := Option.some.inj step
    rw [isHere, Lexeme.split?, measure_string] at cut
    have isClosed : quotedLength text ≠ 0 := by
      intro isZero
      rw [if_pos isZero] at cut
      contradiction
    have isRest : rest = after := by
      rw [← drop_quotedLength isRead isClosed]
      rw [if_neg isClosed] at cut
      obtain ⟨-, rfl⟩ := Prod.mk.inj (Option.some.inj cut)
      rfl
    change (splitGap rest).2 = _
    rw [isRest]
    exact splitGap_of_skipBlanks goesOn notBlank notSlash

end Literals

/-! ## First characters -/

/-- A character is the next one. -/
def Sees (character : Char) (cursor : Cursor) : Prop :=
  ∃ rest, cursor.rest = character :: rest

/-- No token of a class begins with a character. -/
def Lexeme.avoids (character : Char) : Lexeme → Bool
  | literal text | word text => text.toList.head?.any (· != character)
  | operator expected => expected.all fun text => text.toList.head?.any (· != character)
  | name | identifier => !begins.startsName character
  | privateName => character != '#'
  | number => character != '.' && !character.isDigit
  | string | attributeString => character != '"' && character != '\''
  | regex => character != '/'
  | markupComment => character != '<' && character != '-'
  | hyphenated | templateText | elementText | closing | interpreterLine => false

/-- A guard does not hold where a character is the next one. -/
def Guard.fails (character : Char) : Guard → Bool
  | begins lexeme => lexeme.avoids character
  | sameLine | unmarkedEnd | not _ => false
  | both first second => first.fails character || second.fails character
  | either first second => first.fails character && second.fails character

section Sees

variable {character : Char} {cursor : Cursor} {lexeme : Lexeme} {guard : Guard}

theorem isPrefixOf_eq_false {word : List Char} (isOther : word.head?.any (· != character) = true)
    (rest : List Char) : word.isPrefixOf (character :: rest) = false := by
  cases word with
  | nil => contradiction
  | cons first word =>
      have different : (first == character) = false := by simpa using isOther
      rw [List.isPrefixOf, different, Bool.false_and]

/-- An operator that stands somewhere begins with the character that stands there. -/
theorem head?_of_operatorAt {rest : List Char} {found : String}
    (isFound : Measure.operatorAt (character :: rest) = some found) :
    found.toList.head? = some character := by
  unfold Measure.operatorAt at isFound
  split at isFound
  · rename_i isHere
    obtain ⟨rfl, -⟩ := List.cons.inj isHere
    split_ifs at isFound <;> (obtain rfl := Option.some.inj isFound; rfl)
  · contradiction
  · have isPrefix := List.find?_some isFound
    have notEmpty : ∀ text ∈ Measure.operators, text.toList.head?.isSome = true := by decide
    have hasHead := notEmpty found (List.mem_of_find?_eq_some isFound)
    by_contra isOther
    rw [isPrefixOf_eq_false] at isPrefix
    · contradiction
    · obtain ⟨first, isFirst⟩ := Option.isSome_iff_exists.mp hasHead
      rw [isFirst] at isOther ⊢
      simpa using isOther

theorem begins_of_avoids (avoids : lexeme.avoids character = true) (rest : List Char) :
    lexeme.begins (character :: rest) = false := by
  cases lexeme with
  | literal text =>
      simp [Lexeme.begins, Lexeme.measure, Measure.literal, isPrefixOf_eq_false avoids]
  | word text =>
      simp [Lexeme.begins, Lexeme.measure, Measure.word, Measure.startsWith,
        isPrefixOf_eq_false avoids]
  | operator expected =>
      rw [Lexeme.begins.eq_def]
      dsimp only [Lexeme.measure]
      rw [Measure.operator]
      split
      · rename_i found isFound
        have isHead := head?_of_operatorAt isFound
        have notExpected : expected.contains found = false := by
          refine Bool.eq_false_iff.mpr fun isThere => ?_
          have isOther := List.all_eq_true.mp avoids found (List.contains_iff_mem.mp isThere)
          simp [isHead] at isOther
        rw [notExpected]
        rfl
      · rfl
  | name => simpa [Lexeme.begins, Lexeme.avoids] using avoids
  | identifier =>
      simp only [Lexeme.avoids, Bool.not_eq_true'] at avoids
      simp [Lexeme.begins, avoids]
  | privateName => simpa [Lexeme.begins, Lexeme.avoids] using avoids
  | number =>
      simp only [Lexeme.avoids, Bool.and_eq_true, bne_iff_ne, Bool.not_eq_true'] at avoids
      unfold Lexeme.begins
      split <;> simp_all
  | string => simpa [Lexeme.begins, Lexeme.avoids] using avoids
  | attributeString => simpa [Lexeme.begins, Lexeme.avoids] using avoids
  | regex => simpa [Lexeme.begins, Lexeme.avoids] using avoids
  | markupComment =>
      simp only [Lexeme.avoids, Bool.and_eq_true, bne_iff_ne] at avoids
      have noOpening : ['<', '!', '-', '-'].isPrefixOf (character :: rest) = false :=
        isPrefixOf_eq_false (by simpa using Ne.symm avoids.1) rest
      have noClosing : ['-', '-', '>'].isPrefixOf (character :: rest) = false :=
        isPrefixOf_eq_false (by simpa using Ne.symm avoids.2) rest
      simp [Lexeme.begins, Lexeme.measure, Measure.markupComment, Measure.andMaybe,
        Measure.longer, Measure.literal, noOpening, noClosing]
  | _ => contradiction

theorem holds_of_fails (sees : Sees character cursor) (fails : guard.fails character = true) :
    guard.holds cursor = false := by
  obtain ⟨rest, isHere⟩ := sees
  induction guard with
  | begins lexeme =>
      rw [Guard.holds, isHere]
      exact begins_of_avoids fails rest
  | both first second firstFails secondFails =>
      rcases Bool.or_eq_true_iff.mp fails with fails | fails
      · rw [Guard.holds, firstFails fails, Bool.false_and]
      · rw [Guard.holds, secondFails fails, Bool.and_false]
  | either first second firstFails secondFails =>
      obtain ⟨first, second⟩ := Bool.and_eq_true_iff.mp fails
      rw [Guard.holds, firstFails first, secondFails second, Bool.or_false]
  | _ => contradiction

end Sees

end Phrasebook.Markup

namespace Phrasebook.Markup.Script

open Grammar

/-! ## Objects are no scripts -/

section Objects

variable {cursor : Cursor} {ends : Cursor → Prop}

/-- Cases whose guards do not hold are passed over. -/
theorem ensures_first {character : Char} {cases : List (Guard × Grammar Rule)}
    {otherwise : Grammar Rule} (sees : Sees character cursor) (count : Nat)
    (pass : ((cases.take count).all fun case => case.1.fails character) = true)
    (ensures : Ensures rules (first (cases.drop count) otherwise) cursor ends) :
    Ensures rules (first cases otherwise) cursor ends := by
  induction count generalizing cases with
  | zero => exact ensures
  | succ count ih =>
      cases cases with
      | nil => exact ensures
      | cons case cases =>
          rw [List.take_succ_cons, List.all_cons, Bool.and_eq_true] at pass
          exact .otherwise (holds_of_fails sees pass.1) (ih pass.2 ensures)

theorem ensures_chainTail (sees : Sees ':' cursor) :
    Ensures rules (rules .chainTail) cursor (Sees ':') := by
  refine .sequence (.noMore (holds_of_fails sees rfl) sees) fun next sees => ?_
  exact ensures_first sees 2 rfl (.empty sees)

theorem ensures_expressionTail (sees : Sees ':' cursor) :
    Ensures rules (rules .expressionTail) cursor (Sees ':') :=
  .noMore (holds_of_fails sees rfl) sees

theorem ensures_sequenceTail (sees : Sees ':' cursor) :
    Ensures rules (rules .sequenceTail) cursor (Sees ':') :=
  .otherwise (holds_of_fails sees rfl) (.empty sees)

/-- No statement ends before a colon. -/
theorem ensures_statementEnd (sees : Sees ':' cursor) :
    Ensures rules statementEnd cursor fun _ => False := by
  refine .otherwise (holds_of_fails sees rfl) (.require fun isEnd => ?_)
  obtain ⟨rest, isHere⟩ := sees
  simp [Guard.holds, Cursor.endsUnmarked, isHere, Cursor.endsUnmarked.startsStatement] at isEnd

variable {text literal after characters more : List Char}

/-- A name of a field is an expression, and a colon comes after it. -/
theorem ensures_sequence (isHere : cursor.rest = '"' :: literal)
    (isRead : Json.readCharacters 0 literal = some (characters, after))
    (goesOn : Json.skipBlanks after = ':' :: more) :
    Ensures rules (rules .sequence) cursor (Sees ':') := by
  have isString (cursor : Cursor) (isHere : cursor.rest = '"' :: literal) :
      Ensures rules (rules .chainHead) cursor (Sees ':') := by
    refine ensures_first ⟨literal, isHere⟩ 7 rfl (.selected ?_ (.token fun next step => ?_))
    · rw [seesString, Guard.holds, isHere]
      rfl
    · exact ⟨more, rest_of_stringToken isHere isRead goesOn (by decide) (by decide) step⟩
  have isChain (cursor : Cursor) (isHere : cursor.rest = '"' :: literal) :
      Ensures rules (rules .chain) cursor (Sees ':') :=
    .frame (.sequence (.rule (isString _ isHere)) fun _ sees => .rule (ensures_chainTail sees))
  have isExpression (cursor : Cursor) (isHere : cursor.rest = '"' :: literal) :
      Ensures rules (rules .expression) cursor (Sees ':') := by
    refine .frame (.sequence (.rule ?_) fun _ sees => .rule (ensures_expressionTail sees))
    exact ensures_first ⟨literal, isHere⟩ 5 rfl (.rule (isChain _ isHere))
  exact .frame (.sequence (.rule (isExpression _ isHere)) fun _ sees =>
    .rule (ensures_sequenceTail sees))

/-- A name of a field and its colon are no statement. -/
theorem ensures_item (isHere : cursor.rest = '"' :: literal)
    (isRead : Json.readCharacters 0 literal = some (characters, after))
    (goesOn : Json.skipBlanks after = ':' :: more) :
    Ensures rules (rules .item) cursor fun _ => False := by
  have isWord (cursor : Cursor) (isHere : cursor.rest = '"' :: literal) :
      Ensures rules (rules .wordStatement) cursor fun _ => False := by
    have sees : Sees '"' cursor := ⟨literal, isHere⟩
    refine ensures_first sees 5 rfl (.selected ?_ ?_)
    · have notIdentifier : seesIdentifier.holds cursor = false := holds_of_fails sees rfl
      change (_ || !seesIdentifier.holds cursor) = true
      rw [notIdentifier, Bool.not_false, Bool.or_true]
    · exact .sequence (.rule (ensures_sequence isHere isRead goesOn)) fun _ sees =>
        ensures_statementEnd sees
  have isPlain (cursor : Cursor) (isHere : cursor.rest = '"' :: literal) :
      Ensures rules (rules .plainStatement) cursor fun _ => False :=
    ensures_first ⟨literal, isHere⟩ 12 rfl (.rule (isWord cursor isHere))
  have sees : Sees '"' cursor := ⟨literal, isHere⟩
  refine .otherwise (holds_of_fails sees rfl) (.rule ?_)
  exact ensures_first sees 4 rfl (.frame (.refused (.rule (isPlain _ isHere))))

/-- An object with fields is no item of a script. -/
theorem ensures_settledItem (isHere : cursor.rest = '\x7b' :: text)
    (isField : Json.skipBlanks text = '"' :: literal)
    (isRead : Json.readCharacters 0 literal = some (characters, after))
    (goesOn : Json.skipBlanks after = ':' :: more) :
    Ensures rules settledItem cursor fun _ => False := by
  have sees : Sees '\x7b' cursor := ⟨text, isHere⟩
  have isBlock (cursor : Cursor) (isHere : cursor.rest = '\x7b' :: text) :
      Ensures rules (rules .block) cursor fun _ => False := by
    have opens (cursor : Cursor) (isHere : cursor.rest = '\x7b' :: text) :
        Ensures rules (sign "\x7b") cursor fun next => next.rest = '"' :: literal := by
      refine .token fun next step => ?_
      unfold Cursor.token? at step
      rw [isHere] at step
      obtain rfl := Option.some.inj step
      exact splitGap_of_skipBlanks isField (by decide) (by decide)
    refine .frame (.refused (.refused (.sequence (opens _ isHere) fun next isNext => ?_)))
    refine .more ?_ (.rule (ensures_item isNext isRead goesOn)) fun _ refused => refused.elim
    rw [Guard.holds, holds_of_fails ⟨literal, isNext⟩ rfl, Bool.not_false]
  refine .refused (.rule (.otherwise (holds_of_fails sees rfl) (.rule (.selected ?_ ?_))))
  · rw [Guard.sees, Guard.holds, isHere]
    rfl
  · exact .rule (isBlock cursor isHere)

theorem read_eq_error {whole : List Char} (isObject : Json.skipBlanks whole = '\x7b' :: text)
    (isField : Json.skipBlanks text = '"' :: literal)
    (isRead : Json.readCharacters 0 literal = some (characters, after))
    (goesOn : Json.skipBlanks after = ':' :: more) : ∃ line, read whole = .error line := by
  have noInterpreter : start whole = .before whole [] := by
    have noLine : Lexeme.interpreterLine.split? whole = none := by
      cases whole with
      | nil => rfl
      | cons first whole =>
          have isOther : first ≠ '#' := by
            rintro rfl
            rw [Json.skipBlanks, List.dropWhile_cons_of_neg (by decide)] at isObject
            exact absurd (List.cons.inj isObject).1 (by decide)
          simp [Lexeme.split?, Lexeme.measure, Measure.interpreterLine, Measure.andMaybe,
            Measure.literal, List.isPrefixOf, Ne.symm isOther]
    rw [start, noLine]
  have isStart : (Cursor.before whole []).rest = '\x7b' :: text :=
    splitGap_of_skipBlanks isObject (by decide) (by decide)
  have staysThere (fuel count : Nat) :
      readItems fuel count (.before whole []) = .before whole [] := by
    cases count with
    | zero => rfl
    | succ count =>
        rw [readItems]
        split
        · rfl
        · rename_i next step
          exact (ensures_settledItem isStart isField isRead goesOn fuel next step).elim
  unfold read
  dsimp only
  rw [noInterpreter, staysThere, isStart]
  exact ⟨_, rfl⟩

end Objects

end Phrasebook.Markup.Script

namespace Phrasebook

/-! ## Stores are no books -/

section Stores

/-- A text starts with a name of a field and a colon. -/
def Json.StartsField (text : List Char) : Prop :=
  ∃ literal characters after more, text = '"' :: literal ∧
    Json.readCharacters 0 literal = some (characters, after) ∧
    Json.skipBlanks after = ':' :: more

theorem Json.startsField_of_readFields {fuel depth : Nat} {fields : List (Value × Value)}
    {text rest : List Char} {value : Value}
    (isRead : Json.readFields fuel depth fields text = some (value, rest)) :
    Json.StartsField text := by
  cases fuel with
  | zero => cases isRead
  | succ fuel =>
      unfold Json.readFields at isRead
      split at isRead
      · rename_i literal
        split at isRead
        · cases isRead
        · rename_i characters after isName
          split at isRead
          · rename_i more isColon
            exact ⟨literal, characters, after, more, rfl, isName, isColon⟩
          · cases isRead
      · cases isRead

/-- A document with a field is an object whose first field has a name. -/
theorem Json.exists_field_of_read? {depth : Nat} {text name : String} {document : Value}
    (isRead : Json.read? depth text = some document)
    (hasField : (document.field? name).isSome = true) :
    ∃ fields, Json.skipBlanks text.toList = '\x7b' :: fields ∧
      Json.StartsField (Json.skipBlanks fields) := by
  unfold Json.read? at isRead
  dsimp only at isRead
  split at isRead
  · rename_i value rest isValue
    obtain ⟨-, same⟩ := Option.ite_none_right_eq_some.mp isRead
    obtain rfl := Option.some.inj same
    unfold Json.readValue at isValue
    split at isValue
    · split at isValue
      · cases isValue
        contradiction
      · obtain ⟨-, isValue⟩ := Option.ite_none_left_eq_some.mp isValue
        obtain ⟨_, _, same⟩ := Option.map_eq_some_iff.mp isValue
        cases same
        contradiction
    · rename_i fields isObject
      split at isValue
      · cases isValue
        contradiction
      · obtain ⟨-, isValue⟩ := Option.ite_none_left_eq_some.mp isValue
        exact ⟨fields, isObject, Json.startsField_of_readFields isValue⟩
    · have isPlain := Json.isPlain_of_readPlain isValue
      cases value <;> contradiction
  · contradiction

theorem Book.read_ne_ok {path? : Option String} {tag text : String} {store : PlaceStore}
    (isStore : PlaceStore.read text = .ok store) (book : Book) :
    Book.read path? tag text ≠ .ok book := by
  intro isBook
  unfold PlaceStore.read at isStore
  split at isStore
  · rename_i document isDocument
    have hasVersion : (document.field? "version").isSome = true := by
      unfold PlaceStore.ofValue at isStore
      split_ifs at isStore with isUnknown
      cases isVersion : document.field? "version" with
      | some version => rfl
      | none => simp [isVersion] at isUnknown
    obtain ⟨fields, isObject, literal, characters, after, more, isField, isName, goesOn⟩ :=
      Json.exists_field_of_read? isDocument hasVersion
    obtain ⟨line, isError⟩ :=
      Markup.Script.read_eq_error isObject isField isName goesOn
    obtain ⟨_, isListing, _⟩ := bind_eq_ok_iff.mp isBook
    obtain ⟨script, isScript, _⟩ := bind_eq_ok_iff.mp isListing
    rw [scriptOf, isError] at isScript
    contradiction
  · contradiction

end Stores

end Phrasebook
