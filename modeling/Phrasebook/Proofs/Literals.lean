import Phrasebook.Book.Writer
import Phrasebook.Build.Basic
import Phrasebook.Proofs.Exclusion
import Phrasebook.Proofs.JsonText

/-!
# Literals that are written

Keys, contexts and languages are written by the rules of JSON and read by those
of a script.  A character is written as itself, as a letter after a backslash or
as the number of a unit.  In each of these forms it is one part of a literal and
stands for itself, whatever follows.
-/

namespace Phrasebook.Markup

open Text.Sha256 (hexDigit hexText)

/-- The forms in which a character is written between quotes. -/
inductive Written (quote : Char) : List Char → Char → Prop where
  | plain {character : Char} (isPlain : character ∉ [quote, '\\', '\n', '\r', '\x00']) :
    Written quote [character] character
  | letter {character letter : Char} (isLetter : (character, letter) ∈ Json.letters) :
    Written quote ['\\', letter] character
  | apostrophe (isQuote : quote = '\'') : Written quote ['\\', '\''] '\''
  | unit {character : Char} (isControl : character.toNat < 0x20) :
    Written quote (Json.unitEscape character.toNat) character

/-! ## Units -/

section Units

variable (number : Nat) (rest : List Char)

theorem isHexDigit_of_mem_hexText {digit : Char} {count : Nat}
    (digitMem : digit ∈ hexText count number) : isHexDigit digit = true := by
  have areDigits : ∀ value < 16, isHexDigit (hexDigit value) = true := by decide
  obtain ⟨index, -, rfl⟩ := List.mem_map.mp digitMem
  exact areDigits _ (Nat.mod_lt _ (by decide))

theorem exactly_hexText :
    Measure.exactly 4 isHexDigit (hexText 4 number ++ rest) = 4 := by
  have areFour : (hexText 4 number).length = 4 := Json.length_hexText 4 number
  have areAll : (hexText 4 number).takeWhile isHexDigit = hexText 4 number := by
    rw [← List.append_nil (hexText 4 number), List.takeWhile_append_of_pos, List.takeWhile_nil]
    exact fun digit => isHexDigit_of_mem_hexText number
  rw [Measure.exactly, Measure.upTo, List.take_left' areFour, areAll, areFour, if_pos rfl]

/-- The digits of a unit do not open a brace. -/
theorem hexText_ne_brace (more : List Char) : hexText 4 number ++ rest ≠ '\x7b' :: more := by
  intro isBrace
  have isFirst : (hexText 4 number).head? = some '\x7b' := by
    have sameFirst := congrArg List.head? isBrace
    rwa [List.head?_append_of_ne_nil _ (List.ne_nil_of_length_pos (by simp [Json.length_hexText]))]
      at sameFirst
  exact absurd (isHexDigit_of_mem_hexText number (List.mem_of_head? isFirst)) (by decide)

theorem escapeDigits_hexText : Measure.escapeDigits (hexText 4 number ++ rest) = 4 := by
  rw [Measure.escapeDigits, exactly_hexText]
  exact hexText_ne_brace number rest

theorem numberAt_hexText {number : Nat} (small : number < 0x10000) :
    (Text.Reference.numberAt 16 0 (hexText 4 number)).1 = number := by
  have digits : hexText 4 number =
      [hexDigit (number / 4096 % 16), hexDigit (number / 256 % 16), hexDigit (number / 16 % 16),
        hexDigit (number / 1 % 16)] := rfl
  have isBelow (value : Nat) : value % 16 < 16 := Nat.mod_lt value (by decide)
  have value (number : Nat) :
      Text.Reference.hexValue? (hexDigit (number % 16)) = some (number % 16) :=
    Json.hexValue?_hexDigit (isBelow number)
  rw [digits]
  simp only [Text.Reference.numberAt, value, if_pos (isBelow _)]
  omega

theorem numberEscape?_unit {number : Nat} (small : number < 0x10000) :
    Literal.numberEscape? ('u' :: hexText 4 number ++ rest) = some (5, number) := by
  have areFour : (hexText 4 number).length = 4 := Json.length_hexText 4 number
  unfold Literal.numberEscape?
  dsimp only
  split
  · rename_i more isBrace
    exact absurd (List.cons.inj isBrace).2 (hexText_ne_brace number rest more)
  · rename_i digits _ isUnit
    have isDigits : digits = hexText 4 number ++ rest := (List.cons.inj isUnit).2.symm
    rw [isDigits, exactly_hexText, List.cons_append, List.drop_succ_cons, List.drop_zero,
      List.take_left' areFour, numberAt_hexText small]
    rfl
  · rename_i isOther
    cases isOther
  · rename_i isOther _
    exact absurd rfl (isOther _)

end Units

/-! ## Characters -/

section Characters

variable {quote character : Char} {written : List Char}

theorem quotedPart_of_written (isWritten : Written quote written character) (rest : List Char) :
    quotedPart (written ++ rest) = written.length := by
  cases isWritten with
  | plain isPlain =>
      have isLone : Measure.literalEscape (character :: rest) = 0 := by
        unfold Measure.literalEscape
        split <;> simp_all
      have isOne : Measure.one (fun character => isPresent character && character != '\\' &&
          character != '\n' && character != '\r') (character :: rest) = 1 := by
        simp only [List.mem_cons, not_or] at isPlain
        simp [Measure.one, isPresent, isPlain]
      rw [List.singleton_append, quotedPart, Measure.longer, isLone, isOne]
      rfl
  | @letter _ letter isLetter =>
      have areTwo : ∀ pair ∈ Json.letters, ∀ text,
          Measure.literalEscape ('\\' :: pair.2 :: text) = 2 := by
        simp only [Json.letters, List.forall_mem_cons]
        refine ⟨?_, ?_, ?_, ?_, ?_, ?_, ?_, List.forall_mem_nil _⟩ <;> exact fun _ => rfl
      exact (quotedPart_backslash _).trans (areTwo _ isLetter rest)
  | apostrophe => exact quotedPart_backslash _
  | unit isControl =>
      rw [Json.unitEscape, List.cons_append, quotedPart_backslash, List.cons_append,
        Measure.literalEscape, escapeDigits_hexText]
      simp [Json.length_hexText]

/-- What an escape stands for is read before what follows it. -/
theorem decodeFrom_escape {escape : List Char} (rest : List Char)
    (isEscape : Literal.escapeAt (escape ++ rest) = some (escape.length, [character.toNat])) :
    Literal.decodeFrom 0 ('\\' :: escape ++ rest) =
      (Literal.decodeFrom 0 rest).map (character.toNat :: ·) := by
  have isPast : ∀ front : List Char,
      Literal.decodeFrom front.length (front ++ rest) = Literal.decodeFrom 0 rest := by
    intro front
    induction front with
    | nil => rfl
    | cons first front ih => rw [List.length_cons, List.cons_append, Literal.decodeFrom, ih]
  rw [List.cons_append, Literal.decodeFrom]
  simp [isEscape, isPast]

theorem decodeFrom_of_written (isWritten : Written quote written character) (rest : List Char) :
    Literal.decodeFrom 0 (written ++ rest) =
      (Literal.decodeFrom 0 rest).map (character.toNat :: ·) := by
  cases isWritten with
  | plain isPlain =>
      have notEscape : character ≠ '\\' := by
        rintro rfl
        simp at isPlain
      rw [List.singleton_append, Literal.decodeFrom, if_neg (by simpa using notEscape)]
  | @letter _ letter isLetter =>
      have areLetters : ∀ pair ∈ Json.letters, ∀ text,
          Literal.escapeAt (pair.2 :: text) = some (1, [pair.1.toNat]) := by
        simp only [Json.letters, List.forall_mem_cons]
        refine ⟨?_, ?_, ?_, ?_, ?_, ?_, ?_, List.forall_mem_nil _⟩ <;> exact fun _ => rfl
      exact decodeFrom_escape rest (areLetters _ isLetter rest)
  | apostrophe => exact decodeFrom_escape rest rfl
  | unit isControl =>
      refine decodeFrom_escape rest ?_
      rw [Literal.escapeAt.eq_def, numberEscape?_unit rest (by omega)]
      simp only [if_neg (show ¬0x10FFFF < character.toNat by omega), List.length_cons,
        Json.length_hexText]

end Characters

/-! ## Literals -/

/-- A literal is one token of a script, and it stands for a text. -/
structure IsReadAs (literal : List Char) (text : String) : Prop where
  isToken : ∀ rest, Lexeme.string.measure (literal ++ rest) = literal.length
  meaning : Literal.meaning? literal = some text

section Texts

variable {quote : Char} {write : Char → List Char}

theorem closingFrom_append {unit : Measure} {rest : List Char} {length : Nat}
    (isClosed : Measure.closing quote unit rest = length + 1) (front : List Char) :
    Measure.closingFrom quote unit front.length (front ++ rest) = front.length + length + 1 := by
  induction front with
  | nil => rw [List.nil_append, List.length_nil, Nat.zero_add]; exact isClosed
  | cons first front ih =>
      rw [List.length_cons, List.cons_append, Measure.closingFrom, ih]
      simp only
      omega

/-- A literal goes on after the written form of a character. -/
theorem closing_of_written {character : Char} {written rest : List Char} {length : Nat}
    (notBackslash : quote ≠ '\\') (isWritten : Written quote written character)
    (isClosed : Measure.closing quote quotedPart rest = length + 1) :
    Measure.closing quote quotedPart (written ++ rest) = written.length + length + 1 := by
  have isPart := quotedPart_of_written isWritten rest
  obtain ⟨first, others, rfl, notQuote⟩ :
      ∃ first others, written = first :: others ∧ first ≠ quote := by
    cases isWritten with
    | plain isPlain => exact ⟨_, _, rfl, fun same => isPlain (same ▸ List.mem_cons_self)⟩
    | letter => exact ⟨_, _, rfl, notBackslash.symm⟩
    | apostrophe => exact ⟨_, _, rfl, notBackslash.symm⟩
    | unit => exact ⟨_, _, rfl, notBackslash.symm⟩
  rw [List.cons_append, List.length_cons] at isPart
  rw [Measure.closing, List.cons_append, Measure.closingFrom, if_neg (by simpa using notQuote),
    isPart]
  simp only [closingFrom_append isClosed others, List.length_cons]
  omega

theorem closing_flatMap (notBackslash : quote ≠ '\\')
    (isWritten : ∀ character, Written quote (write character) character)
    (characters rest : List Char) :
    Measure.closing quote quotedPart (characters.flatMap write ++ quote :: rest) =
      (characters.flatMap write).length + 1 := by
  induction characters with
  | nil => simp [Measure.closing, Measure.closingFrom]
  | cons character characters ih =>
      rw [List.flatMap_cons, List.append_assoc,
        closing_of_written notBackslash (isWritten character) ih, List.length_append]

theorem decodeFrom_flatMap (isWritten : ∀ character, Written quote (write character) character)
    (characters : List Char) :
    Literal.decodeFrom 0 (characters.flatMap write) = some (characters.map Char.toNat) := by
  induction characters with
  | nil => rfl
  | cons character characters ih =>
      rw [List.flatMap_cons, decodeFrom_of_written (isWritten character), ih, Option.map_some,
        List.map_cons]

/-- A text is read back between quotes if each of its characters is written in one of the forms. -/
theorem isReadAs_of_written (isQuote : quote = '"' ∨ quote = '\'')
    (isWritten : ∀ character, Written quote (write character) character) (text : String) :
    IsReadAs (quote :: text.toList.flatMap write ++ [quote]) text where
  isToken rest := by
    have notBackslash : quote ≠ '\\' := by rcases isQuote with rfl | rfl <;> decide
    have isOne (text : List Char) : Measure.one (· == quote) (quote :: text) = 1 := by
      simp [Measure.one]
    have isBetween : Measure.stringBetween quote
        (quote :: (text.toList.flatMap write ++ quote :: rest)) =
          (text.toList.flatMap write).length + 2 := by
      unfold Measure.stringBetween Measure.delimited Measure.andThen
      rw [isOne]
      have isClosed := closing_flatMap notBackslash isWritten text.toList rest
      rw [quotedPart] at isClosed
      simp only [List.drop_succ_cons, List.drop_zero, isClosed]
      omega
    have isWhole : quote :: text.toList.flatMap write ++ [quote] ++ rest =
        quote :: (text.toList.flatMap write ++ quote :: rest) := by simp
    have isLonger : Lexeme.string.measure
        (quote :: (text.toList.flatMap write ++ quote :: rest)) =
          Measure.stringBetween quote
            (quote :: (text.toList.flatMap write ++ quote :: rest)) := by
      -- Between quotes of the other kind there is nothing.
      rcases isQuote with rfl | rfl
      · exact Nat.max_zero _
      · exact Nat.zero_max _
    rw [isWhole, isLonger, isBetween]
    simp
  meaning := by
    rw [Literal.meaning?, Literal.codes?, Literal.unquote]
    simp [decodeFrom_flatMap isWritten, Function.comp_def]

end Texts

/-! ## Writers -/

section Writers

open Build (constantText? escapeApostrophes languageConstant languageLiteral)

variable (character : Char)

theorem written_encodeCharacter : Written '"' (Json.encodeCharacter false character) character := by
  unfold Json.encodeCharacter
  cases isLetter : Json.letters.lookup character with
  | some letter =>
      obtain ⟨_, _, isTable, _⟩ := List.lookup_eq_some_iff.mp isLetter
      exact .letter (by simp [isTable])
  | none =>
      have isKnown : ∀ sign ∈ ['"', '\\', '\n', '\r', '\x00'],
          (Json.letters.lookup sign).isSome = true ∨ sign.toNat < 0x20 := by
        simp only [List.forall_mem_cons]
        refine ⟨?_, ?_, ?_, ?_, ?_, List.forall_mem_nil _⟩ <;> decide
      simp only [Bool.false_and, Bool.false_eq_true, if_false]
      split
      · rename_i isControl
        exact .unit isControl
      · rename_i notControl
        refine .plain fun isSign => ?_
        obtain isListed | isControl := isKnown character isSign
        · rw [isLetter] at isListed
          exact absurd isListed Bool.false_ne_true
        · exact notControl isControl

theorem escapeApostrophes_of_notMem {text : List Char} (absent : '\'' ∉ text) :
    escapeApostrophes text = text := by
  induction text with
  | nil => rfl
  | cons first text ih =>
      obtain ⟨differs, absent⟩ := not_or.mp (mt List.mem_cons.mpr absent)
      have isRest : text.flatMap (fun character =>
          if character == '\'' then ['\\', '\''] else [character]) = text := ih absent
      rw [escapeApostrophes, List.flatMap_cons, if_neg (by simpa using Ne.symm differs), isRest]
      rfl

/-- The apostrophe is the only form that is escaped once more. -/
theorem written_escapeApostrophes :
    Written '\'' (escapeApostrophes (Json.encodeCharacter false character)) character := by
  have isWritten := written_encodeCharacter character
  generalize Json.encodeCharacter false character = encoded at isWritten
  cases isWritten with
  | plain isPlain =>
      by_cases isApostrophe : character = '\''
      · subst isApostrophe
        exact .apostrophe rfl
      · rw [escapeApostrophes_of_notMem (by simpa using Ne.symm isApostrophe)]
        refine .plain fun isSign => ?_
        obtain same | isSign := List.mem_cons.mp isSign
        · exact isApostrophe same
        · exact isPlain (List.mem_cons_of_mem _ isSign)
  | @letter _ letter isLetter =>
      have noApostrophe : ∀ pair ∈ Json.letters, '\'' ∉ ['\\', pair.2] := by decide
      rw [escapeApostrophes_of_notMem (noApostrophe _ isLetter)]
      exact .letter isLetter
  | apostrophe isQuote => exact absurd isQuote (by decide)
  | unit isControl =>
      have noApostrophe : '\'' ∉ Json.unitEscape character.toNat := by
        intro isSign
        simp only [Json.unitEscape, List.mem_cons] at isSign
        obtain isBackslash | isLetter | isDigit := isSign
        · exact absurd isBackslash (by decide)
        · exact absurd isLetter (by decide)
        · exact absurd (isHexDigit_of_mem_hexText _ isDigit) (by decide)
      rw [escapeApostrophes_of_notMem noApostrophe]
      exact .unit isControl

/-- What is between apostrophes is escaped one character at a time. -/
theorem languageLiteral_apostrophe (language : String) {literal : List Char}
    (isApostrophe : literal.head? = some '\'') :
    languageLiteral language literal =
      '\'' :: language.toList.flatMap (fun character =>
        escapeApostrophes (Json.encodeCharacter false character)) ++ ['\''] := by
  have isInner : Literal.unquote (Json.literal false language) =
      language.toList.flatMap (Json.encodeCharacter false) := by
    simp [Json.literal, Literal.unquote]
  simp [languageLiteral, isApostrophe, isInner, escapeApostrophes, List.flatMap_assoc]

/-- The literal in the place of one that stands for the language is read as the language, and keeps
its quotes. -/
theorem isReadAs_languageLiteral (language : String) (literal : List Char) :
    IsReadAs (languageLiteral language literal) language ∧
      (languageLiteral language literal).head? =
        some (if literal.head? = some '\'' then '\'' else '"') := by
  by_cases isApostrophe : literal.head? = some '\''
  · rw [languageLiteral_apostrophe language isApostrophe, if_pos isApostrophe]
    exact ⟨isReadAs_of_written (.inr rfl) written_escapeApostrophes language, rfl⟩
  · rw [languageLiteral, if_neg (by simpa using isApostrophe), if_neg isApostrophe]
    exact ⟨isReadAs_of_written (.inl rfl) written_encodeCharacter language, rfl⟩

/-- What is written for a text is read as the text, in a book as well as in the place of a constant,
which keeps its quotes. -/
theorem literals_read_back (text : String) :
    IsReadAs (Book.literal text).toList text ∧
      ∀ literal : List Char, ∃ written,
        constantText? (some text) literal languageConstant = some written ∧
          IsReadAs written text ∧
            written.head? = some (if literal.head? = some '\'' then '\'' else '"') := by
  have isJson : IsReadAs (Json.literal false text) text :=
    isReadAs_of_written (.inl rfl) written_encodeCharacter text
  refine ⟨by rwa [Book.literal, String.toList_ofList], fun literal => ?_⟩
  exact ⟨languageLiteral text literal, rfl, isReadAs_languageLiteral text literal⟩

end Writers

end Phrasebook.Markup
