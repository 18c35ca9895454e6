import Phrasebook.Json.Writer
import Phrasebook.Proofs.JsonDocument
import Mathlib.Data.Nat.Basic

/-!
# JSON that is read back

A document that is written as JSON is read back as it was, whether it is kept
to ASCII or not.  Everything but its numbers with a fraction is covered, and
its objects must not repeat a name.
-/

namespace Phrasebook.Json

/-! ## Characters in literals -/

section Literals

theorem hexValue?_hexDigit {digit : Nat} (small : digit < 16) :
    Text.Reference.hexValue? (Text.Sha256.hexDigit digit) = some digit := by
  have all : ∀ digit < 16,
      Text.Reference.hexValue? (Text.Sha256.hexDigit digit) = some digit := by
    decide
  exact all digit small

/-- The four digits of a unit write the unit. -/
theorem unitAt?_hexText {unit : Nat} (small : unit < 0x10000) (rest : List Char) :
    unitAt? (Text.Sha256.hexText 4 unit ++ rest) = some unit := by
  have digits : Text.Sha256.hexText 4 unit =
      [Text.Sha256.hexDigit (unit / 4096 % 16), Text.Sha256.hexDigit (unit / 256 % 16),
        Text.Sha256.hexDigit (unit / 16 % 16), Text.Sha256.hexDigit (unit / 1 % 16)] := rfl
  have value (number : Nat) :
      Text.Reference.hexValue? (Text.Sha256.hexDigit (number % 16)) = some (number % 16) :=
    hexValue?_hexDigit (Nat.mod_lt _ (by decide))
  rw [digits]
  simp only [List.cons_append, unitAt?, List.foldl_cons, List.foldl_nil, value, Option.some.injEq]
  omega

theorem length_hexText (count number : Nat) :
    (Text.Sha256.hexText count number).length = count := by
  simp [Text.Sha256.hexText]

/-- Characters that belong to an escape are passed over. -/
theorem readCharacters_append (front text : List Char) :
    readCharacters front.length (front ++ text) = readCharacters 0 text := by
  induction front with
  | nil => rfl
  | cons first front ih => rw [List.length_cons, List.cons_append, readCharacters, ih]

/-- An escape is read as the character that it stands for. -/
theorem readCharacters_escape {escape : List Char} {text : List Char} {character : Char}
    (isEscape : escapeAt? (escape ++ text) = some (escape.length, character)) :
    readCharacters 0 ('\\' :: escape ++ text) =
      (readCharacters 0 text).map fun read => (character :: read.1, read.2) := by
  rw [List.cons_append, readCharacters]
  simp [isEscape, readCharacters_append]

theorem escapeAt?_letter {character letter : Char}
    (isLetter : letters.lookup character = some letter) (text : List Char) :
    escapeAt? ([letter] ++ text) = some (1, character) := by
  simp only [letters, List.lookup_cons, List.lookup_nil] at isLetter
  repeat' split at isLetter
  all_goals
    first
    | contradiction
    | obtain rfl := Option.some.inj isLetter
      rename_i same
      rw [beq_iff_eq.mp same]
      rfl

/-- A character of the basic plane is escaped as one unit. -/
theorem escapeAt?_unit {character : Char} (small : character.toNat < 0x10000) (text : List Char) :
    escapeAt? (('u' :: Text.Sha256.hexText 4 character.toNat) ++ text) = some (5, character) := by
  have valid : character.toNat.isValidChar := character.valid
  have apart : (decide (character.toNat < 0xD800) || decide (0xDFFF < character.toNat)) = true := by
    unfold Nat.isValidChar at valid
    rw [Bool.or_eq_true, decide_eq_true_eq, decide_eq_true_eq]
    omega
  rw [List.cons_append, escapeAt?, unitAt?_hexText small]
  dsimp only
  rw [if_pos apart, Char.ofNat_toNat]

/-- A character beyond the basic plane is escaped as a pair of units. -/
theorem escapeAt?_pair {character : Char} (large : 0x10000 ≤ character.toNat) (text : List Char) :
    escapeAt? (('u' :: Text.Sha256.hexText 4 (0xD800 + (character.toNat - 0x10000) / 0x400) ++
        '\\' :: 'u' :: Text.Sha256.hexText 4 (0xDC00 + (character.toNat - 0x10000) % 0x400)) ++
      text) = some (11, character) := by
  have valid : character.toNat.isValidChar := character.valid
  unfold Nat.isValidChar at valid
  generalize isHigh : 0xD800 + (character.toNat - 0x10000) / 0x400 = high
  generalize isLow : 0xDC00 + (character.toNat - 0x10000) % 0x400 = low
  have highUnit : high < 0x10000 := by omega
  have lowUnit : low < 0x10000 := by omega
  have notSingle : ¬(decide (high < 0xD800) || decide (0xDFFF < high)) = true := by
    rw [Bool.or_eq_true, decide_eq_true_eq, decide_eq_true_eq]
    omega
  have isHighHalf : high < 0xDC00 := by omega
  have isLowHalf : (decide (0xDC00 ≤ low) && decide (low ≤ 0xDFFF)) = true := by
    rw [Bool.and_eq_true, decide_eq_true_eq, decide_eq_true_eq]
    omega
  have whole : 0x10000 + (high - 0xD800) * 0x400 + (low - 0xDC00) = character.toNat := by omega
  rw [List.append_assoc, List.cons_append, escapeAt?, unitAt?_hexText highUnit]
  dsimp only
  rw [if_neg notSingle, if_pos isHighHalf, List.drop_left' (length_hexText 4 high),
    List.cons_append, List.cons_append]
  simp only [unitAt?_hexText lowUnit]
  rw [if_pos isLowHalf, whole, Char.ofNat_toNat]

/-- The written form of a character is read as the character. -/
theorem readCharacters_encodeCharacter (isAscii : Bool) (character : Char) (text : List Char) :
    readCharacters 0 (encodeCharacter isAscii character ++ text) =
      (readCharacters 0 text).map fun read => (character :: read.1, read.2) := by
  unfold encodeCharacter
  cases isLetter : letters.lookup character with
  | some letter => exact readCharacters_escape (escapeAt?_letter isLetter text)
  | none =>
      dsimp only
      split
      · rename_i isControl
        exact readCharacters_escape (escapeAt?_unit (by omega) text)
      · rename_i notControl
        split
        · unfold units
          by_cases small : character.toNat < 0x10000
          · simp only [if_pos small, List.flatMap_cons, List.flatMap_nil, List.append_nil]
            exact readCharacters_escape (escapeAt?_unit small text)
          · simp only [if_neg small, List.flatMap_cons, List.flatMap_nil, List.append_nil]
            exact readCharacters_escape (escapeAt?_pair (Nat.le_of_not_lt small) text)
        · -- a character that stands for itself is neither a quotation mark nor a backslash
          have notQuote : character ≠ '"' := by
            rintro rfl
            simp [letters] at isLetter
          have notBackslash : character ≠ '\\' := by
            rintro rfl
            simp [letters] at isLetter
          rw [List.singleton_append, readCharacters]
          simp [notQuote, notBackslash, notControl]

/-- The characters of a text are read back up to the closing quotation mark. -/
theorem readCharacters_encoded (isAscii : Bool) (characters rest : List Char) :
    readCharacters 0 (characters.flatMap (encodeCharacter isAscii) ++ '"' :: rest) =
      some (characters, rest) := by
  induction characters with
  | nil => simp [readCharacters]
  | cons character characters ih =>
      rw [List.flatMap_cons, List.append_assoc, readCharacters_encodeCharacter, ih]
      rfl

end Literals

/-! ## Numbers -/

/-- What may follow a value in a written document: nothing, a comma or a new line. -/
def CanFollow (rest : List Char) : Prop :=
  ∀ sign, rest.head? = some sign → sign = ',' ∨ sign = '\n'

section Numbers

theorem canFollow_comma (rest : List Char) : CanFollow (',' :: rest) := by
  intro sign isFirst
  exact .inl (Option.some.inj isFirst).symm

theorem canFollow_newLine (depth : Nat) (rest : List Char) :
    CanFollow (newLine depth ++ rest) := by
  intro sign isFirst
  exact .inr (Option.some.inj isFirst).symm

theorem CanFollow.notDigit {rest : List Char} (follows : CanFollow rest) {sign : Char}
    (isFirst : rest.head? = some sign) : sign.isDigit = false := by
  rcases follows sign isFirst with rfl | rfl <;> decide

theorem spanDigits_append {digits rest : List Char}
    (areDigits : ∀ digit ∈ digits, digit.isDigit = true) (follows : CanFollow rest) :
    spanDigits (digits ++ rest) = (digits, rest) := by
  have stops : rest.takeWhile Char.isDigit = [] ∧ rest.dropWhile Char.isDigit = rest := by
    cases rest with
    | nil => exact ⟨rfl, rfl⟩
    | cons sign rest =>
        have notDigit : sign.isDigit = false := follows.notDigit rfl
        simp [notDigit]
  unfold spanDigits
  rw [List.takeWhile_append_of_pos areDigits, List.dropWhile_append_of_pos areDigits, stops.1,
    stops.2, List.append_nil]

theorem numberAt_digits {digits : List Char} (areDigits : ∀ digit ∈ digits, digit.isDigit = true)
    (value : Nat) :
    (Text.Reference.numberAt 10 value digits).1 = Nat.ofDigitChars 10 digits value := by
  induction digits generalizing value with
  | nil => rfl
  | cons digit digits ih =>
      have isDigit : 48 ≤ digit.toNat ∧ digit.toNat ≤ 57 := by
        simpa [Char.isDigit, UInt32.le_iff_toNat_le] using areDigits digit List.mem_cons_self
      have hexValue : Text.Reference.hexValue? digit = some (digit.toNat - 48) :=
        if_pos (by simpa [Char.le_def, UInt32.le_iff_toNat_le] using isDigit)
      rw [Text.Reference.numberAt, hexValue]
      dsimp only
      rw [if_pos (by omega)]
      dsimp only
      rw [ih fun other isLater => areDigits other (List.mem_cons_of_mem _ isLater),
        Nat.ofDigitChars_cons, Nat.mul_comm value 10]
      rfl

/-- Only zero is written with a zero in front. -/
theorem head?_toDigits_of_pos {number : Nat} (positive : 0 < number) :
    (Nat.toDigits 10 number).head? ≠ some '0' := by
  induction number using Nat.strongRecOn with
  | ind number ih =>
      rw [Nat.toDigits_eq_if (by decide)]
      split
      · simp
        omega
      · rename_i notSmall
        have fewer := ih (number / 10) (by omega) (by omega)
        rwa [List.head?_append_of_ne_nil _ Nat.toDigits_ne_nil]

theorem areDigits_toDigits (number : Nat) :
    ∀ digit ∈ Nat.toDigits 10 number, digit.isDigit = true :=
  fun _ digitMem => Nat.isDigit_of_mem_toDigits (by decide) (by decide) digitMem

theorem readUnsigned_toDigits (isNegative : Bool) (number : Nat) {rest : List Char}
    (follows : CanFollow rest) :
    readUnsigned isNegative (Nat.toDigits 10 number ++ rest) =
      some (.integer (if isNegative then -(number : Int) else number), rest) := by
  have present : (Nat.toDigits 10 number).isEmpty = false :=
    List.isEmpty_eq_false_iff.mpr Nat.toDigits_ne_nil
  have noZero : ((Nat.toDigits 10 number).length != 1 &&
      (Nat.toDigits 10 number).head? == some '0') = false := by
    by_cases isZero : number = 0
    · rw [isZero]
      rfl
    · simp [head?_toDigits_of_pos (Nat.pos_of_ne_zero isZero)]
  have noFraction : readFraction rest = ([], rest) := by
    unfold readFraction
    split
    · rename_i rest
      rcases follows '.' rfl with wrong | wrong <;> contradiction
    · rfl
  have noExponent : readExponent rest = (none, rest) := by
    unfold readExponent
    split
    · rfl
    · rename_i sign rest
      rcases follows sign rfl with rfl | rfl <;> rfl
  have value : numberOf (Nat.toDigits 10 number) = number := by
    rw [numberOf, numberAt_digits (areDigits_toDigits number), Nat.ofDigitChars_ten_toDigits]
  unfold readUnsigned
  simp [spanDigits_append (areDigits_toDigits number) follows, present, noZero, noFraction,
    noExponent, value]

end Numbers

/-! ## Values -/

section Values

theorem find?_words_eq_none (first : Char) (rest : List Char)
    (isOther : first ∉ ['n', 't', 'f', 'N', 'I', '-']) :
    (words.find? fun word => word.1.toList.isPrefixOf (first :: rest)) = none := by
  simp only [List.mem_cons, List.not_mem_nil, not_or, or_false] at isOther
  obtain ⟨notN, notT, notF, notNan, notInfinity, notMinus⟩ := isOther
  simp [words, Ne.symm notN, Ne.symm notT, Ne.symm notF, Ne.symm notNan, Ne.symm notInfinity,
    Ne.symm notMinus]

theorem isOther_of_isDigit {digit : Char} (isDigit : digit.isDigit = true) :
    digit ∉ ['n', 't', 'f', 'N', 'I', '-', '"', '[', '\x7b', ']', ' ', '\t', '\n', '\r'] := by
  intro digitMem
  have none : (['n', 't', 'f', 'N', 'I', '-', '"', '[', '\x7b', ']', ' ', '\t', '\n', '\r'].all
      fun sign => !sign.isDigit) = true := by
    decide
  have notDigit := List.all_eq_true.mp none digit digitMem
  rw [isDigit] at notDigit
  contradiction

/-- A text is read after its quotation mark. -/
theorem readPlain_literal (isAscii : Bool) (characters : String) (rest : List Char) :
    readPlain (literal isAscii characters ++ rest) = some (.text characters, rest) := by
  have noWord := find?_words_eq_none '"'
    (characters.toList.flatMap (encodeCharacter isAscii) ++ '"' :: rest) (by decide)
  simp only [literal, List.cons_append, List.append_assoc, List.nil_append]
  unfold readPlain
  rw [noWord]
  simp only [readCharacters_encoded, Option.map_some, String.ofList_toList]

theorem readPlain_toDigits (number : Nat) {rest : List Char} (follows : CanFollow rest) :
    readPlain (Nat.toDigits 10 number ++ rest) = some (.integer number, rest) := by
  have isRead := readUnsigned_toDigits false number follows
  obtain ⟨digit, digits, isCons⟩ :=
    List.exists_cons_of_ne_nil (Nat.toDigits_ne_nil (n := number) (b := 10))
  have isOther := isOther_of_isDigit (areDigits_toDigits number digit (by simp [isCons]))
  simp only [List.mem_cons, not_or] at isOther
  rw [isCons, List.cons_append] at isRead ⊢
  unfold readPlain
  rw [find?_words_eq_none _ _ (by simp [isOther])]
  dsimp only
  split
  · rename_i same
    simp [isOther] at same
  · rename_i same
    simp [isOther] at same
  · exact isRead

theorem readPlain_minus (number : Nat) {rest : List Char} (follows : CanFollow rest) :
    readPlain ('-' :: Nat.toDigits 10 number ++ rest) = some (.integer (-number), rest) := by
  have isRead := readUnsigned_toDigits true number follows
  obtain ⟨digit, digits, isCons⟩ :=
    List.exists_cons_of_ne_nil (Nat.toDigits_ne_nil (n := number) (b := 10))
  have isOther := isOther_of_isDigit (areDigits_toDigits number digit (by simp [isCons]))
  simp only [List.mem_cons, not_or] at isOther
  have noWord : (words.find? fun word =>
      word.1.toList.isPrefixOf ('-' :: digit :: (digits ++ rest))) = none := by
    simp [words, Ne.symm isOther.2.2.2.2.1]
  rw [isCons] at isRead ⊢
  simp only [List.cons_append] at isRead ⊢
  unfold readPlain
  rw [noWord]
  exact isRead

theorem toList_toString_ofNat (number : Nat) :
    (toString (Int.ofNat number)).toList = Nat.toDigits 10 number :=
  Nat.toList_repr

theorem toList_toString_negSucc (number : Nat) :
    (toString (Int.negSucc number)).toList = '-' :: Nat.toDigits 10 (number + 1) := by
  change ("-" ++ Nat.repr (number + 1)).toList = _
  rw [String.toList_append, Nat.toList_repr]
  rfl

/-- Words, whole numbers and texts are read back. -/
theorem readPlain_writeAt {value : Value} (isLeaf : isScalar value = true) (isAscii : Bool)
    (depth : Nat) {rest : List Char} (follows : CanFollow rest) :
    readPlain (writeAt isAscii depth value ++ rest) = some (value, rest) := by
  cases value with
  | null =>
      simp [writeAt, readPlain, words]
      rfl
  | truth holds => cases holds <;> (simp [writeAt, readPlain, words]; rfl)
  | integer number =>
      rw [writeAt]
      cases number with
      | ofNat number =>
          rw [toList_toString_ofNat]
          exact readPlain_toDigits number follows
      | negSucc number =>
          rw [toList_toString_negSucc]
          exact readPlain_minus (number + 1) follows
  | text characters => exact readPlain_literal isAscii characters rest
  | decimal | bytes | list | mapping | other => cases isLeaf

end Values

/-! ## Lists and objects -/

section Layout

/-- What stands after the first piece of a list or object that is laid out. -/
def continued (closing : Char) (level : Nat) : List (List Char) → List Char
  | [] => newLine level ++ [closing]
  | piece :: pieces => ',' :: newLine (level + 1) ++ piece ++ continued closing level pieces

theorem layOut_cons (opening closing : Char) (level : Nat) (piece : List Char)
    (pieces : List (List Char)) :
    layOut opening closing level (piece :: pieces) =
      opening :: (newLine (level + 1) ++ (piece ++ continued closing level pieces)) := by
  have joined : (",".toList ++ newLine (level + 1)).intercalate (piece :: pieces) ++
      (newLine level ++ [closing]) = piece ++ continued closing level pieces := by
    induction pieces generalizing piece with
    | nil => simp [continued]
    | cons second pieces ih =>
        rw [List.intercalate_cons_cons, List.append_assoc, ih, continued]
        simp
  simp only [layOut, List.append_assoc, joined]

theorem skipBlanks_cons {first : Char} (notBlank : isBlank first = false) (rest : List Char) :
    skipBlanks (first :: rest) = first :: rest := by
  simp [skipBlanks, notBlank]

theorem skipBlanks_newLine (level : Nat) (rest : List Char) :
    skipBlanks (newLine level ++ rest) = skipBlanks rest := by
  unfold skipBlanks newLine
  rw [List.cons_append, List.dropWhile_cons_of_pos (by decide), List.dropWhile_append_of_pos]
  intro blank blankMem
  rw [(List.mem_replicate.mp blankMem).2]
  decide

theorem canFollow_continued (closing : Char) (level : Nat) (pieces : List (List Char))
    (rest : List Char) : CanFollow (continued closing level pieces ++ rest) := by
  cases pieces with
  | nil =>
      rw [continued, List.append_assoc]
      exact canFollow_newLine level _
  | cons piece pieces => exact canFollow_comma _

/-- A word, number or text starts with a sign that is neither blank nor a bracket. -/
theorem exists_cons_writeAt_scalar {value : Value} (isLeaf : isScalar value = true)
    (isAscii : Bool) (level : Nat) :
    ∃ first rest, writeAt isAscii level value = first :: rest ∧ isBlank first = false ∧
      first ∉ ['[', ']', '\x7b'] := by
  cases value with
  | null => exact ⟨'n', _, rfl, by decide, by decide⟩
  | truth holds =>
      cases holds with
      | false => exact ⟨'f', _, rfl, by decide, by decide⟩
      | true => exact ⟨'t', _, rfl, by decide, by decide⟩
  | integer number =>
      cases number with
      | ofNat number =>
          obtain ⟨digit, digits, isCons⟩ :=
            List.exists_cons_of_ne_nil (Nat.toDigits_ne_nil (n := number) (b := 10))
          have isOther := isOther_of_isDigit (areDigits_toDigits number digit (by simp [isCons]))
          simp only [List.mem_cons, not_or] at isOther
          have notBlank : isBlank digit = false := by simp [isBlank, isOther]
          exact ⟨digit, digits, (toList_toString_ofNat number).trans isCons, notBlank,
            by simp [isOther]⟩
      | negSucc number => exact ⟨'-', _, toList_toString_negSucc number, by decide, by decide⟩
  | text characters => exact ⟨'"', _, rfl, by decide, by decide⟩
  | decimal | bytes | list | mapping | other => cases isLeaf

theorem exists_cons_layOut (opening closing : Char) (level : Nat) (pieces : List (List Char)) :
    ∃ rest, layOut opening closing level pieces = opening :: rest := by
  cases pieces <;> exact ⟨_, rfl⟩

/-- A written value starts with a sign that is neither blank nor a closing bracket. -/
theorem exists_cons_writeAt {depth : Nat} {value : Value}
    (document : IsDocument isScalar depth value) (isAscii : Bool) (level : Nat) :
    ∃ first rest, writeAt isAscii level value = first :: rest ∧ isBlank first = false ∧
      first ≠ ']' := by
  cases document with
  | leaf isLeaf =>
      obtain ⟨first, rest, isCons, notBlank, notBracket⟩ :=
        exists_cons_writeAt_scalar isLeaf isAscii level
      exact ⟨first, rest, isCons, notBlank, by rintro rfl; simp at notBracket⟩
  | noItems => exact ⟨'[', [']'], by rw [writeAt, writeItems, layOut], by decide, by decide⟩
  | noFields =>
      exact ⟨'\x7b', ['\x7d'], by rw [writeAt, writeFields, layOut], by decide, by decide⟩
  | list each =>
      obtain ⟨rest, isCons⟩ := exists_cons_layOut '[' ']' level (writeItems isAscii (level + 1) _)
      exact ⟨'[', rest, by rw [writeAt, isCons], by decide, by decide⟩
  | mapping distinct each =>
      obtain ⟨rest, isCons⟩ :=
        exists_cons_layOut '\x7b' '\x7d' level (writeFields isAscii (level + 1) _)
      exact ⟨'\x7b', rest, by rw [writeAt, isCons], by decide, by decide⟩

theorem skipBlanks_writeAt {depth : Nat} {value : Value}
    (document : IsDocument isScalar depth value) (isAscii : Bool) (level : Nat) (rest : List Char) :
    skipBlanks (writeAt isAscii level value ++ rest) = writeAt isAscii level value ++ rest := by
  obtain ⟨first, others, isCons, notBlank, _⟩ := exists_cons_writeAt document isAscii level
  rw [isCons, List.cons_append, skipBlanks_cons notBlank]

end Layout

/-! ## Reading back -/

/-- A value is read back from its written form, whatever follows it. -/
def ReadsBack (isAscii : Bool) (level depth : Nat) (value : Value) : Prop :=
  ∀ fuel rest, CanFollow rest → 2 * (writeAt isAscii level value).length ≤ fuel + 1 →
    readValue fuel depth (writeAt isAscii level value ++ rest) = some (value, rest)

section ReadingBack

variable {isAscii : Bool} {level depth fuel : Nat}

/-- The items of a list are read back up to the closing bracket. -/
theorem readItems_continued {item : Value} {items : List Value}
    (documents : ∀ other ∈ item :: items, IsDocument isScalar depth other)
    (each : ∀ other ∈ item :: items, ReadsBack isAscii (level + 1) depth other)
    (enough : 2 * (writeAt isAscii (level + 1) item ++
      continued ']' level (writeItems isAscii (level + 1) items)).length ≤ fuel)
    (rest : List Char) :
    readItems fuel depth (writeAt isAscii (level + 1) item ++
        continued ']' level (writeItems isAscii (level + 1) items) ++ rest) =
      some (item :: items, rest) := by
  induction items generalizing item fuel with
  | nil =>
      rw [List.length_append] at enough
      cases fuel with
      | zero => simp [writeItems, continued] at enough
      | succ fuel =>
          have isRead := each item List.mem_cons_self fuel
            (continued ']' level [] ++ rest) (canFollow_continued ']' level [] rest) (by omega)
          rw [writeItems, readItems, List.append_assoc, isRead]
          dsimp only
          rw [continued, List.append_assoc, skipBlanks_newLine, List.singleton_append,
            skipBlanks_cons (by decide)]
          rfl
  | cons second items ih =>
      rw [writeItems, continued] at enough ⊢
      simp only [List.length_append, List.length_cons] at enough
      cases fuel with
      | zero => omega
      | succ fuel =>
          have isRead := each item List.mem_cons_self fuel
            (',' :: newLine (level + 1) ++ writeAt isAscii (level + 1) second ++
              continued ']' level (writeItems isAscii (level + 1) items) ++ rest)
            (canFollow_comma _) (by omega)
          have enoughLater : 2 * (writeAt isAscii (level + 1) second ++
              continued ']' level (writeItems isAscii (level + 1) items)).length ≤ fuel := by
            rw [List.length_append]
            omega
          have others := ih (fun other isLater => documents other (List.mem_cons_of_mem _ isLater))
            (fun other isLater => each other (List.mem_cons_of_mem _ isLater)) enoughLater
          have isDocument := documents second (List.mem_cons_of_mem _ List.mem_cons_self)
          rw [readItems, List.append_assoc, isRead]
          dsimp only
          simp only [List.cons_append, List.append_assoc]
          rw [skipBlanks_cons (by decide)]
          change (readItems fuel depth (skipBlanks _)).map _ = _
          rw [skipBlanks_newLine, skipBlanks_writeAt isDocument, ← List.append_assoc, others]
          rfl

theorem setField_eq_append {isSame : Value → Bool} {key value : Value}
    {fields : List (Value × Value)} (fresh : ∀ field ∈ fields, isSame field.1 = false) :
    Value.setField isSame key value fields = fields ++ [(key, value)] := by
  induction fields with
  | nil => rfl
  | cons field fields ih =>
      rw [Value.setField, fresh field List.mem_cons_self,
        ih fun other isLater => fresh other (List.mem_cons_of_mem _ isLater)]
      rfl

/-- A field with a new name stands behind the others. -/
theorem setField_named {earlier fields : List (String × Value)} {field : String × Value}
    (distinct : ((earlier ++ field :: fields).map (·.1)).Nodup) :
    Value.setField (Value.isText field.1) (.text field.1) field.2 (earlier.map named) =
      (earlier ++ [field]).map named := by
  rw [List.map_append]
  apply setField_eq_append
  intro other otherMem
  obtain ⟨known, knownMem, rfl⟩ := List.mem_map.mp otherMem
  rw [List.map_append, List.nodup_append] at distinct
  have apart : known.1 ≠ field.1 :=
    distinct.2.2 _ (List.mem_map_of_mem knownMem) _ (List.mem_map_of_mem List.mem_cons_self)
  simpa [named, Value.isText] using apart

/-- A field of an object is read back together with its name, and what follows tells whether there
are others. -/
theorem readFields_field {field : String × Value} (document : IsDocument isScalar depth field.2)
    (isRead : ReadsBack isAscii level depth field.2) {earlier fields : List (Value × Value)}
    (areFields : Value.setField (Value.isText field.1) (.text field.1) field.2 earlier = fields)
    {rest : List Char} (follows : CanFollow rest)
    (enough : 2 * (writeAt isAscii level field.2).length ≤ fuel + 1) :
    (∀ more, skipBlanks rest = '\x7d' :: more →
      readFields (fuel + 1) depth earlier
          (literal isAscii field.1 ++ ": ".toList ++ writeAt isAscii level field.2 ++ rest) =
        some (.mapping fields, more)) ∧
    ∀ more, skipBlanks rest = ',' :: more →
      readFields (fuel + 1) depth earlier
          (literal isAscii field.1 ++ ": ".toList ++ writeAt isAscii level field.2 ++ rest) =
        readFields fuel depth fields (skipBlanks more) := by
  have afterName := readCharacters_encoded isAscii field.1.toList
    (": ".toList ++ writeAt isAscii level field.2 ++ rest)
  have afterColon : skipBlanks (": ".toList ++ writeAt isAscii level field.2 ++ rest) =
      ':' :: ' ' :: (writeAt isAscii level field.2 ++ rest) := by
    rw [List.append_assoc]
    exact skipBlanks_cons (by decide) _
  have afterBlank : skipBlanks (' ' :: (writeAt isAscii level field.2 ++ rest)) =
      writeAt isAscii level field.2 ++ rest :=
    skipBlanks_writeAt document isAscii level rest
  simp only [literal, List.cons_append, List.append_assoc, List.nil_append] at afterName ⊢
  simp only [List.append_assoc] at afterColon
  constructor
  all_goals
    intro more goesOn
    rw [readFields, afterName]
    dsimp only
    rw [afterColon]
    simp only [afterBlank, isRead fuel rest follows enough, String.ofList_toList, goesOn, areFields]

/-- The fields of an object are read back up to the closing brace, behind those already read. -/
theorem readFields_continued {earlier : List (String × Value)} {field : String × Value}
    {fields : List (String × Value)}
    (distinct : ((earlier ++ field :: fields).map (·.1)).Nodup)
    (documents : ∀ other ∈ field :: fields, IsDocument isScalar depth other.2)
    (each : ∀ other ∈ field :: fields, ReadsBack isAscii (level + 1) depth other.2)
    (enough : 2 * (literal isAscii field.1 ++ ": ".toList ++
      writeAt isAscii (level + 1) field.2 ++
        continued '\x7d' level (writeFields isAscii (level + 1) (fields.map named))).length ≤ fuel)
    (rest : List Char) :
    readFields fuel depth (earlier.map named)
        (literal isAscii field.1 ++ ": ".toList ++
          writeAt isAscii (level + 1) field.2 ++
            continued '\x7d' level (writeFields isAscii (level + 1) (fields.map named)) ++ rest) =
      some (.mapping ((earlier ++ field :: fields).map named), rest) := by
  induction fields generalizing earlier field fuel with
  | nil =>
      cases fuel with
      | zero => simp [literal] at enough
      | succ fuel =>
          simp only [List.length_append] at enough
          have fits : 2 * (writeAt isAscii (level + 1) field.2).length ≤ fuel + 1 := by omega
          have isEnd : skipBlanks (continued '\x7d' level [] ++ rest) = '\x7d' :: rest := by
            rw [continued, List.append_assoc, skipBlanks_newLine, List.singleton_append,
              skipBlanks_cons (by decide)]
          rw [List.map_nil, writeFields, List.append_assoc]
          exact (readFields_field (documents field List.mem_cons_self)
            (each field List.mem_cons_self) (setField_named distinct)
            (canFollow_continued '\x7d' level [] rest) fits).1 rest isEnd
  | cons second fields ih =>
      cases fuel with
      | zero => simp [literal] at enough
      | succ fuel =>
          let piece := literal isAscii second.1 ++ ": ".toList ++
            writeAt isAscii (level + 1) second.2
          let others := continued '\x7d' level
            (writeFields isAscii (level + 1) (fields.map named))
          have isContinued : continued '\x7d' level
              (writeFields isAscii (level + 1) ((second :: fields).map named)) =
                ',' :: (newLine (level + 1) ++ (piece ++ others)) := by
            rw [List.map_cons, writeFields, continued, List.cons_append, List.cons_append,
              List.append_assoc]
            rfl
          rw [isContinued] at enough ⊢
          simp only [List.length_append, List.length_cons] at enough
          have fits : 2 * (writeAt isAscii (level + 1) field.2).length ≤ fuel + 1 := by omega
          have enoughLater : 2 * (piece ++ others).length ≤ fuel := by
            rw [List.length_append]
            omega
          have distinctLater : ((earlier ++ [field] ++ second :: fields).map (·.1)).Nodup := by
            rwa [List.append_assoc]
          have areRead := ih distinctLater
            (fun other isLater => documents other (List.mem_cons_of_mem _ isLater))
            (fun other isLater => each other (List.mem_cons_of_mem _ isLater)) enoughLater
          have notBlank : skipBlanks (newLine (level + 1) ++ (piece ++ others) ++ rest) =
              piece ++ others ++ rest := by
            rw [List.append_assoc, skipBlanks_newLine]
            exact skipBlanks_cons (by decide) _
          rw [List.append_assoc _ _ rest, List.cons_append,
            (readFields_field (documents field List.mem_cons_self)
              (each field List.mem_cons_self) (setField_named distinct) (canFollow_comma _)
              fits).2 _ (skipBlanks_cons (by decide) _),
            notBlank, areRead, List.append_assoc, List.singleton_append]

theorem readsBack_leaf {value : Value} (isLeaf : isScalar value = true) :
    ReadsBack isAscii level depth value := by
  intro fuel rest follows enough
  obtain ⟨first, others, isCons, -, notBracket⟩ := exists_cons_writeAt_scalar isLeaf isAscii level
  have isRead := readPlain_writeAt isLeaf isAscii level follows
  rw [isCons, List.cons_append] at isRead ⊢
  rw [isCons, List.length_cons] at enough
  simp only [List.mem_cons, List.not_mem_nil, or_false, not_or] at notBracket
  cases fuel with
  | zero => omega
  | succ fuel =>
      unfold readValue
      split
      · rename_i same
        simp [notBracket] at same
      · rename_i same
        simp [notBracket] at same
      · exact isRead

theorem exists_succ_of_fits {value : Value} (document : IsDocument isScalar depth value)
    (enough : 2 * (writeAt isAscii level value).length ≤ fuel + 1) :
    ∃ less, fuel = less + 1 := by
  obtain ⟨first, others, isCons, -⟩ := exists_cons_writeAt document isAscii level
  rw [isCons, List.length_cons] at enough
  exact Nat.exists_eq_add_one.mpr (by omega)

theorem readsBack_noItems : ReadsBack isAscii level depth (.list []) := by
  intro fuel rest _ enough
  obtain ⟨fuel, rfl⟩ := exists_succ_of_fits (.noItems : IsDocument isScalar 0 _) enough
  rfl

theorem readsBack_noFields : ReadsBack isAscii level depth (.mapping []) := by
  intro fuel rest _ enough
  obtain ⟨fuel, rfl⟩ := exists_succ_of_fits (.noFields : IsDocument isScalar 0 _) enough
  rfl

theorem readsBack_list {items : List Value}
    (documents : ∀ item ∈ items, IsDocument isScalar depth item)
    (each : ∀ item ∈ items, ReadsBack isAscii (level + 1) depth item) :
    ReadsBack isAscii level (depth + 1) (.list items) := by
  cases items with
  | nil => exact readsBack_noItems
  | cons item items =>
      intro fuel rest follows enough
      rw [writeAt, writeItems, layOut_cons] at enough ⊢
      simp only [List.length_append, List.length_cons] at enough
      cases fuel with
      | zero => omega
      | succ fuel =>
          obtain ⟨first, others, isCons, notBlank, notClosing⟩ :=
            exists_cons_writeAt (documents item List.mem_cons_self) isAscii (level + 1)
          have fits : 2 * (writeAt isAscii (level + 1) item ++
              continued ']' level (writeItems isAscii (level + 1) items)).length ≤ fuel := by
            rw [List.length_append]
            omega
          have areRead := readItems_continued documents each fits rest
          rw [List.cons_append, List.append_assoc, readValue, skipBlanks_newLine]
          rw [isCons, List.cons_append, List.cons_append] at areRead ⊢
          rw [skipBlanks_cons notBlank]
          rw [List.append_assoc] at areRead
          simp [notClosing, areRead]

theorem readsBack_mapping {fields : List (String × Value)}
    (distinct : (fields.map (·.1)).Nodup)
    (documents : ∀ field ∈ fields, IsDocument isScalar depth field.2)
    (each : ∀ field ∈ fields, ReadsBack isAscii (level + 1) depth field.2) :
    ReadsBack isAscii level (depth + 1) (.mapping (fields.map named)) := by
  cases fields with
  | nil => exact readsBack_noFields
  | cons field fields =>
      intro fuel rest follows enough
      rw [writeAt, List.map_cons, writeFields, layOut_cons] at enough ⊢
      simp only [List.length_append, List.length_cons] at enough
      cases fuel with
      | zero => omega
      | succ fuel =>
          have fits : 2 * (literal isAscii field.1 ++ ": ".toList ++
              writeAt isAscii (level + 1) field.2 ++ continued '\x7d' level
                (writeFields isAscii (level + 1) (fields.map named))).length ≤ fuel := by
            simp only [named, writeAt, List.length_append] at enough ⊢
            omega
          have allDistinct : ((([] : List (String × Value)) ++ field :: fields).map (·.1)).Nodup :=
            distinct
          have areRead := readFields_continued allDistinct documents each fits rest
          rw [List.cons_append, List.append_assoc, readValue, skipBlanks_newLine]
          exact areRead

/-- Every document is read back from its written form. -/
theorem readsBack_of_isDocument {value : Value} (document : IsDocument isScalar depth value) :
    ∀ level, ReadsBack isAscii level depth value := by
  induction document with
  | leaf isLeaf => exact fun level => readsBack_leaf isLeaf
  | noItems => exact fun level => readsBack_noItems
  | noFields => exact fun level => readsBack_noFields
  | list documents each =>
      exact fun level => readsBack_list documents fun item itemMem => each item itemMem (level + 1)
  | mapping distinct documents each =>
      exact fun level =>
        readsBack_mapping distinct documents fun field fieldMem => each field fieldMem (level + 1)

end ReadingBack

/-- A document is read back from its text as it was, also if blanks follow it. -/
theorem read?_write_append {isAscii : Bool} {depth : Nat} {value : Value} {ending : String}
    (document : IsDocument isScalar depth value) (follows : CanFollow ending.toList)
    (areBlank : skipBlanks ending.toList = []) :
    read? depth (write isAscii value ++ ending) = some value := by
  have enough : 2 * (writeAt isAscii 0 value).length ≤
      2 * (writeAt isAscii 0 value ++ ending.toList).length + 2 + 1 := by
    rw [List.length_append]
    omega
  have isRead := readsBack_of_isDocument document 0 _ ending.toList follows enough
  unfold read?
  rw [String.toList_append, write, String.toList_ofList,
    skipBlanks_writeAt document isAscii 0 ending.toList]
  dsimp only
  rw [isRead]
  dsimp only
  rw [areBlank]
  rfl

/-- A document is read back from its text with a new line behind it. -/
theorem read?_write {isAscii : Bool} {depth : Nat} {value : Value}
    (document : IsDocument isScalar depth value) :
    read? depth (write isAscii value ++ "\n") = some value :=
  read?_write_append document (canFollow_newLine 0 []) rfl

/-! ## Carriage returns -/

section NoReturn

theorem noReturn_hexText (count number : Nat) : '\r' ∉ Text.Sha256.hexText count number := by
  have noReturn : ∀ digit < 16, Text.Sha256.hexDigit digit ≠ '\r' := by decide
  intro returnMem
  obtain ⟨index, -, isReturn⟩ := List.mem_map.mp returnMem
  exact noReturn _ (Nat.mod_lt _ (by decide)) isReturn

theorem noReturn_encodeCharacter (isAscii : Bool) (character : Char) :
    '\r' ∉ encodeCharacter isAscii character := by
  have noEscape (unit : Nat) : '\r' ∉ unitEscape unit := by
    simp [unitEscape, noReturn_hexText]
  unfold encodeCharacter
  cases isLetter : letters.lookup character with
  | some letter =>
      have noLetter : ∀ pair ∈ letters, pair.2 ≠ '\r' := by decide
      obtain ⟨front, back, whole, -⟩ := List.lookup_eq_some_iff.mp isLetter
      have isOther := noLetter (character, letter) (by simp [whole])
      simp [Ne.symm isOther]
  | none =>
      dsimp only
      split
      · exact noEscape _
      · split
        · intro returnMem
          obtain ⟨unit, -, inUnit⟩ := List.mem_flatMap.mp returnMem
          exact noEscape unit inUnit
        · intro returnMem
          rw [← List.mem_singleton.mp returnMem] at isLetter
          contradiction

theorem noReturn_literal (isAscii : Bool) (text : String) : '\r' ∉ literal isAscii text := by
  simp [literal, noReturn_encodeCharacter]

theorem noReturn_newLine (level : Nat) : '\r' ∉ newLine level := by
  simp [newLine]

theorem noReturn_toDigits (number : Nat) : '\r' ∉ Nat.toDigits 10 number := by
  intro returnMem
  have isDigit := areDigits_toDigits number '\r' returnMem
  contradiction

theorem noReturn_layOut {opening closing : Char} {level : Nat} {pieces : List (List Char)}
    (notOpening : opening ≠ '\r') (notClosing : closing ≠ '\r')
    (noReturn : ∀ piece ∈ pieces, '\r' ∉ piece) :
    '\r' ∉ layOut opening closing level pieces := by
  have noContinued : ∀ later : List (List Char), (∀ piece ∈ later, '\r' ∉ piece) →
      '\r' ∉ continued closing level later := by
    intro later noReturn
    induction later with
    | nil => simp [continued, noReturn_newLine, Ne.symm notClosing]
    | cons piece later ih =>
        obtain ⟨first, others⟩ := List.forall_mem_cons.mp noReturn
        simp [continued, noReturn_newLine, first, ih others]
  cases pieces with
  | nil => simp [layOut, Ne.symm notOpening, Ne.symm notClosing]
  | cons piece pieces =>
      obtain ⟨first, others⟩ := List.forall_mem_cons.mp noReturn
      rw [layOut_cons]
      simp [Ne.symm notOpening, noReturn_newLine, first, noContinued pieces others]

theorem noReturn_writeAt_scalar {value : Value} (isLeaf : isScalar value = true) (isAscii : Bool)
    (level : Nat) : '\r' ∉ writeAt isAscii level value := by
  cases value with
  | null => simp [writeAt]
  | truth holds => cases holds <;> simp [writeAt]
  | integer number =>
      rw [writeAt]
      cases number with
      | ofNat number =>
          rw [toList_toString_ofNat]
          exact noReturn_toDigits number
      | negSucc number =>
          rw [toList_toString_negSucc]
          simp [noReturn_toDigits]
  | text characters => exact noReturn_literal isAscii characters
  | decimal | bytes | list | mapping | other => cases isLeaf

/-- A written document holds no carriage return. -/
theorem noReturn_writeAt {isAscii : Bool} {depth : Nat} {value : Value}
    (document : IsDocument isScalar depth value) :
    ∀ level, '\r' ∉ writeAt isAscii level value := by
  induction document with
  | leaf isLeaf => exact noReturn_writeAt_scalar isLeaf isAscii
  | noItems => simp [writeAt, writeItems, layOut]
  | noFields => simp [writeAt, writeFields, layOut]
  | @list depth items documents each =>
      intro level
      have noItem : ∀ piece ∈ writeItems isAscii (level + 1) items, '\r' ∉ piece := by
        clear documents
        induction items with
        | nil => simp [writeItems]
        | cons item items ih =>
            obtain ⟨first, others⟩ := List.forall_mem_cons.mp each
            rw [writeItems]
            exact List.forall_mem_cons.mpr ⟨first _, ih others⟩
      rw [writeAt]
      exact noReturn_layOut (by decide) (by decide) noItem
  | @mapping depth fields distinct documents each =>
      intro level
      have noField : ∀ piece ∈ writeFields isAscii (level + 1) (fields.map named),
          '\r' ∉ piece := by
        clear documents distinct
        induction fields with
        | nil => simp [writeFields]
        | cons field fields ih =>
            obtain ⟨first, others⟩ := List.forall_mem_cons.mp each
            rw [List.map_cons, writeFields]
            refine List.forall_mem_cons.mpr ⟨?_, ih others⟩
            simp [named, writeAt, noReturn_literal, first]
      rw [writeAt]
      exact noReturn_layOut (by decide) (by decide) noField

end NoReturn

end Phrasebook.Json
