import Phrasebook.Proofs.Walk
import Phrasebook.Text.Source
import Mathlib.Tactic.SplitIfs

/-!
# Texts and their bytes

Decoding a file loses nothing: the bytes of its source are those of the file.
And what is encoded is decoded as it was, so a text that is written to a file
is the text that is read from it.
-/

namespace Phrasebook.Text

@[simp] theorem encoded_append (left right : List Char) :
    encoded (left ++ right) = encoded left ++ encoded right :=
  List.flatMap_append

theorem length_encoded (text : List Char) : (encoded text).length = Markup.byteCount text := by
  induction text with
  | nil => rfl
  | cons character text ih =>
      rw [Markup.byteCount_cons, ← ih, encoded, List.flatMap_cons, List.length_append,
        String.length_utf8EncodeChar]
      rfl

/-- The bytes of a piece in the middle of a text. -/
theorem extract_encoded (front middle back : List Char) :
    (encoded (front ++ middle ++ back)).extract (Markup.byteCount front)
      (Markup.byteCount front + Markup.byteCount middle) = encoded middle := by
  simp [List.extract, ← length_encoded]

namespace Source

/-! ## Sequences of bytes -/

section Sequences

variable {first second third fourth : UInt8} {bytes : List UInt8} {code length : Nat}

theorem val_ofNat (isValid : code.isValidChar) : (Char.ofNat code).val.toNat = code := by
  rw [Char.ofNat, dif_pos isValid]
  rfl

theorem ofNat_eq_of_toNat {byte : UInt8} (same : code = byte.toNat) : UInt8.ofNat code = byte := by
  rw [same, UInt8.ofNat_toNat]

/-- The bytes between two numbers, the numbers included. -/
def IsIn (low high : Nat) (byte : UInt8) : Prop :=
  low ≤ byte.toNat ∧ byte.toNat ≤ high

/-- The second byte of a sequence continues it, and after some first bytes it is bounded further. -/
theorem secondRange_facts
    (isSecond : IsIn (secondRange first.toNat).1 (secondRange first.toNat).2 second) :
    (0x80 ≤ second.toNat ∧ second.toNat ≤ 0xBF) ∧
      (first.toNat = 0xE0 → 0xA0 ≤ second.toNat) ∧ (first.toNat = 0xED → second.toNat ≤ 0x9F) ∧
      (first.toNat = 0xF0 → 0x90 ≤ second.toNat) ∧ (first.toNat = 0xF4 → second.toNat ≤ 0x8F) := by
  unfold IsIn secondRange at isSecond
  simp only [beq_iff_eq] at isSecond
  split_ifs at isSecond <;> simp only at isSecond <;> omega

theorem encode_one (isFirst : IsIn 0 0x7F first) :
    String.utf8EncodeChar (Char.ofNat first.toNat) = [first] := by
  unfold IsIn at isFirst
  have isValid : first.toNat.isValidChar := by
    unfold Nat.isValidChar
    omega
  unfold String.utf8EncodeChar
  rw [val_ofNat isValid]
  dsimp only
  rw [if_pos isFirst.2, ofNat_eq_of_toNat rfl]

theorem encode_two (isFirst : IsIn 0xC2 0xDF first) (isSecond : IsIn 0x80 0xBF second) :
    String.utf8EncodeChar
        (Char.ofNat ((first.toNat - 0xC0) * 0x40 + (second.toNat - 0x80))) =
      [first, second] := by
  unfold IsIn at isFirst isSecond
  have isValid : ((first.toNat - 0xC0) * 0x40 + (second.toNat - 0x80)).isValidChar := by
    unfold Nat.isValidChar
    omega
  unfold String.utf8EncodeChar
  rw [val_ofNat isValid]
  dsimp only
  rw [if_neg (by omega), if_pos (by omega), @ofNat_eq_of_toNat _ first (by omega),
    @ofNat_eq_of_toNat _ second (by omega)]

/-- The second byte keeps a sequence of three bytes from being longer than it has to be, and from
being half a surrogate pair. -/
theorem encode_three (isFirst : IsIn 0xE0 0xEF first)
    (isSecond : IsIn (secondRange first.toNat).1 (secondRange first.toNat).2 second)
    (isThird : IsIn 0x80 0xBF third) :
    String.utf8EncodeChar
        (Char.ofNat ((first.toNat - 0xE0) * 0x1000 + (second.toNat - 0x80) * 0x40 +
          (third.toNat - 0x80))) =
      [first, second, third] := by
  have bounds := secondRange_facts isSecond
  unfold IsIn at isFirst isThird
  have isValid : ((first.toNat - 0xE0) * 0x1000 + (second.toNat - 0x80) * 0x40 +
      (third.toNat - 0x80)).isValidChar := by
    unfold Nat.isValidChar
    omega
  unfold String.utf8EncodeChar
  rw [val_ofNat isValid]
  dsimp only
  rw [if_neg (by omega), if_neg (by omega), if_pos (by omega),
    @ofNat_eq_of_toNat _ first (by omega), @ofNat_eq_of_toNat _ second (by omega),
    @ofNat_eq_of_toNat _ third (by omega)]

/-- The second byte keeps a sequence of four bytes from being longer than it has to be, and from
going beyond the last character. -/
theorem encode_four (isFirst : IsIn 0xF0 0xF4 first)
    (isSecond : IsIn (secondRange first.toNat).1 (secondRange first.toNat).2 second)
    (isThird : IsIn 0x80 0xBF third) (isFourth : IsIn 0x80 0xBF fourth) :
    String.utf8EncodeChar
        (Char.ofNat ((first.toNat - 0xF0) * 0x40000 + (second.toNat - 0x80) * 0x1000 +
          (third.toNat - 0x80) * 0x40 + (fourth.toNat - 0x80))) =
      [first, second, third, fourth] := by
  have bounds := secondRange_facts isSecond
  unfold IsIn at isFirst isThird isFourth
  have isValid : ((first.toNat - 0xF0) * 0x40000 + (second.toNat - 0x80) * 0x1000 +
      (third.toNat - 0x80) * 0x40 + (fourth.toNat - 0x80)).isValidChar := by
    unfold Nat.isValidChar
    omega
  unfold String.utf8EncodeChar
  rw [val_ofNat isValid]
  dsimp only
  rw [if_neg (by omega), if_neg (by omega), if_neg (by omega),
    @ofNat_eq_of_toNat _ first (by omega), @ofNat_eq_of_toNat _ second (by omega),
    @ofNat_eq_of_toNat _ third (by omega), @ofNat_eq_of_toNat _ fourth (by omega)]

/-- A sequence of bytes that is decoded is the encoded form of its character. -/
theorem encode_of_sequenceAt? (found : sequenceAt? bytes = some (code, length)) :
    ∃ rest, bytes = String.utf8EncodeChar (Char.ofNat code) ++ rest ∧
      length = (String.utf8EncodeChar (Char.ofNat code)).length := by
  obtain _ | ⟨first, bytes⟩ := bytes
  · contradiction
  unfold sequenceAt? isContinuation at found
  simp only [List.map_cons] at found
  split_ifs at found with isOne isLow isTwo isThree isFour
  · obtain ⟨rfl, rfl⟩ := Prod.mk.inj (Option.some.inj found)
    rw [encode_one ⟨Nat.zero_le _, by omega⟩]
    exact ⟨_, rfl, rfl⟩
  · obtain _ | ⟨second, bytes⟩ := bytes
    · contradiction
    simp only [List.map_cons, Option.ite_none_right_eq_some, Option.some.injEq, Prod.mk.injEq,
      Bool.and_eq_true, decide_eq_true_eq] at found
    obtain ⟨isSecond, rfl, rfl⟩ := found
    rw [encode_two ⟨by omega, by omega⟩ (secondRange_facts isSecond).1]
    exact ⟨_, rfl, rfl⟩
  · obtain _ | ⟨second, _ | ⟨third, bytes⟩⟩ := bytes
    · contradiction
    · contradiction
    simp only [List.map_cons, Option.ite_none_right_eq_some, Option.some.injEq, Prod.mk.injEq,
      Bool.and_eq_true, decide_eq_true_eq] at found
    obtain ⟨⟨isSecond, isThird⟩, rfl, rfl⟩ := found
    rw [encode_three ⟨by omega, by omega⟩ isSecond isThird]
    exact ⟨_, rfl, rfl⟩
  · obtain _ | ⟨second, _ | ⟨third, _ | ⟨fourth, bytes⟩⟩⟩ := bytes
    · contradiction
    · contradiction
    · contradiction
    simp only [List.map_cons, Option.ite_none_right_eq_some, Option.some.injEq, Prod.mk.injEq,
      Bool.and_eq_true, decide_eq_true_eq] at found
    obtain ⟨⟨⟨isSecond, isThird⟩, isFourth⟩, rfl, rfl⟩ := found
    rw [encode_four ⟨by omega, by omega⟩ isSecond isThird isFourth]
    exact ⟨_, rfl, rfl⟩

theorem toNat_ofNat {number : Nat} (small : number < 0x100) :
    (UInt8.ofNat number).toNat = number := by
  rw [UInt8.toNat_ofNat', Nat.mod_eq_of_lt small]

/-- The second byte of an encoded form is in the range after the first one. -/
theorem follows_secondRange {first second : Nat} (continues : 0x80 ≤ second ∧ second ≤ 0xBF)
    (after : (first = 0xE0 → 0xA0 ≤ second) ∧ (first = 0xED → second ≤ 0x9F) ∧
      (first = 0xF0 → 0x90 ≤ second) ∧ (first = 0xF4 → second ≤ 0x8F)) :
    (decide ((secondRange first).1 ≤ second) && decide (second ≤ (secondRange first).2)) =
      true := by
  unfold secondRange
  simp only [beq_iff_eq, Bool.and_eq_true, decide_eq_true_eq]
  split_ifs <;> simp only <;> omega

theorem isContinuation_of_mod (number : Nat) : isContinuation (number % 64 + 128) = true := by
  unfold isContinuation
  simp only [Bool.and_eq_true, decide_eq_true_eq]
  omega

/-- The encoded form of a character is decoded as that character, whatever follows it. -/
theorem sequenceAt?_encode (character : Char) (rest : List UInt8) :
    sequenceAt? ((String.utf8EncodeChar character ++ rest).take 4) =
      some (character.toNat, (String.utf8EncodeChar character).length) := by
  have isValid : character.val.toNat < 0xD800 ∨
      0xDFFF < character.val.toNat ∧ character.val.toNat < 0x110000 := character.valid
  unfold String.utf8EncodeChar Char.toNat sequenceAt?
  generalize character.val.toNat = code at isValid ⊢
  dsimp only
  split_ifs with isOne isTwo isThree
  · simp only [List.cons_append, List.nil_append, List.take_succ_cons, List.map_cons]
    rw [toNat_ofNat (by omega), if_pos (by omega)]
    rfl
  · simp only [List.cons_append, List.nil_append, List.take_succ_cons, List.map_cons]
    rw [toNat_ofNat (by omega), toNat_ofNat (by omega), if_neg (by omega), if_neg (by omega),
      if_pos (by omega), if_pos (follows_secondRange (by omega) (by omega))]
    simp only [List.length_cons, List.length_nil, Option.some.injEq, Prod.mk.injEq, and_true]
    omega
  · simp only [List.cons_append, List.nil_append, List.take_succ_cons, List.map_cons]
    rw [toNat_ofNat (by omega), toNat_ofNat (by omega), toNat_ofNat (by omega),
      if_neg (by omega), if_neg (by omega), if_neg (by omega), if_pos (by omega),
      if_pos (Bool.and_eq_true_iff.mpr
        ⟨follows_secondRange (by omega) (by omega), isContinuation_of_mod _⟩)]
    simp only [List.length_cons, List.length_nil, Option.some.injEq, Prod.mk.injEq, and_true]
    omega
  · simp only [List.cons_append, List.nil_append, List.take_succ_cons, List.map_cons]
    rw [toNat_ofNat (by omega), toNat_ofNat (by omega), toNat_ofNat (by omega),
      toNat_ofNat (by omega), if_neg (by omega), if_neg (by omega), if_neg (by omega),
      if_neg (by omega), if_pos (by omega),
      if_pos (Bool.and_eq_true_iff.mpr ⟨Bool.and_eq_true_iff.mpr
        ⟨follows_secondRange (by omega) (by omega), isContinuation_of_mod _⟩,
        isContinuation_of_mod _⟩)]
    simp only [List.length_cons, List.length_nil, Option.some.injEq, Prod.mk.injEq, and_true]
    omega

end Sequences

/-! ## Decoded files -/

/-- How bytes from an offset on are decoded: character by character, with a stand-in for every byte
with which no sequence starts. -/
inductive IsDecoded : Nat → List UInt8 → Source → Prop where
  | nil {offset : Nat} : IsDecoded offset [] ⟨[], []⟩
  | text {offset : Nat} {character : Char} {bytes : List UInt8} {source : Source}
      (rest : IsDecoded (offset + character.utf8Size) bytes source) :
      IsDecoded offset (String.utf8EncodeChar character ++ bytes)
        ⟨character :: source.characters, source.stray⟩
  | stray {offset : Nat} {byte : UInt8} {bytes : List UInt8} {source : Source}
      (rest : IsDecoded (offset + 1) bytes source) :
      IsDecoded offset (byte :: bytes)
        ⟨standIn :: source.characters, (offset, byte) :: source.stray⟩

section Decoded

variable {offset : Nat} {bytes : List UInt8} {source : Source}

theorem decodeFrom_eq_drop (offset read : Nat) (bytes : List UInt8) :
    decodeFrom offset read bytes = decodeFrom (offset + read) 0 (bytes.drop read) := by
  induction read generalizing offset bytes with
  | zero => rfl
  | succ read ih =>
      cases bytes with
      | nil => rfl
      | cons byte bytes =>
          rw [decodeFrom, ih, List.drop_succ_cons, Nat.add_assoc, Nat.add_comm 1]

theorem decodeFrom_encode (offset : Nat) (character : Char) (rest : List UInt8) :
    decodeFrom offset 0 (String.utf8EncodeChar character ++ rest) =
      ⟨character :: (decodeFrom (offset + character.utf8Size) 0 rest).characters,
        (decodeFrom (offset + character.utf8Size) 0 rest).stray⟩ := by
  have found := sequenceAt?_encode character rest
  have isLength := String.length_utf8EncodeChar character
  have positive := character.utf8Size_pos
  obtain ⟨first, others, encoded⟩ := List.exists_cons_of_ne_nil
    (List.ne_nil_of_length_pos (isLength ▸ positive))
  rw [encoded] at found isLength ⊢
  rw [List.cons_append] at found ⊢
  have others_eq : others.length = character.utf8Size - 1 := by
    rw [← isLength, List.length_cons, Nat.add_sub_cancel]
  have after : 1 + (character.utf8Size - 1) = character.utf8Size := by omega
  rw [decodeFrom, found]
  simp only [List.length_cons, Nat.add_sub_cancel]
  rw [decodeFrom_eq_drop, List.drop_left, others_eq, Nat.add_assoc, after, Char.ofNat_toNat]

theorem isDecoded_decodeFrom (offset : Nat) (bytes : List UInt8) :
    IsDecoded offset bytes (decodeFrom offset 0 bytes) := by
  induction size : bytes.length using Nat.strongRecOn generalizing offset bytes with
  | ind size ih =>
      obtain _ | ⟨byte, others⟩ := bytes
      · exact .nil
      cases found : sequenceAt? ((byte :: others).take 4) with
      | none =>
          rw [decodeFrom, found]
          exact .stray (ih others.length (by rw [← size]; exact Nat.lt_succ_self _) _ _ rfl)
      | some sequence =>
          obtain ⟨rest, isFront, _⟩ := encode_of_sequenceAt? found
          have whole : byte :: others = String.utf8EncodeChar (Char.ofNat sequence.1) ++
              (rest ++ (byte :: others).drop 4) := by
            rw [← List.append_assoc, ← isFront, List.take_append_drop]
          generalize rest ++ (byte :: others).drop 4 = rest at whole
          rw [whole, decodeFrom_encode]
          refine .text (ih _ ?_ _ _ rfl)
          have positive := (Char.ofNat sequence.1).utf8Size_pos
          rw [← size, whole, List.length_append, String.length_utf8EncodeChar]
          omega

theorem IsDecoded.le_of_mem_stray (decoded : IsDecoded offset bytes source) :
    ∀ entry ∈ source.stray, offset ≤ entry.1 := by
  induction decoded with
  | nil => simp
  | text _ ih => exact fun entry entryMem => Nat.le_of_add_right_le (ih entry entryMem)
  | stray _ ih =>
      intro entry entryMem
      rcases List.mem_cons.mp entryMem with rfl | isLater
      · exact Nat.le_refl _
      · exact Nat.le_of_succ_le (ih entry isLater)

/-- A stray byte that stands before all characters does not count. -/
theorem bytesFrom_of_lt {stray : List (Nat × UInt8)} {first : Nat} {byte : UInt8}
    (isBefore : first < offset) (characters : List Char) :
    bytesFrom ((first, byte) :: stray) offset characters = bytesFrom stray offset characters := by
  induction characters generalizing offset with
  | nil => rfl
  | cons character characters ih =>
      have isOther : (offset == first) = false := beq_false_of_ne (Nat.ne_of_gt isBefore)
      rw [bytesFrom, bytesFrom, List.lookup_cons, isOther]
      dsimp only
      rw [ih (Nat.lt_succ_of_lt isBefore), ih (Nat.lt_add_right _ isBefore)]

theorem IsDecoded.bytesFrom_eq (decoded : IsDecoded offset bytes source) :
    bytesFrom source.stray offset source.characters = bytes := by
  induction decoded with
  | nil => rfl
  | @text offset character bytes source rest ih =>
      have absent : source.stray.lookup offset = none := by
        refine List.lookup_eq_none_iff.mpr fun entry entryMem => ?_
        have isLater := rest.le_of_mem_stray entry entryMem
        have positive := character.utf8Size_pos
        exact bne_iff_ne.mpr (by omega)
      rw [bytesFrom, absent]
      dsimp only
      rw [ih]
  | stray _ ih =>
      rw [bytesFrom, List.lookup_cons_self]
      dsimp only
      rw [bytesFrom_of_lt (Nat.lt_succ_self _), ih]

/-- Decoding loses no byte of a file. -/
theorem bytes_ofBytes (bytes : List UInt8) : (ofBytes bytes).bytes = bytes :=
  (isDecoded_decodeFrom 0 bytes).bytesFrom_eq

/-- The text of a file has the bytes of the file. -/
theorem bytes_of_text? {text : String} (isText : (ofBytes bytes).text? = some text) :
    (ofString text).bytes = bytes := by
  obtain ⟨noStray, same⟩ := Option.ite_none_right_eq_some.mp isText
  have isSource : ofBytes bytes = ofString text := by
    rw [← Option.some.inj same, ofString, String.toList_ofList, ← List.isEmpty_iff.mp noStray]
  rw [← isSource, bytes_ofBytes]

theorem bytesFrom_eq_encoded (offset : Nat) (characters : List Char) :
    bytesFrom [] offset characters = encoded characters := by
  induction characters generalizing offset with
  | nil => rfl
  | cons character characters ih =>
      rw [bytesFrom, List.lookup_nil]
      dsimp only
      rw [ih]
      rfl

theorem bytes_eq_encoded (isText : source.stray = []) :
    source.bytes = encoded source.characters := by
  rw [bytes, isText, bytesFrom_eq_encoded]

theorem decodeFrom_encoded (offset : Nat) (characters : List Char) :
    decodeFrom offset 0 (encoded characters) = ⟨characters, []⟩ := by
  induction characters generalizing offset with
  | nil => rfl
  | cons character characters ih =>
      rw [encoded, List.flatMap_cons, decodeFrom_encode]
      exact congrArg (fun rest : Source => (⟨character :: rest.characters, rest.stray⟩ : Source))
        (ih _)

/-- A text that is encoded is decoded as it was. -/
theorem ofBytes_encoded (text : List Char) : ofBytes (encoded text) = ⟨text, []⟩ :=
  decodeFrom_encoded 0 text

end Decoded

end Source

end Phrasebook.Text
