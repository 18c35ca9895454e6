import Phrasebook.PlaceStore
import Phrasebook.Proofs.JsonText
import Phrasebook.Proofs.KeyChange
import Phrasebook.Proofs.SortedSet
import Mathlib.Data.List.TakeDrop

/-!
# Stores of places that are read back

The file of a store gives every key the places that the store gives it.  A
place is written with the colon that is looked for last, so its path may hold
colons as well, but it must not be empty.
-/

namespace Phrasebook

/-! ## Places -/

section Places

theorem splitLastColon_append (front : List Char) {back : List Char} (noColon : ':' ∉ back) :
    splitLastColon (front ++ ':' :: back) = some (front, back) := by
  have others : ∀ sign ∈ back.reverse, (sign != ':') = true := by
    intro sign signMem
    rw [bne_iff_ne]
    rintro rfl
    exact noColon (List.mem_reverse.mp signMem)
  unfold splitLastColon
  rw [List.span_eq_takeWhile_dropWhile, List.reverse_append, List.reverse_cons, List.append_assoc,
    List.takeWhile_append_of_pos others, List.dropWhile_append_of_pos others]
  simp

theorem digitValue?_of_isDigit {digit : Char} (isDigit : digit.isDigit = true) :
    Text.digitValue? digit = some (digit.toNat - 48) := by
  have bounds : 48 ≤ digit.toNat ∧ digit.toNat ≤ 57 := by
    simpa [Char.isDigit, UInt32.le_iff_toNat_le] using isDigit
  have found : (Text.zeros.find? fun first => first ≤ digit.toNat && digit.toNat ≤ first + 9) =
      some 48 := by
    rw [Text.zeros, List.find?_cons_of_pos]
    simpa using bounds
  rw [Text.digitValue?, found]
  rfl

theorem natOfDigits?_eq {digits : List Char} (areDigits : ∀ digit ∈ digits, digit.isDigit = true)
    (value : Nat) : Text.natOfDigits? value digits = some (Nat.ofDigitChars 10 digits value) := by
  induction digits generalizing value with
  | nil => rfl
  | cons digit digits ih =>
      rw [Text.natOfDigits?, digitValue?_of_isDigit (areDigits digit List.mem_cons_self)]
      dsimp only
      rw [ih fun other isLater => areDigits other (List.mem_cons_of_mem _ isLater),
        Nat.ofDigitChars_cons, Nat.mul_comm value 10]
      rfl

namespace PlaceStore

/-- A place is read as it was written. -/
theorem placeOf_toString (key : String) {place : Place} (named : place.path ≠ "") :
    placeOf key (.text place.toString) = .ok place := by
  have areDigits := Json.areDigits_toDigits place.line
  have noColon : ':' ∉ Nat.toDigits 10 place.line := by
    intro colonMem
    have isDigit := areDigits ':' colonMem
    contradiction
  have isSplit : splitLastColon place.toString.toList =
      some (place.path.toList, Nat.toDigits 10 place.line) := by
    rw [Place.toString, String.toList_append, String.toList_append, Nat.toList_repr,
      List.append_assoc]
    exact splitLastColon_append _ noColon
  have isNumber : (Nat.toDigits 10 place.line).all Text.isDigit = true := by
    rw [List.all_eq_true]
    intro digit digitMem
    rw [Text.isDigit, digitValue?_of_isDigit (areDigits digit digitMem)]
    rfl
  have hasPath : place.path.toList.isEmpty = false :=
    List.isEmpty_eq_false_iff.mpr (mt String.toList_eq_nil_iff.mp named)
  have hasLine : (Nat.toDigits 10 place.line).isEmpty = false :=
    List.isEmpty_eq_false_iff.mpr Nat.toDigits_ne_nil
  unfold placeOf
  dsimp only
  rw [isSplit]
  dsimp only
  rw [hasPath, hasLine, isNumber, natOfDigits?_eq areDigits, Nat.ofDigitChars_ten_toDigits,
    String.ofList_toList]
  rfl

end PlaceStore

end Places

namespace PlaceStore

/-! ## Proper stores -/

/-- A store as its file can hold it: its keys are different, and the places of every key are a
sorted set of lines in files that have a path. -/
structure IsProper (store : PlaceStore) : Prop where
  distinct : (store.places.map (·.1)).Nodup
  sorted : ∀ entry ∈ store.places, IsSorted Place.isBefore entry.2
  named : ∀ entry ∈ store.places, ∀ place ∈ entry.2, place.path ≠ ""

section IsProper

variable {store : PlaceStore} {key : String} {places : List Place}

theorem mem_of_lookup {entries : List (String × List Place)}
    (isStored : entries.lookup key = some places) : (key, places) ∈ entries := by
  obtain ⟨front, back, whole, -⟩ := List.lookup_eq_some_iff.mp isStored
  simp [whole]

theorem get_cases (store : PlaceStore) (key : String) :
    store.get key = [] ∨ (key, store.get key) ∈ store.places := by
  unfold get
  cases isStored : store.places.lookup key with
  | none => exact .inl rfl
  | some places => exact .inr (mem_of_lookup isStored)

theorem IsProper.sorted_get (proper : store.IsProper) (key : String) :
    IsSorted Place.isBefore (store.get key) := by
  rcases store.get_cases key with isEmpty | isStored
  · rw [isEmpty]
    exact .nil
  · exact proper.sorted _ isStored

theorem IsProper.named_get (proper : store.IsProper) (key : String) :
    ∀ place ∈ store.get key, place.path ≠ "" := by
  rcases store.get_cases key with isEmpty | isStored
  · simp [isEmpty]
  · exact proper.named _ isStored

/-- The keys of a store with their places, in the order of the keys. -/
def inOrder (store : PlaceStore) : List (String × List Place) :=
  store.keys.map fun key => (key, store.get key)

theorem map_key_inOrder (store : PlaceStore) : store.inOrder.map (·.1) = store.keys := by
  rw [inOrder, List.map_map]
  exact List.map_id _

theorem nodup_keys (store : PlaceStore) : store.keys.Nodup := by
  refine (isSorted_sortedSet isLinear_lt_text _).imp fun {left right} isBefore => ?_
  rintro rfl
  simp at isBefore

/-- To put the keys in order is to change none of their places. -/
theorem lookup_inOrder (store : PlaceStore) (key : String) :
    store.inOrder.lookup key = store.places.lookup key := by
  have distinct : (store.inOrder.map (·.1)).Nodup := by
    rw [map_key_inOrder]
    exact store.nodup_keys
  cases isStored : store.places.lookup key with
  | none =>
      apply Book.lookup_eq_none_of_notMem
      rw [map_key_inOrder, keys, mem_sortedTexts]
      intro keyMem
      obtain ⟨entry, entryMem, rfl⟩ := List.mem_map.mp keyMem
      have isOther := List.lookup_eq_none_iff.mp isStored entry entryMem
      simp at isOther
  | some places =>
      apply Book.lookup_of_mem distinct
      have keyMem : key ∈ store.keys := by
        rw [keys, mem_sortedTexts]
        exact List.mem_map_of_mem (f := (·.1)) (mem_of_lookup isStored)
      have isGet : store.get key = places := by
        rw [get, isStored]
        rfl
      exact List.mem_map.mpr ⟨key, keyMem, by rw [isGet]⟩

theorem IsProper.inOrder (proper : store.IsProper) : IsProper ⟨store.inOrder, false⟩ where
  distinct := by
    rw [map_key_inOrder]
    exact store.nodup_keys
  sorted entry entryMem := by
    obtain ⟨key, -, rfl⟩ := List.mem_map.mp entryMem
    exact proper.sorted_get key
  named entry entryMem := by
    obtain ⟨key, -, rfl⟩ := List.mem_map.mp entryMem
    exact proper.named_get key

end IsProper

/-! ## Reading a store back -/

section ReadBack

variable {store : PlaceStore}

theorem placesOf_eq_ok (proper : store.IsProper) (key : String) :
    placesOf (.text key) (.list ((store.get key).map fun place => .text place.toString)) =
      .ok (key, store.get key) := by
  have areRead : ((store.get key).map fun place => Value.text place.toString).mapM (placeOf key) =
      .ok (store.get key) := by
    rw [mapM_eq_ok_iff, List.forall₂_map_left_iff, List.forall₂_same]
    exact fun place placeMem => placeOf_toString key (proper.named_get key place placeMem)
  unfold placesOf
  dsimp only
  rw [areRead]
  exact congrArg (fun places => Except.ok (key, places))
    (sortedSet_of_isSorted Place.isLinear_isBefore (proper.sorted_get key))

/-- The document for the file is the store, with its keys in order. -/
theorem ofValue_toValue (proper : store.IsProper) :
    ofValue store.toValue = .ok ⟨store.inOrder, false⟩ := by
  let entries := store.keys.map fun key =>
    (Value.text key, Value.list ((store.get key).map fun place => .text place.toString))
  have areRead : (entries.mapM fun (key, value) => placesOf key value) = .ok store.inOrder := by
    rw [mapM_eq_ok_iff, inOrder, List.forall₂_map_left_iff, List.forall₂_map_right_iff,
      List.forall₂_same]
    exact fun key _ => placesOf_eq_ok proper key
  have hasVersion : store.toValue.field? "version" = some (.integer layoutVersion) := rfl
  have hasPlaces : store.toValue.field? "refs" = some (.mapping entries) := rfl
  unfold ofValue
  rw [hasVersion, hasPlaces]
  dsimp only
  rw [areRead]
  rfl

/-- The fields of the document for the file. -/
def fields (store : PlaceStore) : List (String × Value) :=
  store.keys.map fun key =>
    (key, .list ((store.get key).map fun place => .text place.toString))

theorem toValue_eq (store : PlaceStore) :
    store.toValue = .mapping
      ([("refs", .mapping (store.fields.map Json.named)), ("version", .integer layoutVersion)].map
        Json.named) := by
  rw [fields, List.map_map]
  rfl

theorem isDocument_toValue (store : PlaceStore) (depth : Nat) :
    Json.IsDocument Json.isScalar (depth + 3) store.toValue := by
  have distinct : (store.fields.map (·.1)).Nodup := by
    rw [fields, List.map_map]
    exact (List.map_id store.keys).symm ▸ store.nodup_keys
  have isMapping : Json.IsDocument Json.isScalar (depth + 2)
      (.mapping (store.fields.map Json.named)) := by
    refine .mapping distinct fun field fieldMem => ?_
    obtain ⟨key, -, rfl⟩ := List.mem_map.mp fieldMem
    refine .list fun item itemMem => ?_
    obtain ⟨place, -, rfl⟩ := List.mem_map.mp itemMem
    exact .leaf rfl
  rw [toValue_eq]
  refine .mapping (by simp) fun field fieldMem => ?_
  simp only [List.mem_cons, List.not_mem_nil, or_false] at fieldMem
  rcases fieldMem with rfl | rfl
  · exact isMapping
  · exact .leaf rfl

/-- The file of a store is read as the store, with its keys in order. -/
theorem read_render (proper : store.IsProper) :
    read store.render = .ok ⟨store.inOrder, false⟩ := by
  have isLong : 3 ≤ store.render.length := by
    rw [render, Json.write, toValue_eq, List.map_cons, Json.writeAt, Json.writeFields,
      Json.layOut_cons, String.length_append, String.length_ofList, List.length_cons,
      List.length_append, Json.newLine, List.length_cons]
    change 3 ≤ _ + 1
    omega
  obtain ⟨depth, isDepth⟩ := Nat.exists_eq_add_of_le' isLong
  have isRead : Json.read? store.render.length store.render = some store.toValue := by
    rw [isDepth]
    exact Json.read?_write (isDocument_toValue store depth)
  unfold read
  rw [isRead]
  exact ofValue_toValue proper

end ReadBack

/-! ## Stores that are read -/

section Read

variable {store : PlaceStore}

theorem named_of_placeOf {key : String} {value : Value} {place : Place}
    (isPlace : placeOf key value = .ok place) : place.path ≠ "" := by
  unfold placeOf at isPlace
  split at isPlace
  · split at isPlace
    · cases isPlace
    · rename_i path line _
      split at isPlace
      · cases isPlace
      · rename_i isWhole
        split at isPlace
        · obtain rfl := Except.ok.inj isPlace
          intro isEmpty
          have noPath : path = [] := by simpa using isEmpty
          simp [noPath] at isWhole
        · cases isPlace
  · cases isPlace

/-- A list of places is read as a sorted set under its key. -/
theorem placesOf_cases {name : String} {value : Value} {entry : String × List Place}
    (areRead : placesOf (.text name) value = .ok entry) :
    ∃ places, entry = (name, sortedPlaces places) ∧ ∀ place ∈ places, place.path ≠ "" := by
  unfold placesOf at areRead
  dsimp only at areRead
  split at areRead
  · obtain ⟨places, eachRead, rfl⟩ := map_eq_ok_iff.mp areRead
    refine ⟨places, rfl, fun place placeMem => ?_⟩
    obtain ⟨item, -, -, isRead⟩ := exists_mem_zip_right (mapM_eq_ok_iff.mp eachRead) placeMem
    exact named_of_placeOf isRead
  · cases areRead

theorem isProper_of_ofValue {depth : Nat} {document : Value}
    (isDocument : Json.IsDocument Json.isPlain depth document)
    (isRead : ofValue document = .ok store) : store.IsProper ∧ store.isChanged = false := by
  unfold ofValue at isRead
  split at isRead
  · cases isRead
  · split at isRead
    · rename_i entries hasPlaces
      obtain ⟨places, areRead, rfl⟩ := map_eq_ok_iff.mp isRead
      obtain ⟨below, isMapping⟩ := isDocument.of_field? hasPlaces
      obtain ⟨fields, rfl, distinct⟩ := isMapping.exists_named
      rw [mapM_eq_ok_iff, List.forall₂_map_left_iff] at areRead
      have areEntries : List.Forall₂ (fun field entry => ∃ places,
          entry = (field.1, sortedPlaces places) ∧ ∀ place ∈ places, place.path ≠ "")
          fields places :=
        areRead.imp fun field entry => placesOf_cases
      refine ⟨⟨?_, ?_, ?_⟩, rfl⟩
      · have sameKeys : fields.map (·.1) = places.map (·.1) := by
          refine map_eq_map_of_forall₂ (areEntries.imp fun field entry isEntry => ?_)
          obtain ⟨_, rfl, -⟩ := isEntry
          rfl
        exact sameKeys ▸ distinct
      · intro entry entryMem
        obtain ⟨field, -, -, places, rfl, -⟩ := exists_mem_zip_right areEntries entryMem
        exact isSorted_sortedPlaces places
      · intro entry entryMem
        obtain ⟨field, -, -, places, rfl, named⟩ := exists_mem_zip_right areEntries entryMem
        exact fun place placeMem => named place (mem_sortedPlaces.mp placeMem)
    · cases isRead

theorem isProper_of_read {text : String} (isRead : read text = .ok store) :
    store.IsProper ∧ store.isChanged = false := by
  unfold read at isRead
  split at isRead
  · rename_i document isDocument
    exact isProper_of_ofValue (Json.isDocument_of_read? isDocument) isRead
  · cases isRead

end Read

end PlaceStore

end Phrasebook
