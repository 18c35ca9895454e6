import Phrasebook.Proofs.JsonText
import Mathlib.Order.Lattice.Nat

/-!
# How deep documents are nested

A reader of JSON gives up on documents that are nested too deep.  A document
that is written is read back exactly if it is not, where lists and objects
without content do not count.
-/

namespace Phrasebook

namespace Value

mutual

/-- How deep lists and objects with content are nested in a value. -/
def nesting : Value → Nat
  | list items => nestingAll items
  | mapping fields => nestingFields fields
  | _ => 0

def nestingAll : List Value → Nat
  | [] => 0
  | item :: items => Nat.max (item.nesting + 1) (nestingAll items)

def nestingFields : List (Value × Value) → Nat
  | [] => 0
  | (_, value) :: fields => Nat.max (value.nesting + 1) (nestingFields fields)

end

section Nesting

variable {items : List Value} {fields : List (Value × Value)} {depth : Nat}

theorem nestingAll_le_iff :
    nestingAll items ≤ depth ↔ ∀ item ∈ items, item.nesting + 1 ≤ depth := by
  induction items with
  | nil => simp [nestingAll]
  | cons item items ih => simp [nestingAll, ih]

theorem nestingFields_le_iff :
    nestingFields fields ≤ depth ↔ ∀ field ∈ fields, field.2.nesting + 1 ≤ depth := by
  induction fields with
  | nil => simp [nestingFields]
  | cons field fields ih => simp [nestingFields, ih]

theorem nesting_lt_of_mem {item : Value} (itemMem : item ∈ items) :
    item.nesting < (list items).nesting := by
  rw [nesting]
  exact nestingAll_le_iff.mp le_rfl item itemMem

theorem nesting_lt_of_field? {value field : Value} {name : String}
    (isField : value.field? name = some field) : field.nesting < value.nesting := by
  unfold field? at isField
  split at isField
  · obtain ⟨found, isFound, rfl⟩ := Option.map_eq_some_iff.mp isField
    rw [nesting]
    exact nestingFields_le_iff.mp le_rfl found (List.mem_of_find?_eq_some isFound)
  · contradiction

end Nesting

end Value

namespace Json

/-! ## Documents of a depth -/

section Depth

variable {isLeaf : Value → Bool} {depth : Nat} {value : Value}

theorem IsDocument.mono {more : Nat} (document : IsDocument isLeaf depth value)
    (deeper : depth ≤ more) : IsDocument isLeaf more value := by
  induction document generalizing more with
  | leaf isLeaf => exact .leaf isLeaf
  | noItems => exact .noItems
  | noFields => exact .noFields
  | list _ each =>
      cases more with
      | zero => omega
      | succ more => exact .list fun item itemMem => each item itemMem (by omega)
  | mapping distinct _ each =>
      cases more with
      | zero => omega
      | succ more => exact .mapping distinct fun field fieldMem => each field fieldMem (by omega)

/-- A document is nested no deeper than it is said to be. -/
theorem IsDocument.nesting_le (noContent : ∀ value, isLeaf value = true → isPlain value = true)
    (document : IsDocument isLeaf depth value) : value.nesting ≤ depth := by
  induction document with
  | @leaf depth value leaf =>
      have plain := noContent value leaf
      cases value <;> first | contradiction | simp [Value.nesting]
  | noItems => simp [Value.nesting, Value.nestingAll]
  | noFields => simp [Value.nesting, Value.nestingFields]
  | list _ each =>
      rw [Value.nesting, Value.nestingAll_le_iff]
      intro item itemMem
      have := each item itemMem
      omega
  | @mapping depth fields _ _ each =>
      rw [Value.nesting, Value.nestingFields_le_iff]
      intro field fieldMem
      obtain ⟨byName, byNameMem, rfl⟩ := List.mem_map.mp fieldMem
      have := each byName byNameMem
      simp only [named]
      omega

theorem isDocument_list {items : List Value}
    (each : ∀ item ∈ items, IsDocument isLeaf item.nesting item) :
    IsDocument isLeaf (Value.list items).nesting (.list items) := by
  cases items with
  | nil => exact .noItems
  | cons item items =>
      have deeper := Value.nesting_lt_of_mem (List.mem_cons_self (a := item) (l := items))
      obtain ⟨depth, isDepth⟩ := Nat.exists_eq_add_of_lt deeper
      rw [isDepth]
      refine .list fun other otherMem => (each other otherMem).mono ?_
      have := Value.nesting_lt_of_mem otherMem
      omega

theorem isDocument_mapping {fields : List (String × Value)}
    (distinct : (fields.map (·.1)).Nodup)
    (each : ∀ field ∈ fields, IsDocument isLeaf field.2.nesting field.2) :
    IsDocument isLeaf (Value.mapping (fields.map named)).nesting (.mapping (fields.map named)) := by
  have deeper (field : String × Value) (fieldMem : field ∈ fields) :
      field.2.nesting + 1 ≤ (Value.mapping (fields.map named)).nesting := by
    rw [Value.nesting]
    exact Value.nestingFields_le_iff.mp le_rfl (named field) (List.mem_map_of_mem fieldMem)
  cases fields with
  | nil => exact .noFields
  | cons field fields =>
      obtain ⟨depth, isDepth⟩ := Nat.exists_eq_add_of_le' (deeper field List.mem_cons_self)
      have sameDepth : (Value.mapping ((field :: fields).map named)).nesting =
          depth + field.2.nesting + 1 := by omega
      rw [sameDepth]
      refine .mapping distinct fun other otherMem => (each other otherMem).mono ?_
      have := deeper other otherMem
      omega

end Depth

/-! ## Reading deeper -/

/-- What is read with some fuel down to some depth is read in the same way further down. -/
structure ReadsDeeper (fuel : Nat) : Prop where
  value : ∀ {depth more text result}, depth ≤ more →
    readValue fuel depth text = some result → readValue fuel more text = some result
  items : ∀ {depth more text result}, depth ≤ more →
    readItems fuel depth text = some result → readItems fuel more text = some result
  fields : ∀ {depth more earlier text result}, depth ≤ more →
    readFields fuel depth earlier text = some result →
      readFields fuel more earlier text = some result

section Step

variable {fuel depth more : Nat} {text : List Char}

theorem ReadsDeeper.value_succ (reads : ReadsDeeper fuel) {result : Value × List Char}
    (deeper : depth ≤ more) (isRead : readValue (fuel + 1) depth text = some result) :
    readValue (fuel + 1) more text = some result := by
  have notEnd (isDeep : ¬(depth == 0) = true) : ¬(more == 0) = true := by
    rw [beq_iff_eq] at isDeep ⊢
    omega
  have below : depth - 1 ≤ more - 1 := by omega
  unfold readValue at isRead ⊢
  split at isRead
  · split at isRead
    · exact isRead
    · split at isRead
      · contradiction
      · rename_i isDeep
        obtain ⟨items, areRead, isResult⟩ := Option.map_eq_some_iff.mp isRead
        rw [if_neg (notEnd isDeep), reads.items below areRead, Option.map_some, isResult]
  · split at isRead
    · exact isRead
    · split at isRead
      · contradiction
      · rename_i isDeep
        rw [if_neg (notEnd isDeep)]
        exact reads.fields below isRead
  · exact isRead

theorem ReadsDeeper.items_succ (reads : ReadsDeeper fuel) {result : List Value × List Char}
    (deeper : depth ≤ more) (isRead : readItems (fuel + 1) depth text = some result) :
    readItems (fuel + 1) more text = some result := by
  unfold readItems at isRead ⊢
  split at isRead
  · contradiction
  · rename_i firstRead
    rw [reads.value deeper firstRead]
    dsimp only
    split at isRead
    · exact isRead
    · obtain ⟨others, areRead, isResult⟩ := Option.map_eq_some_iff.mp isRead
      rw [reads.items deeper areRead, Option.map_some]
      exact congrArg some isResult
    · contradiction

theorem ReadsDeeper.fields_succ (reads : ReadsDeeper fuel) {earlier : List (Value × Value)}
    {result : Value × List Char} (deeper : depth ≤ more)
    (isRead : readFields (fuel + 1) depth earlier text = some result) :
    readFields (fuel + 1) more earlier text = some result := by
  unfold readFields at isRead ⊢
  split at isRead
  · split at isRead
    · contradiction
    · split at isRead
      · split at isRead
        · contradiction
        · rename_i valueRead
          rw [reads.value deeper valueRead]
          dsimp only at isRead ⊢
          split at isRead
          · exact isRead
          · exact reads.fields deeper isRead
          · contradiction
      · contradiction
  · contradiction

end Step

theorem readsDeeper (fuel : Nat) : ReadsDeeper fuel := by
  induction fuel with
  | zero =>
      refine ⟨?_, ?_, ?_⟩
      · intro depth more text result _ isRead
        rw [readValue] at isRead
        contradiction
      · intro depth more text result _ isRead
        rw [readItems] at isRead
        contradiction
      · intro depth more earlier text result _ isRead
        rw [readFields] at isRead
        contradiction
  | succ fuel ih => exact ⟨ih.value_succ, ih.items_succ, ih.fields_succ⟩

theorem read?_mono {depth more : Nat} {text : String} {value : Value} (deeper : depth ≤ more)
    (isRead : read? depth text = some value) : read? more text = some value := by
  unfold read? at isRead ⊢
  dsimp only at isRead ⊢
  split at isRead
  · rename_i found
    rw [(readsDeeper _).value deeper found]
    exact isRead
  · contradiction

/-- A document is read back from its text if and only if it is nested no deeper than is read. -/
theorem read?_write_eq_ite {isAscii : Bool} {depth : Nat} {value : Value} {ending : String}
    (document : IsDocument isScalar value.nesting value) (follows : CanFollow ending.toList)
    (areBlank : skipBlanks ending.toList = []) :
    read? depth (write isAscii value ++ ending) =
      if value.nesting ≤ depth then some value else none := by
  split
  · rename_i fits
    exact read?_write_append (document.mono fits) follows areBlank
  · rename_i tooDeep
    rw [Option.eq_none_iff_forall_not_mem]
    intro found isFound
    have shallow : depth ≤ value.nesting := by omega
    have whole : read? value.nesting (write isAscii value ++ ending) = some value :=
      read?_write_append document follows areBlank
    rw [read?_mono shallow isFound] at whole
    obtain rfl := Option.some.inj whole
    exact tooDeep ((isDocument_of_read? isFound).nesting_le fun _ isPlain => isPlain)

end Json

end Phrasebook
