import Phrasebook.Json.Reader
import Mathlib.Data.List.Nodup

/-!
# JSON documents

What is read as JSON is nested no deeper than asked for, and no object in it
gives two fields the same name.
-/

namespace Phrasebook.Json

/-! ## Documents -/

/-- A field with its name as a value. -/
def named (field : String × Value) : Value × Value :=
  (.text field.1, field.2)

/-- A value that is nested no deeper than given, whose fields have different names, and which is
made of leaves of some kind. -/
inductive IsDocument (isLeaf : Value → Bool) : Nat → Value → Prop where
  | leaf {depth : Nat} {value : Value} (leaf : isLeaf value = true) : IsDocument isLeaf depth value
  | noItems {depth : Nat} : IsDocument isLeaf depth (.list [])
  | noFields {depth : Nat} : IsDocument isLeaf depth (.mapping [])
  | list {depth : Nat} {items : List Value}
      (each : ∀ item ∈ items, IsDocument isLeaf depth item) :
      IsDocument isLeaf (depth + 1) (.list items)
  | mapping {depth : Nat} {fields : List (String × Value)}
      (distinct : (fields.map (·.1)).Nodup)
      (each : ∀ field ∈ fields, IsDocument isLeaf depth field.2) :
      IsDocument isLeaf (depth + 1) (.mapping (fields.map named))

/-- Whether a value is written as a word, a whole number or a text. -/
def isScalar : Value → Bool
  | .null | .truth _ | .integer _ | .text _ => true
  | _ => false

/-- Whether a value is neither a list nor an object. -/
def isPlain : Value → Bool
  | .list _ | .mapping _ => false
  | _ => true

/-! ## Fields of documents -/

section Fields

variable {depth : Nat}

theorem IsDocument.exists_named {fields : List (Value × Value)}
    (document : IsDocument isPlain depth (.mapping fields)) :
    ∃ byName : List (String × Value), fields = byName.map named ∧ (byName.map (·.1)).Nodup := by
  cases document with
  | leaf isLeaf => cases isLeaf
  | noFields => exact ⟨[], rfl, List.nodup_nil⟩
  | mapping distinct each => exact ⟨_, rfl, distinct⟩

theorem IsDocument.of_field? {document value : Value} {name : String}
    (isDocument : IsDocument isPlain depth document)
    (isField : document.field? name = some value) : ∃ below, IsDocument isPlain below value := by
  unfold Value.field? at isField
  split at isField
  · obtain ⟨field, isFound, rfl⟩ := Option.map_eq_some_iff.mp isField
    have fieldMem := List.mem_of_find?_eq_some isFound
    cases isDocument with
    | leaf isLeaf => cases isLeaf
    | noFields => cases fieldMem
    | mapping distinct each =>
        obtain ⟨byName, byNameMem, rfl⟩ := List.mem_map.mp fieldMem
        exact ⟨_, each byName byNameMem⟩
  · cases isField

end Fields

/-! ## Documents that are read -/

section Read

theorem isPlain_of_readUnsigned {isNegative : Bool} {text rest : List Char} {value : Value}
    (isRead : readUnsigned isNegative text = some (value, rest)) : isPlain value = true := by
  unfold readUnsigned at isRead
  dsimp only at isRead
  split at isRead
  · cases isRead
  · split at isRead <;> (obtain ⟨rfl, -⟩ := Prod.mk.inj (Option.some.inj isRead); rfl)

theorem isPlain_of_readPlain {text rest : List Char} {value : Value}
    (isRead : readPlain text = some (value, rest)) : isPlain value = true := by
  unfold readPlain at isRead
  split at isRead
  · rename_i word found
    have allPlain : ∀ word ∈ words, isPlain word.2 = true := by decide
    obtain ⟨rfl, -⟩ := Prod.mk.inj (Option.some.inj isRead)
    exact allPlain _ (List.mem_of_find?_eq_some found)
  · split at isRead
    · obtain ⟨read, -, same⟩ := Option.map_eq_some_iff.mp isRead
      obtain ⟨rfl, -⟩ := Prod.mk.inj same
      rfl
    · exact isPlain_of_readUnsigned isRead
    · exact isPlain_of_readUnsigned isRead

/-- Fields in which a name has a value, in its place or behind the others. -/
def putField (name : String) (value : Value) : List (String × Value) → List (String × Value)
  | [] => [(name, value)]
  | field :: fields =>
    if field.1 == name then (field.1, value) :: fields else field :: putField name value fields

theorem setField_map_named (name : String) (value : Value) (fields : List (String × Value)) :
    Value.setField (Value.isText name) (.text name) value (fields.map named) =
      (putField name value fields).map named := by
  induction fields with
  | nil => rfl
  | cons field fields ih =>
      rw [List.map_cons, Value.setField, putField, ih]
      change (if (field.1 == name) = true then _ else _) = _
      split <;> rfl

theorem mem_putField {name : String} {value : Value} {fields : List (String × Value)}
    {other : String × Value} (otherMem : other ∈ putField name value fields) :
    other ∈ fields ∨ other = (name, value) := by
  induction fields with
  | nil => exact .inr (List.mem_singleton.mp otherMem)
  | cons field fields ih =>
      rw [putField] at otherMem
      split at otherMem
      · rename_i isSame
        rcases List.mem_cons.mp otherMem with rfl | isLater
        · exact .inr (by rw [beq_iff_eq.mp isSame])
        · exact .inl (List.mem_cons_of_mem _ isLater)
      · rcases List.mem_cons.mp otherMem with rfl | isLater
        · exact .inl List.mem_cons_self
        · exact (ih isLater).imp_left (List.mem_cons_of_mem _)

theorem nodup_putField (name : String) (value : Value) {fields : List (String × Value)}
    (distinct : (fields.map (·.1)).Nodup) : ((putField name value fields).map (·.1)).Nodup := by
  induction fields with
  | nil => simp [putField]
  | cons field fields ih =>
      obtain ⟨isNew, distinctLater⟩ := List.nodup_cons.mp distinct
      rw [putField]
      split
      · exact List.nodup_cons.mpr ⟨isNew, distinctLater⟩
      · rename_i isOther
        refine List.nodup_cons.mpr ⟨?_, ih distinctLater⟩
        intro nameMem
        obtain ⟨other, otherMem, sameName⟩ := List.mem_map.mp nameMem
        rcases mem_putField otherMem with known | rfl
        · exact isNew (List.mem_map.mpr ⟨other, known, sameName⟩)
        · exact isOther (beq_iff_eq.mpr sameName.symm)

/-- What the reading functions find with some fuel are documents. -/
structure ReadsDocuments (fuel : Nat) : Prop where
  value : ∀ (depth : Nat) (text : List Char) (value : Value) (rest : List Char),
    readValue fuel depth text = some (value, rest) → IsDocument isPlain depth value
  items : ∀ (depth : Nat) (text : List Char) (items : List Value) (rest : List Char),
    readItems fuel depth text = some (items, rest) →
      ∀ item ∈ items, IsDocument isPlain depth item
  fields : ∀ (depth : Nat) (earlier : List (String × Value)) (text : List Char) (value : Value)
    (rest : List Char), (earlier.map (·.1)).Nodup →
      (∀ field ∈ earlier, IsDocument isPlain depth field.2) →
      readFields fuel depth (earlier.map named) text = some (value, rest) →
      IsDocument isPlain (depth + 1) value

section Step

variable {fuel depth : Nat} {text rest : List Char} {value : Value}

theorem ReadsDocuments.value_succ (reads : ReadsDocuments fuel)
    (isRead : readValue (fuel + 1) depth text = some (value, rest)) :
    IsDocument isPlain depth value := by
  unfold readValue at isRead
  split at isRead
  · split at isRead
    · obtain ⟨rfl, -⟩ := Prod.mk.inj (Option.some.inj isRead)
      exact .noItems
    · cases depth with
      | zero => cases isRead
      | succ depth =>
          rw [if_neg (by simp)] at isRead
          obtain ⟨⟨items, after⟩, areRead, same⟩ := Option.map_eq_some_iff.mp isRead
          obtain ⟨rfl, -⟩ := Prod.mk.inj same
          exact .list (reads.items depth _ items after areRead)
  · split at isRead
    · obtain ⟨rfl, -⟩ := Prod.mk.inj (Option.some.inj isRead)
      exact .noFields
    · cases depth with
      | zero => cases isRead
      | succ depth =>
          rw [if_neg (by simp)] at isRead
          exact reads.fields depth [] _ value rest List.nodup_nil (by simp) isRead
  · exact .leaf (isPlain_of_readPlain isRead)

theorem ReadsDocuments.items_succ (reads : ReadsDocuments fuel) {items : List Value}
    (isRead : readItems (fuel + 1) depth text = some (items, rest)) :
    ∀ item ∈ items, IsDocument isPlain depth item := by
  unfold readItems at isRead
  split at isRead
  · cases isRead
  · rename_i first after firstRead
    have isDocument := reads.value depth text first after firstRead
    split at isRead
    · obtain ⟨rfl, -⟩ := Prod.mk.inj (Option.some.inj isRead)
      simpa using isDocument
    · obtain ⟨⟨others, afterOthers⟩, areRead, same⟩ := Option.map_eq_some_iff.mp isRead
      obtain ⟨rfl, -⟩ := Prod.mk.inj same
      exact List.forall_mem_cons.mpr ⟨isDocument, reads.items depth _ others afterOthers areRead⟩
    · cases isRead

theorem ReadsDocuments.fields_succ (reads : ReadsDocuments fuel)
    {earlier : List (String × Value)} (distinct : (earlier.map (·.1)).Nodup)
    (documents : ∀ field ∈ earlier, IsDocument isPlain depth field.2)
    (isRead : readFields (fuel + 1) depth (earlier.map named) text = some (value, rest)) :
    IsDocument isPlain (depth + 1) value := by
  unfold readFields at isRead
  split at isRead
  · split at isRead
    · cases isRead
    · rename_i name afterName nameRead
      split at isRead
      · split at isRead
        · cases isRead
        · rename_i fieldValue afterValue valueRead
          have isDocument := reads.value depth _ fieldValue afterValue valueRead
          have nowDistinct := nodup_putField (String.ofList name) fieldValue distinct
          have nowDocuments : ∀ field ∈ putField (String.ofList name) fieldValue earlier,
              IsDocument isPlain depth field.2 := by
            intro field fieldMem
            rcases mem_putField fieldMem with known | rfl
            · exact documents field known
            · exact isDocument
          dsimp only at isRead
          rw [setField_map_named] at isRead
          split at isRead
          · obtain ⟨rfl, -⟩ := Prod.mk.inj (Option.some.inj isRead)
            exact .mapping nowDistinct nowDocuments
          · exact reads.fields depth _ _ value rest nowDistinct nowDocuments isRead
          · cases isRead
      · cases isRead
  · cases isRead

end Step

theorem readsDocuments (fuel : Nat) : ReadsDocuments fuel := by
  induction fuel with
  | zero =>
      refine ⟨?_, ?_, ?_⟩
      · intro depth text value rest isRead
        rw [readValue] at isRead
        cases isRead
      · intro depth text items rest isRead
        rw [readItems] at isRead
        cases isRead
      · intro depth earlier text value rest _ _ isRead
        rw [readFields] at isRead
        cases isRead
  | succ fuel ih =>
      exact ⟨fun _ _ _ _ => ih.value_succ, fun _ _ _ _ => ih.items_succ,
        fun _ _ _ _ _ => ih.fields_succ⟩

theorem isDocument_of_read? {depth : Nat} {text : String} {value : Value}
    (isRead : read? depth text = some value) : IsDocument isPlain depth value := by
  unfold read? at isRead
  dsimp only at isRead
  split at isRead
  · rename_i found rest foundRead
    split at isRead
    · cases isRead
      exact (readsDocuments _).value _ _ _ _ foundRead
    · cases isRead
  · cases isRead

end Read

end Phrasebook.Json
