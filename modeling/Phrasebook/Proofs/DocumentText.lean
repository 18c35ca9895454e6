import Phrasebook.Exchange.Validation
import Phrasebook.Proofs.Nesting
import Phrasebook.Proofs.Outcome

/-!
# Documents for editing as text

A document is laid out as JSON and read back as it was, unless it is nested
deeper than JSON is read.  What is accepted stands for a document that is
nested no deeper than what it was read from.
-/

namespace Phrasebook.Exchange

/-! ## Checks that accept -/

section Accept

variable {α β γ : Type} {name : String} {value : Value} {found : α}

theorem Checked.both_eq_ok_iff {combine : α → β → γ} {left : Checked α} {right : Checked β}
    {whole : γ} :
    Checked.both combine left right = .ok whole ↔
      ∃ front back, left = .ok front ∧ right = .ok back ∧ combine front back = whole := by
  cases left <;> cases right <;> simp [Checked.both]

theorem Checked.all_eq_ok_iff {index : Nat} {all : List (Checked α)} {found : List α} :
    Checked.all index all = .ok found ↔ all = found.map .ok := by
  induction all generalizing index found with
  | nil => cases found <;> simp [Checked.all]
  | cons first others ih =>
      simp only [Checked.all, Checked.both_eq_ok_iff, Checked.under, mapError_eq_ok_iff, ih]
      cases found <;> simp

theorem required_eq_ok_iff {check : Value → Checked α} :
    required name check value = .ok found ↔
      ∃ field, value.field? name = some field ∧ check field = .ok found := by
  rw [required, Checked.under, mapError_eq_ok_iff]
  cases value.field? name <;> simp [Checked.fail]

theorem optional_eq_ok_iff {default : α} {check : Value → Checked α} :
    optional name default check value = .ok found ↔
      (∃ field, value.field? name = some field ∧ check field = .ok found) ∨
        value.field? name = none ∧ default = found := by
  rw [optional, Checked.under, mapError_eq_ok_iff]
  cases value.field? name <;> simp

theorem checkObject_eq_ok_iff {check : Value → Checked α} :
    checkObject check value = .ok found ↔
      (∃ entries, value = .mapping entries) ∧ check value = .ok found := by
  cases value <;> simp [checkObject, Checked.fail]

theorem exists_check_of_checkTagged {checks : List (String × (Value → Checked α))}
    (accepted : checkTagged checks value = .ok found) :
    ∃ check ∈ checks.map (·.2), check value = .ok found := by
  unfold checkTagged at accepted
  split at accepted
  · split at accepted
    · contradiction
    · split at accepted
      · rename_i check isCheck
        obtain ⟨before, after, areChecks, -⟩ := List.lookup_eq_some_iff.mp isCheck
        exact ⟨check, by simp [areChecks], mapError_eq_ok_iff.mp accepted⟩
      · contradiction
    · contradiction
  · contradiction

end Accept

/-! ## Fields -/

section Fields

variable {entries : List (String × Value)}

theorem field?_fields (name : String) : (fields entries).field? name = entries.lookup name := by
  induction entries with
  | nil => rfl
  | cons entry entries ih =>
      obtain ⟨key, value⟩ := entry
      by_cases isName : key = name
      · simp [fields, Value.field?, Value.isText, isName]
      · have isOther : (name == key) = false := beq_false_of_ne (Ne.symm isName)
        simpa [fields, Value.field?, Value.isText, List.lookup_cons, isName, isOther] using ih

theorem nesting_fields_le_iff {depth : Nat} :
    (fields entries).nesting ≤ depth ↔ ∀ entry ∈ entries, entry.2.nesting < depth := by
  rw [fields, Value.nesting, Value.nestingFields_le_iff, List.forall_mem_map]
  rfl

theorem nesting_fields_pos {entry : String × Value} : 0 < (fields (entry :: entries)).nesting :=
  (Nat.zero_le _).trans_lt (nesting_fields_le_iff.mp le_rfl entry List.mem_cons_self)

theorem isDocument_fields (distinct : (entries.map (·.1)).Nodup)
    (each : ∀ entry ∈ entries, Json.IsDocument Json.isScalar entry.2.nesting entry.2) :
    Json.IsDocument Json.isScalar (fields entries).nesting (fields entries) :=
  Json.isDocument_mapping distinct each

end Fields

/-! ## Taking values up -/

/-- A check takes up the values that stand for things and are nested no deeper than given, and
whatever it takes up is nested at least as deep as the value that stands for the result. -/
structure TakesUp {α : Type} (limit : Nat) (toValue : α → Value) (check : Value → Checked α) :
    Prop where
  accepts : ∀ thing, (toValue thing).nesting ≤ limit → check (toValue thing) = .ok thing
  nesting_le : ∀ value thing, check value = .ok thing → (toValue thing).nesting ≤ value.nesting

namespace TakesUp

variable {α : Type} {limit : Nat} {toValue : α → Value} {check : Value → Checked α}
  {name : String} {value : Value} {thing default : α}

theorem accepts_field (takesUp : TakesUp limit toValue check)
    (isField : value.field? name = some (toValue thing)) (fits : value.nesting ≤ limit + 1) :
    check (toValue thing) = .ok thing := by
  apply takesUp.accepts
  have deeper := Value.nesting_lt_of_field? isField
  omega

theorem required_eq_ok (takesUp : TakesUp limit toValue check)
    (isField : value.field? name = some (toValue thing)) (fits : value.nesting ≤ limit + 1) :
    required name check value = .ok thing :=
  required_eq_ok_iff.mpr ⟨_, isField, takesUp.accepts_field isField fits⟩

theorem optional_eq_ok (takesUp : TakesUp limit toValue check)
    (isField : value.field? name = some (toValue thing)) (fits : value.nesting ≤ limit + 1) :
    optional name default check value = .ok thing :=
  optional_eq_ok_iff.mpr (.inl ⟨_, isField, takesUp.accepts_field isField fits⟩)

theorem nesting_lt_of_field (takesUp : TakesUp limit toValue check) {field : Value}
    (isField : value.field? name = some field) (accepted : check field = .ok thing) :
    (toValue thing).nesting < value.nesting := by
  have shallow := takesUp.nesting_le field thing accepted
  have deeper := Value.nesting_lt_of_field? isField
  omega

theorem nesting_lt_of_required (takesUp : TakesUp limit toValue check)
    (accepted : required name check value = .ok thing) :
    (toValue thing).nesting < value.nesting := by
  obtain ⟨field, isField, isThing⟩ := required_eq_ok_iff.mp accepted
  exact takesUp.nesting_lt_of_field isField isThing

theorem nesting_lt_of_optional (takesUp : TakesUp limit toValue check)
    (accepted : optional name default check value = .ok thing)
    (isDeeper : (toValue default).nesting < value.nesting) :
    (toValue thing).nesting < value.nesting := by
  rcases optional_eq_ok_iff.mp accepted with ⟨field, isField, isThing⟩ | ⟨-, rfl⟩
  · exact takesUp.nesting_lt_of_field isField isThing
  · exact isDeeper

/-- A list is taken up if its items are. -/
theorem list (takesUp : TakesUp limit toValue check) :
    TakesUp limit (fun things => .list (things.map toValue)) (checkList check) := by
  refine ⟨?_, ?_⟩
  · intro things fits
    rw [checkList, Checked.all_eq_ok_iff, List.map_map]
    apply List.map_congr_left
    intro thing thingMem
    have deeper := Value.nesting_lt_of_mem (List.mem_map_of_mem (f := toValue) thingMem)
    exact takesUp.accepts thing (by omega)
  · intro value things accepted
    cases value with
    | list items =>
        rw [checkList, Checked.all_eq_ok_iff] at accepted
        rw [Value.nesting, Value.nestingAll_le_iff, List.forall_mem_map]
        intro thing thingMem
        have isOk : Except.ok thing ∈ items.map check := by
          rw [accepted]
          exact List.mem_map_of_mem thingMem
        obtain ⟨item, itemMem, isThing⟩ := List.mem_map.mp isOk
        exact (takesUp.nesting_le item thing isThing).trans_lt (Value.nesting_lt_of_mem itemMem)
    | null | truth | integer | decimal | text | bytes | mapping | other => contradiction

/-- A thing or nothing is taken up if the thing is, unless nothing stands for a thing. -/
theorem orNull (takesUp : TakesUp limit toValue check) (notNull : ∀ thing, toValue thing ≠ .null) :
    TakesUp limit (fun thing? => (thing?.map toValue).getD .null) (checkOptional check) := by
  refine ⟨?_, ?_⟩
  · intro thing? fits
    cases thing? with
    | none => rfl
    | some thing =>
        have isThing := takesUp.accepts thing fits
        rw [Option.map_some, Option.getD_some, checkOptional]
        · rw [isThing]
          rfl
        · exact notNull thing
  · intro value thing? accepted
    unfold checkOptional at accepted
    split at accepted
    · obtain rfl := Except.ok.inj accepted
      exact Nat.zero_le _
    · obtain ⟨thing, isThing, rfl⟩ := map_eq_ok_iff.mp accepted
      exact takesUp.nesting_le _ thing isThing

end TakesUp

theorem takesUp_text (limit : Nat) : TakesUp limit Value.text checkText :=
  ⟨fun _ _ => rfl, fun _ _ _ => Nat.zero_le _⟩

theorem takesUp_truth (limit : Nat) : TakesUp limit Value.truth checkTruth :=
  ⟨fun _ _ => rfl, fun _ _ _ => Nat.zero_le _⟩

/-! ## Parts of documents -/

theorem takesUp_attributeValue (limit : Nat) :
    TakesUp limit AttributeValue.toValue checkAttributeValue := by
  refine ⟨?_, ?_⟩
  · intro content fits
    cases content with
    | text quote characters => cases quote <;> rfl
    | code source => rfl
  · intro value content accepted
    obtain ⟨check, checkMem, accepted⟩ := exists_check_of_checkTagged accepted
    simp only [List.map_cons, List.map_nil, List.mem_cons, List.not_mem_nil, or_false] at checkMem
    rcases checkMem with rfl | rfl
    · obtain ⟨quote, characters, -, isText, rfl⟩ := Checked.both_eq_ok_iff.mp accepted
      have deeper := (takesUp_text limit).nesting_lt_of_required isText
      simpa [AttributeValue.toValue, nesting_fields_le_iff, Value.nesting] using deeper
    · obtain ⟨source, isCode, rfl⟩ := map_eq_ok_iff.mp accepted
      have deeper := (takesUp_text limit).nesting_lt_of_required isCode
      simpa [AttributeValue.toValue, nesting_fields_le_iff, Value.nesting] using deeper

theorem AttributeValue.toValue_ne_null (content : AttributeValue) : content.toValue ≠ .null := by
  cases content <;> (intro isNull; cases isNull)

theorem takesUp_attribute (limit : Nat) : TakesUp limit Attribute.toValue checkAttribute := by
  have takesUpContent :=
    (takesUp_attributeValue limit).orNull AttributeValue.toValue_ne_null
  refine ⟨?_, ?_⟩
  · intro entry fits
    have fitsBelow : entry.toValue.nesting ≤ limit + 1 := by omega
    refine checkObject_eq_ok_iff.mpr ⟨⟨_, rfl⟩, Checked.both_eq_ok_iff.mpr ⟨_, _, ?_, ?_, rfl⟩⟩
    · exact (takesUp_text limit).required_eq_ok (field?_fields "name") fitsBelow
    · exact takesUpContent.optional_eq_ok (field?_fields "value") fitsBelow
  · intro value entry accepted
    obtain ⟨-, accepted⟩ := checkObject_eq_ok_iff.mp accepted
    obtain ⟨name, content?, isName, isContent, rfl⟩ := Checked.both_eq_ok_iff.mp accepted
    have deeper := (takesUp_text limit).nesting_lt_of_required isName
    have contentDeeper := takesUpContent.nesting_lt_of_optional isContent deeper
    rw [Attribute.toValue, nesting_fields_le_iff, List.forall_mem_cons, List.forall_mem_singleton]
    exact ⟨deeper, contentDeeper⟩

theorem nodeValues_eq_map (nodes : List Node) : nodeValues nodes = nodes.map Node.toValue := by
  induction nodes with
  | nil => rfl
  | cons node nodes ih => rw [nodeValues, ih, List.map_cons]

/-- Nodes are taken up as deep as they are checked. -/
theorem takesUp_node (limit : Nat) : TakesUp limit Node.toValue (checkNode limit) := by
  induction limit with
  | zero =>
      refine ⟨?_, ?_⟩
      · intro node fits
        have deeper : 0 < node.toValue.nesting := by
          cases node with
          | text | code | tag =>
              rw [Node.toValue]
              exact nesting_fields_pos
        omega
      · intro value node accepted
        contradiction
  | succ limit ih =>
      have takesUpAttributes := (takesUp_attribute limit).list
      refine ⟨?_, ?_⟩
      · intro node fits
        cases node with
        | text characters => rfl
        | code source => rfl
        | tag name attributes children =>
            rw [Node.toValue, nodeValues_eq_map] at fits ⊢
            refine mapError_eq_ok_iff.mpr (Checked.both_eq_ok_iff.mpr
              ⟨name, (attributes, children), ?_, Checked.both_eq_ok_iff.mpr
                ⟨attributes, children, ?_, ?_, rfl⟩, rfl⟩)
            · exact (takesUp_text limit).required_eq_ok (field?_fields "name") fits
            · exact takesUpAttributes.optional_eq_ok (field?_fields "attributes") fits
            · exact ih.list.optional_eq_ok (field?_fields "children") fits
      · intro value node accepted
        obtain ⟨check, checkMem, accepted⟩ := exists_check_of_checkTagged accepted
        simp only [List.map_cons, List.map_nil, List.mem_cons, List.not_mem_nil, or_false]
          at checkMem
        rcases checkMem with rfl | rfl | rfl
        · obtain ⟨characters, isText, rfl⟩ := map_eq_ok_iff.mp accepted
          have deeper := (takesUp_text limit).nesting_lt_of_required isText
          simpa [Node.toValue, nesting_fields_le_iff, Value.nesting] using deeper
        · obtain ⟨source, isCode, rfl⟩ := map_eq_ok_iff.mp accepted
          have deeper := (takesUp_text limit).nesting_lt_of_required isCode
          simpa [Node.toValue, nesting_fields_le_iff, Value.nesting] using deeper
        · obtain ⟨name, rest, isName, areRest, rfl⟩ := Checked.both_eq_ok_iff.mp accepted
          obtain ⟨attributes, children, areAttributes, areChildren, rfl⟩ :=
            Checked.both_eq_ok_iff.mp areRest
          have deeper := (takesUp_text limit).nesting_lt_of_required isName
          have attributesDeeper := takesUpAttributes.nesting_lt_of_optional areAttributes deeper
          have childrenDeeper := ih.list.nesting_lt_of_optional areChildren deeper
          rw [Node.toValue, nodeValues_eq_map, nesting_fields_le_iff, List.forall_mem_cons,
            List.forall_mem_cons, List.forall_mem_cons, List.forall_mem_singleton]
          exact ⟨deeper, deeper, attributesDeeper, childrenDeeper⟩

theorem takesUp_wording : TakesUp depthLimit Wording.toValue checkWording := by
  have takesUpSlots := (takesUp_node depthLimit).list.list
  refine ⟨?_, ?_⟩
  · intro wording fits
    simp only [Wording.toValue, nodeValues_eq_map] at fits ⊢
    have fitsBelow := fits.trans (Nat.le_succ depthLimit)
    refine checkObject_eq_ok_iff.mpr ⟨⟨_, rfl⟩, Checked.both_eq_ok_iff.mpr ⟨_, _, ?_, ?_, rfl⟩⟩
    · exact (takesUp_text depthLimit).required_eq_ok (field?_fields "lang") fitsBelow
    · exact takesUpSlots.optional_eq_ok (field?_fields "markers") fitsBelow
  · intro value wording accepted
    obtain ⟨-, accepted⟩ := checkObject_eq_ok_iff.mp accepted
    obtain ⟨language, slots, isLanguage, areSlots, rfl⟩ := Checked.both_eq_ok_iff.mp accepted
    have deeper := (takesUp_text depthLimit).nesting_lt_of_required isLanguage
    have slotsDeeper := takesUpSlots.nesting_lt_of_optional areSlots deeper
    simp only [Wording.toValue, nodeValues_eq_map]
    rw [nesting_fields_le_iff, List.forall_mem_cons, List.forall_mem_singleton]
    exact ⟨deeper, slotsDeeper⟩

theorem takesUp_item : TakesUp depthLimit Item.toValue checkItem := by
  have takesUpWordings := takesUp_wording.list
  have takesUpIsNew := (takesUp_truth depthLimit).orNull fun _ => Value.noConfusion
  refine ⟨?_, ?_⟩
  · intro item fits
    have fitsBelow := fits.trans (Nat.le_succ depthLimit)
    refine checkObject_eq_ok_iff.mpr ⟨⟨_, rfl⟩, Checked.both_eq_ok_iff.mpr
      ⟨(item.key, item.isNew?), (item.isDeleted, item.wordings), Checked.both_eq_ok_iff.mpr
        ⟨_, _, ?_, ?_, rfl⟩, Checked.both_eq_ok_iff.mpr ⟨_, _, ?_, ?_, rfl⟩, rfl⟩⟩
    · exact (takesUp_text depthLimit).required_eq_ok (field?_fields "key") fitsBelow
    · exact takesUpIsNew.optional_eq_ok (field?_fields "is_new") fitsBelow
    · exact (takesUp_truth depthLimit).optional_eq_ok (field?_fields "is_deleted") fitsBelow
    · exact takesUpWordings.optional_eq_ok (field?_fields "translations") fitsBelow
  · intro value item accepted
    obtain ⟨-, accepted⟩ := checkObject_eq_ok_iff.mp accepted
    obtain ⟨front, back, isFront, isBack, rfl⟩ := Checked.both_eq_ok_iff.mp accepted
    obtain ⟨key, isNew?, isKey, isNew, rfl⟩ := Checked.both_eq_ok_iff.mp isFront
    obtain ⟨isDeleted, wordings, -, areWordings, rfl⟩ := Checked.both_eq_ok_iff.mp isBack
    have deeper := (takesUp_text depthLimit).nesting_lt_of_required isKey
    have isNewDeeper := takesUpIsNew.nesting_lt_of_optional isNew deeper
    have wordingsDeeper := takesUpWordings.nesting_lt_of_optional areWordings deeper
    rw [Item.toValue, nesting_fields_le_iff, List.forall_mem_cons, List.forall_mem_cons,
      List.forall_mem_cons, List.forall_mem_singleton]
    exact ⟨deeper, isNewDeeper, deeper, wordingsDeeper⟩

theorem checkDocument_toValue {document : Document}
    (fits : document.toValue.nesting ≤ depthLimit) :
    checkDocument document.toValue = .ok document := by
  refine checkObject_eq_ok_iff.mpr ⟨⟨_, rfl⟩, map_eq_ok_iff.mpr ⟨document.items, ?_, rfl⟩⟩
  exact takesUp_item.list.optional_eq_ok (field?_fields "entries")
    (fits.trans (Nat.le_succ depthLimit))

/-- Only a document without items may stand for an object without fields. -/
theorem nesting_le_of_checkDocument {value : Value} {document : Document}
    (accepted : checkDocument value = .ok document) :
    document.toValue.nesting ≤ max 1 value.nesting := by
  obtain ⟨-, accepted⟩ := checkObject_eq_ok_iff.mp accepted
  obtain ⟨items, areItems, rfl⟩ := map_eq_ok_iff.mp accepted
  rw [Document.toValue, nesting_fields_le_iff, List.forall_mem_singleton]
  rcases optional_eq_ok_iff.mp areItems with ⟨field, isField, accepted⟩ | ⟨-, rfl⟩
  · exact (takesUp_item.list.nesting_lt_of_field isField accepted).trans_le (le_max_right _ _)
  · exact lt_max_of_lt_left Nat.zero_lt_one

/-! ## Documents as values -/

section Documents

open Json (IsDocument isScalar)

theorem isDocument_map {α : Type} {toValue : α → Value}
    (each : ∀ thing, IsDocument isScalar (toValue thing).nesting (toValue thing))
    (things : List α) :
    IsDocument isScalar (Value.list (things.map toValue)).nesting (.list (things.map toValue)) :=
  Json.isDocument_list (List.forall_mem_map.mpr fun thing _ => each thing)

theorem AttributeValue.isDocument_toValue (content : AttributeValue) :
    IsDocument isScalar content.toValue.nesting content.toValue := by
  cases content with
  | text quote characters =>
      apply isDocument_fields (by simp)
      rw [List.forall_mem_cons, List.forall_mem_cons, List.forall_mem_singleton]
      exact ⟨.leaf rfl, .leaf rfl, .leaf rfl⟩
  | code source =>
      apply isDocument_fields (by simp)
      rw [List.forall_mem_cons, List.forall_mem_singleton]
      exact ⟨.leaf rfl, .leaf rfl⟩

theorem Attribute.isDocument_toValue (entry : Attribute) :
    IsDocument isScalar entry.toValue.nesting entry.toValue := by
  apply isDocument_fields (by simp)
  rw [List.forall_mem_cons, List.forall_mem_singleton]
  refine ⟨.leaf rfl, ?_⟩
  cases entry.value? with
  | none => exact .leaf rfl
  | some content => exact content.isDocument_toValue

mutual

theorem Node.isDocument_toValue (node : Node) :
    IsDocument isScalar node.toValue.nesting node.toValue := by
  cases node with
  | text characters =>
      apply isDocument_fields (by simp)
      rw [List.forall_mem_cons, List.forall_mem_singleton]
      exact ⟨.leaf rfl, .leaf rfl⟩
  | code source =>
      apply isDocument_fields (by simp)
      rw [List.forall_mem_cons, List.forall_mem_singleton]
      exact ⟨.leaf rfl, .leaf rfl⟩
  | tag name attributes children =>
      rw [Node.toValue]
      apply isDocument_fields (by simp)
      rw [List.forall_mem_cons, List.forall_mem_cons, List.forall_mem_cons,
        List.forall_mem_singleton]
      exact ⟨.leaf rfl, .leaf rfl, isDocument_map Attribute.isDocument_toValue attributes,
        Json.isDocument_list (isDocument_nodeValues children)⟩

theorem isDocument_nodeValues (nodes : List Node) :
    ∀ value ∈ nodeValues nodes, IsDocument isScalar value.nesting value := by
  cases nodes with
  | nil => simp [nodeValues]
  | cons node nodes =>
      rw [nodeValues]
      exact List.forall_mem_cons.mpr ⟨node.isDocument_toValue, isDocument_nodeValues nodes⟩

end

theorem Wording.isDocument_toValue (wording : Wording) :
    IsDocument isScalar wording.toValue.nesting wording.toValue := by
  apply isDocument_fields (by simp)
  rw [List.forall_mem_cons, List.forall_mem_singleton]
  refine ⟨.leaf rfl, isDocument_map ?_ wording.slots⟩
  exact fun nodes => Json.isDocument_list (isDocument_nodeValues nodes)

theorem Item.isDocument_toValue (item : Item) :
    IsDocument isScalar item.toValue.nesting item.toValue := by
  apply isDocument_fields (by simp)
  rw [List.forall_mem_cons, List.forall_mem_cons, List.forall_mem_cons, List.forall_mem_singleton]
  refine ⟨.leaf rfl, ?_, .leaf rfl, isDocument_map Wording.isDocument_toValue item.wordings⟩
  cases item.isNew? <;> exact .leaf rfl

theorem Document.isDocument_toValue (document : Document) :
    IsDocument isScalar document.toValue.nesting document.toValue := by
  apply isDocument_fields (by simp)
  rw [List.forall_mem_singleton]
  exact isDocument_map Item.isDocument_toValue document.items

end Documents

/-! ## Documents as text -/

/-- A document that was written is the one that is read if it is nested no deeper than JSON is
read, and is refused otherwise. -/
theorem Document.read_write {ending : String} (isEnding : ending ∈ ["", "\n"])
    (document : Document) :
    Document.read (Json.write false document.toValue ++ ending) =
      if document.toValue.nesting ≤ depthLimit then .ok document
      else Checked.fail .notJson := by
  have follows : Json.CanFollow ending.toList ∧ Json.skipBlanks ending.toList = [] := by
    simp only [List.mem_cons, List.not_mem_nil, or_false] at isEnding
    rcases isEnding with rfl | rfl
    · exact ⟨fun _ isFirst => by simp at isFirst, rfl⟩
    · exact ⟨Json.canFollow_newLine 0 [], rfl⟩
  rw [Document.read, Json.read?_write_eq_ite document.isDocument_toValue follows.1 follows.2]
  by_cases fits : document.toValue.nesting ≤ depthLimit
  · rw [if_pos fits, if_pos fits]
    exact checkDocument_toValue fits
  · rw [if_neg fits, if_neg fits]

/-- What is read is nested no deeper than JSON is read. -/
theorem Document.nesting_le_of_read {text : String} {document : Document}
    (isRead : Document.read text = .ok document) : document.toValue.nesting ≤ depthLimit := by
  unfold Document.read at isRead
  split at isRead
  · rename_i value isValue
    have shallow := (Json.isDocument_of_read? isValue).nesting_le fun _ isPlain => isPlain
    exact (nesting_le_of_checkDocument isRead).trans (max_le (by decide) shallow)
  · contradiction

/-- Documents survive as text: every document that is nested no deeper than JSON is read is the one
that is read from its text, and so is every document that was itself read from a text. -/
theorem readsBack_documents :
    (∀ (document : Document) (ending : String), ending ∈ ["", "\n"] →
      Document.read (Json.write false document.toValue ++ ending) =
        if document.toValue.nesting ≤ depthLimit then .ok document
        else Checked.fail .notJson) ∧
    ∀ (text : String) (document : Document) (ending : String), ending ∈ ["", "\n"] →
      Document.read text = .ok document →
        Document.read (Json.write false document.toValue ++ ending) = .ok document := by
  refine ⟨fun document ending isEnding => document.read_write isEnding, ?_⟩
  intro text document ending isEnding isRead
  rw [document.read_write isEnding, if_pos (Document.nesting_le_of_read isRead)]

/-- A tag in an item that says in a number that it is new; the rest is left to be filled in. -/
def Document.exampleText : String :=
  "\x7b\"entries\":[\x7b\"key\":\"a\",\"is_new\":1,\"translations\":[\x7b\"lang\":\"b\"," ++
    "\"markers\":[[\x7b\"type\":\"tag\",\"name\":\"c\"\x7d]]\x7d]\x7d]\x7d"

theorem readsBack_documents_exampleText :
    ∃ document, Document.read Document.exampleText = .ok document ∧
      document.items.map (fun item => (item.key, item.isNew?, item.isDeleted)) =
        [("a", some true, false)] ∧
      Document.read (Json.write false document.toValue ++ "\n") = .ok document := by
  have found : (Document.read Document.exampleText).toOption.map (fun document =>
      document.items.map fun item => (item.key, item.isNew?, item.isDeleted)) =
        some [("a", some true, false)] := by
    decide +kernel
  obtain ⟨document, isDocument, areItems⟩ := Option.map_eq_some_iff.mp found
  have isRead := toOption_eq_some_iff.mp isDocument
  exact ⟨document, isRead, areItems, readsBack_documents.2 _ document "\n" (by decide) isRead⟩

/-- A text inside as many tags. -/
def Node.inTags : Nat → Node
  | 0 => .text "c"
  | depth + 1 => .tag "d" [] [inTags depth]

def Document.inTags (depth : Nat) : Document :=
  ⟨[⟨"a", none, false, [⟨"b", [[Node.inTags depth]]⟩]⟩]⟩

theorem Node.nesting_inTags (depth : Nat) :
    (Node.inTags depth).toValue.nesting = 2 * depth + 1 := by
  induction depth with
  | zero => rfl
  | succ depth ih =>
      simp [inTags, toValue, nodeValues, fields, Value.nesting, Value.nestingFields,
        Value.nestingAll, ih]
      omega

/-- Every tag adds an object and the list of its children. -/
theorem Document.nesting_inTags (depth : Nat) :
    (Document.inTags depth).toValue.nesting = 2 * depth + 8 := by
  simp [inTags, toValue, Item.toValue, Wording.toValue, nodeValues, fields, Value.nesting,
    Value.nestingFields, Value.nestingAll, Node.nesting_inTags]

/-- A hundred tags inside one another are too many to be read back. -/
theorem Document.read_write_inTags :
    Document.read (Json.write false (Document.inTags 100).toValue) ≠
      .ok (Document.inTags 100) := by
  have isEnding : "" ∈ ["", "\n"] := List.mem_cons_self
  have refused := Document.read_write isEnding (Document.inTags 100)
  rw [String.append_empty, Document.nesting_inTags, if_neg (by decide)] at refused
  rw [refused]
  simp [Checked.fail]

end Phrasebook.Exchange
