import Phrasebook.Proofs.History

/-!
# What an import fills

An import looks at the slots of a body before it fills one and again when all
are filled.  So a body that it stores is one with as many slots as the wording
lists, and a body that would be another one ends the import instead.
-/

namespace Phrasebook.Exchange

open Book (IsRefilled)

/-- The body of a rendering has a number of slots, of which there is only one in an expression. -/
structure HasSlots (marker : String) (count : Nat) (rendering : Rendering) : Prop where
  slots : ∃ slots, slots? marker rendering.body = some slots ∧ slots.length = count
  single : rendering.form = .expression → count = 1

/-! ## One rendering -/

section Rendering

variable {indent key marker : String} {rendering filled : Rendering} {expected : Nat}

theorem slotSpans_eq_ok {body : String} {spans : List (Nat × Nat)}
    (done : slotSpans marker body = .ok spans) :
    ∃ slots, slots? marker body = some slots ∧ slots.length = spans.length := by
  unfold slotSpans at done
  cases isParsed : slots? marker body with
  | none =>
      rw [isParsed] at done
      contradiction
  | some slots =>
      rw [isParsed] at done
      obtain rfl := Except.ok.inj done
      exact ⟨slots, rfl, by simp⟩

theorem hasSlots_of_locate {body : String} {spans : List (Nat × Nat)}
    (done : locate key marker expected rendering body = .ok spans) :
    HasSlots marker expected { rendering with body } := by
  unfold locate at done
  obtain ⟨found, isFound, done⟩ := bind_eq_ok_iff.mp done
  obtain ⟨slots, isParsed, sameLength⟩ := slotSpans_eq_ok isFound
  by_cases sameCount : found.length = expected
  · by_cases single : rendering.form = .expression → expected = 1
    · exact ⟨⟨slots, isParsed, sameLength.trans sameCount⟩, single⟩
    · have refused : (rendering.form == .expression && expected != 1) = true := by
        simpa using single
      simp [sameCount, refused, bind, Except.bind] at done
  · simp [sameCount, bind, Except.bind] at done

/-- A body that can be filled has as many slots as there are to fill, and so has the filled one. -/
theorem hasSlots_of_fillFrom {index : Nat} {slots : List (List Node)} {body last : String}
    (done : fillFrom indent key marker expected rendering index slots body = .ok last) :
    HasSlots marker expected { rendering with body } ∧
      HasSlots marker expected { rendering with body := last } := by
  induction slots generalizing index body with
  | nil =>
      obtain ⟨spans, isLocated, done⟩ := bind_eq_ok_iff.mp done
      obtain rfl := Except.ok.inj done
      have hasSlots := hasSlots_of_locate isLocated
      exact ⟨hasSlots, hasSlots⟩
  | cons nodes slots ih =>
      obtain ⟨spans, isLocated, done⟩ := bind_eq_ok_iff.mp done
      exact ⟨hasSlots_of_locate isLocated, (ih done).2⟩

theorem hasSlots_of_fill {slots : List (List Node)}
    (done : fill indent key marker rendering slots = .ok filled) :
    HasSlots marker slots.length rendering ∧ HasSlots marker slots.length filled := by
  obtain ⟨body, isFilled, done⟩ := bind_eq_ok_iff.mp done
  obtain rfl := Except.ok.inj done
  exact hasSlots_of_fillFrom isFilled

theorem HasSlots.unique {count other : Nat} (hasSlots : HasSlots marker count rendering)
    (hasOthers : HasSlots marker other rendering) : count = other := by
  obtain ⟨slots, isParsed, rfl⟩ := hasSlots.slots
  obtain ⟨others, isOther, rfl⟩ := hasOthers.slots
  rw [isParsed] at isOther
  rw [Option.some.inj isOther]

end Rendering

/-! ## Replacing a rendering -/

section Replace

variable {current rendering : Rendering} {renderings : List Rendering}

theorem mem_replaceRendering (isMem : rendering ∈ replaceRendering current renderings) :
    rendering = current ∨ rendering ∈ renderings := by
  induction renderings with
  | nil => cases isMem
  | cons first others ih =>
      rw [replaceRendering] at isMem
      split at isMem
      · rcases List.mem_cons.mp isMem with isCurrent | isLater
        · exact .inl isCurrent
        · exact .inr (List.mem_cons_of_mem _ isLater)
      · rcases List.mem_cons.mp isMem with rfl | isLater
        · exact .inr List.mem_cons_self
        · exact (ih isLater).imp_right (List.mem_cons_of_mem _)

/-- What is found in a language is the rendering that was put there, and in the other languages what
was found before. -/
theorem find?_replaceRendering {language : String}
    (found : (renderings.find? (·.language == current.language)).isSome = true) :
    (replaceRendering current renderings).find? (·.language == language) =
      if language = current.language then some current
      else renderings.find? (·.language == language) := by
  induction renderings with
  | nil => simp at found
  | cons first others ih =>
      rw [replaceRendering]
      by_cases isFirst : first.language = current.language
      · by_cases isSame : language = current.language
        · simp [isFirst, isSame]
        · simp [isFirst, Ne.symm isSame, isSame]
      · have foundLater : (others.find? (·.language == current.language)).isSome = true := by
          simpa [isFirst] using found
        rw [if_neg (by simpa using isFirst), List.find?_cons, ih foundLater]
        by_cases isSame : language = current.language
        · have notFirst : (first.language == language) = false := by simpa [isSame] using isFirst
          rw [notFirst, if_pos isSame, if_pos isSame]
        · rw [if_neg isSame, if_neg isSame, List.find?_cons]

/-- Only the first rendering in a language is replaced. -/
theorem getElem?_replaceRendering {index : Nat} (isThere : renderings[index]? = some rendering)
    (isOther : rendering.language ≠ current.language ∨
      rendering.language ∈ (renderings.take index).map (·.language)) :
    (replaceRendering current renderings)[index]? = some rendering := by
  induction renderings generalizing index with
  | nil => simp at isThere
  | cons first others ih =>
      rw [replaceRendering]
      cases index with
      | zero =>
          obtain rfl : first = rendering := by simpa using isThere
          have isOther : first.language ≠ current.language := by simpa using isOther
          simp [isOther]
      | succ index =>
          have isThere : others[index]? = some rendering := by simpa using isThere
          by_cases isFirst : first.language = current.language
          · simpa [isFirst] using isThere
          · have isOther : rendering.language ≠ current.language ∨
                rendering.language ∈ (others.take index).map (·.language) := by
              rcases isOther with isOther | isLater
              · exact .inl isOther
              · rw [List.take_succ_cons, List.map_cons, List.mem_cons] at isLater
                rcases isLater with sameAsFirst | isLater
                · exact .inl (sameAsFirst ▸ isFirst)
                · exact .inr isLater
            simpa [isFirst] using ih isThere isOther

end Replace

/-! ## One entry -/

/-- What an entry is when it has been filled with some wordings. -/
structure IsFilled (marker : String) (isNew? : Option Bool) (wordings : List Wording)
    (former current : Entry) : Prop where
  /-- All but the flag and the renderings is as it was, and so is the flag if none is given. -/
  frame : current =
    { former with isNew := isNew?.getD former.isNew, renderings := current.renderings }
  renderings : List.Forall₂ IsRefilled former.renderings current.renderings
  /-- Only the first rendering in the language of a wording can have another body. -/
  others : ∀ index rendering, former.renderings[index]? = some rendering →
    rendering.language ∉ wordings.map (·.language) ∨
      rendering.language ∈ (former.renderings.take index).map (·.language) →
    current.renderings[index]? = some rendering
  slots : ∀ wording ∈ wordings, ∀ rendering, current.rendering? wording.language = some rendering →
    HasSlots marker wording.slots.length rendering
  /-- No body is stored without the slots of a wording in its language. -/
  stored : ∀ rendering ∈ current.renderings, rendering ∈ former.renderings ∨
    ∃ wording ∈ wordings, wording.language = rendering.language ∧
      HasSlots marker wording.slots.length rendering

section Entry

variable {indent marker : String} {isNew? : Option Bool} {former : Entry} {filling : Filling}
  {done : List Wording} {wording : Wording}

theorem isFilled_nil (marker : String) (isNew? : Option Bool) (entry : Entry) :
    IsFilled marker isNew? [] entry { entry with isNew := isNew?.getD entry.isNew } where
  frame := rfl
  renderings := List.forall₂_same.mpr fun rendering _ => IsRefilled.refl rendering
  others _ _ isThere _ := isThere
  slots := nofun
  stored _ isMem := .inl isMem

/-- A wording without a rendering in its language changes nothing. -/
theorem IsFilled.skip {current : Entry} (filled : IsFilled marker isNew? done former current)
    (missing : current.rendering? wording.language = none) :
    IsFilled marker isNew? (done ++ [wording]) former current where
  frame := filled.frame
  renderings := filled.renderings
  others index rendering isThere isOther := by
    apply filled.others index rendering isThere
    refine isOther.imp_left fun notNamed named => notNamed ?_
    rw [List.map_append]
    exact List.mem_append_left _ named
  slots other otherMem rendering isFound := by
    rcases List.mem_append.mp otherMem with isDone | isLast
    · exact filled.slots other isDone rendering isFound
    · obtain rfl := List.mem_singleton.mp isLast
      rw [missing] at isFound
      contradiction
  stored rendering isMem := (filled.stored rendering isMem).imp_right
    fun ⟨other, otherMem, hasSlots⟩ => ⟨other, List.mem_append_left _ otherMem, hasSlots⟩

/-- A rendering that is filled takes the place of the former one. Where earlier wordings were in the
same language, they listed as many slots. -/
theorem IsFilled.replace {current : Entry} {key : String} {rendering refilled : Rendering}
    (filled : IsFilled marker isNew? done former current)
    (found : current.rendering? wording.language = some rendering)
    (isDone : fill indent key marker rendering wording.slots = .ok refilled) :
    IsFilled marker isNew? (done ++ [wording]) former
      { current with renderings := replaceRendering refilled current.renderings } := by
  obtain ⟨hadSlots, hasSlots⟩ := hasSlots_of_fill isDone
  have isRefilled := Book.isRefilled_of_fill isDone
  have sameLanguage : refilled.language = wording.language := by
    rw [isRefilled]
    simpa using List.find?_some found
  have isThere : (current.renderings.find? (·.language == refilled.language)).isSome = true := by
    rw [sameLanguage]
    exact Option.isSome_iff_exists.mpr ⟨rendering, found⟩
  have sameLanguages : former.renderings.map (·.language) =
      current.renderings.map (·.language) :=
    map_eq_map_of_forall₂ (filled.renderings.imp fun _ _ isRefilled => by rw [isRefilled])
  refine ⟨?_, ?_, ?_, ?_, ?_⟩
  · rw [filled.frame]
  · refine forall₂_of_common ?_ (List.Forall₂.flip filled.renderings)
      (Book.forall₂_isRefilled_replaceRendering found isRefilled)
    exact fun _ _ _ => IsRefilled.trans
  · intro index other wasThere isOther
    rw [List.map_append, List.mem_append, not_or] at isOther
    have isNow := filled.others index other wasThere (isOther.imp_left And.left)
    apply getElem?_replaceRendering isNow
    rw [List.map_take, ← sameLanguages, ← List.map_take]
    refine isOther.imp_left fun notNamed same => notNamed.2 ?_
    rw [same, sameLanguage]
    exact List.mem_singleton_self _
  · intro other otherMem next isFound
    rw [Entry.rendering?, find?_replaceRendering isThere, sameLanguage] at isFound
    by_cases same : other.language = wording.language
    · rw [if_pos same] at isFound
      obtain rfl := Option.some.inj isFound
      rcases List.mem_append.mp otherMem with isEarlier | isLast
      · have hadAsMany := filled.slots other isEarlier rendering (same ▸ found)
        rw [hadAsMany.unique hadSlots]
        exact hasSlots
      · obtain rfl := List.mem_singleton.mp isLast
        exact hasSlots
    · rw [if_neg same] at isFound
      rcases List.mem_append.mp otherMem with isEarlier | isLast
      · exact filled.slots other isEarlier next isFound
      · obtain rfl := List.mem_singleton.mp isLast
        contradiction
  · intro other otherMem
    rcases mem_replaceRendering otherMem with rfl | isOld
    · exact .inr ⟨wording, by simp, sameLanguage.symm, hasSlots⟩
    · refine (filled.stored other isOld).imp_right ?_
      rintro ⟨earlier, earlierMem, hasSlots⟩
      exact ⟨earlier, List.mem_append_left _ earlierMem, hasSlots⟩

/-- An entry at which an import ends: it is filled with the wordings before one that does not fit
the rendering in its language. -/
structure IsHalted (indent marker : String) (isNew? : Option Bool) (wordings : List Wording)
    (fault : SlotFault) (former current : Entry) : Prop where
  halts : ∃ filled wording unfilled rendering, wordings = filled ++ wording :: unfilled ∧
    IsFilled marker isNew? filled former current ∧
    current.rendering? wording.language = some rendering ∧
    fill indent former.key marker rendering wording.slots = .error fault

theorem IsFilled.key_eq {wordings : List Wording} {current : Entry}
    (filled : IsFilled marker isNew? wordings former current) : current.key = former.key := by
  rw [filled.frame]

/-- One wording more is filled in, or the import ends. -/
theorem IsFilled.fillWording (filled : IsFilled marker isNew? done former filling.entry)
    (goesOn : filling.fault? = none) (wording : Wording) :
    let next := fillWording indent marker filling wording
    (next.fault? = none ∧ IsFilled marker isNew? (done ++ [wording]) former next.entry) ∨
      ∃ fault rendering, next.fault? = some fault ∧ next.entry = filling.entry ∧
        filling.entry.rendering? wording.language = some rendering ∧
        fill indent former.key marker rendering wording.slots = .error fault := by
  intro next
  have isNext : next = Exchange.fillWording indent marker filling wording := rfl
  unfold Exchange.fillWording at isNext
  rw [goesOn] at isNext
  dsimp only at isNext
  cases found : filling.entry.rendering? wording.language with
  | none =>
      rw [found] at isNext
      exact .inl ⟨by rw [isNext], isNext ▸ filled.skip found⟩
  | some rendering =>
      rw [found] at isNext
      dsimp only at isNext
      cases outcome : fill indent filling.entry.key marker rendering wording.slots with
      | error fault =>
          rw [outcome] at isNext
          rw [filled.key_eq] at outcome
          exact .inr ⟨fault, rendering, by rw [isNext], by rw [isNext], rfl, outcome⟩
      | ok refilled =>
          rw [outcome] at isNext
          exact .inl ⟨by rw [isNext], isNext ▸ filled.replace found outcome⟩

theorem foldl_fillWording_of_fault {fault : SlotFault} (halted : filling.fault? = some fault)
    (wordings : List Wording) :
    wordings.foldl (fillWording indent marker) filling = filling := by
  induction wordings with
  | nil => rfl
  | cons wording wordings ih =>
      have kept : fillWording indent marker filling wording = filling := by
        rw [Exchange.fillWording, halted]
      rw [List.foldl_cons, kept, ih]

/-- All remaining wordings are filled in, or the import ends at one of them. -/
theorem IsFilled.foldl_fillWording (filled : IsFilled marker isNew? done former filling.entry)
    (goesOn : filling.fault? = none) (wordings : List Wording) :
    let last := wordings.foldl (Exchange.fillWording indent marker) filling
    (last.fault? = none ∧ IsFilled marker isNew? (done ++ wordings) former last.entry) ∨
      ∃ fault, last.fault? = some fault ∧
        IsHalted indent marker isNew? (done ++ wordings) fault former last.entry := by
  induction wordings generalizing filling done with
  | nil => exact .inl ⟨goesOn, by simpa using filled⟩
  | cons wording wordings ih =>
      rw [List.foldl_cons]
      rcases filled.fillWording goesOn wording with ⟨goesOn, filled⟩ | halts
      · simpa using ih filled goesOn
      · obtain ⟨fault, rendering, halted, sameEntry, found, outcome⟩ := halts
        rw [foldl_fillWording_of_fault halted]
        refine .inr ⟨fault, halted, ?_⟩
        rw [sameEntry]
        exact ⟨done, wording, wordings, rendering, rfl, filled, found, outcome⟩

theorem isFilled_or_isHalted_fillEntry (indent marker : String) (entry : Entry) (item : Item) :
    let last := fillEntry indent marker entry item
    (last.fault? = none ∧ IsFilled marker item.isNew? item.wordings entry last.entry) ∨
      ∃ fault, last.fault? = some fault ∧
        IsHalted indent marker item.isNew? item.wordings fault entry last.entry := by
  let start : Filling := { entry := { entry with isNew := item.isNew?.getD entry.isNew } }
  have filled : IsFilled marker item.isNew? [] entry start.entry :=
    isFilled_nil marker item.isNew? entry
  exact filled.foldl_fillWording rfl item.wordings

end Entry

/-! ## The whole book -/

/-- What an entry is when an import is done with it. -/
def IsUpdated (marker : String) (document : Document) (former current : Entry) : Prop :=
  match document.item? former.key with
  | none => current = former
  | some item => IsFilled marker item.isNew? item.wordings former current

/-- An entry holds no body but its former ones and such as have the slots of a wording for them. -/
def KeepsSlots (marker : String) (document : Document) (former current : Entry) : Prop :=
  ∀ rendering ∈ current.renderings, rendering ∈ former.renderings ∨
    ∃ item wording, document.item? former.key = some item ∧ wording ∈ item.wordings ∧
      wording.language = rendering.language ∧ HasSlots marker wording.slots.length rendering

/-- What an import has done that comes to its end. -/
structure IsImported (marker : String) (document : Document) (book : Book) (imported : Imported) :
    Prop where
  entries : List.Forall₂ (IsUpdated marker document) book.entries imported.book.entries
  keys : imported.keys = book.keys.filter fun key => document.items.any (·.key == key)

/-- What an import has done that ends at an entry: those before it are done with, and those behind
it are as they were. -/
structure IsStopped (indent marker : String) (document : Document) (fault : SlotFault)
    (book : Book) (imported : Imported) : Prop where
  stops : ∃ before entry after filled halted item, book.entries = before ++ entry :: after ∧
    imported.book.entries = filled ++ halted :: after ∧
    List.Forall₂ (IsUpdated marker document) before filled ∧
    document.item? entry.key = some item ∧
    IsHalted indent marker item.isNew? item.wordings fault entry halted

section Book

variable {indent marker : String} {document : Document} {imported : Imported}

theorem isSome_item? (document : Document) (key : String) :
    (document.item? key).isSome = document.items.any (·.key == key) := by
  rw [Document.item?, List.isSome_find?, List.any_reverse]

theorem keepsSlots_refl (entry : Entry) : KeepsSlots marker document entry entry :=
  fun _ isMem => .inl isMem

theorem IsFilled.keepsSlots {former current : Entry} {item : Item} {wordings : List Wording}
    (found : document.item? former.key = some item) (fewer : wordings ⊆ item.wordings)
    (filled : IsFilled marker item.isNew? wordings former current) :
    KeepsSlots marker document former current := by
  intro rendering isMem
  rcases filled.stored rendering isMem with isOld | ⟨wording, wordingMem, sameLanguage, hasSlots⟩
  · exact .inl isOld
  · exact .inr ⟨item, wording, found, fewer wordingMem, sameLanguage, hasSlots⟩

theorem IsUpdated.keepsSlots {former current : Entry}
    (updated : IsUpdated marker document former current) :
    KeepsSlots marker document former current := by
  unfold IsUpdated at updated
  cases found : document.item? former.key with
  | none =>
      rw [found] at updated
      obtain rfl : current = former := updated
      exact keepsSlots_refl current
  | some item =>
      rw [found] at updated
      exact IsFilled.keepsSlots found (List.Subset.refl _) updated

theorem IsHalted.keepsSlots {former current : Entry} {item : Item} {fault : SlotFault}
    (found : document.item? former.key = some item)
    (halted : IsHalted indent marker item.isNew? item.wordings fault former current) :
    KeepsSlots marker document former current := by
  obtain ⟨done, wording, rest, rendering, split, filled, -⟩ := halted.halts
  exact IsFilled.keepsSlots found (split ▸ List.subset_append_left _ _) filled

/-- After a fault an import leaves the entries as they are. -/
theorem fillEntries_of_fault {fault : SlotFault} (halted : imported.fault? = some fault)
    (entries : List Entry) :
    fillEntries indent marker document imported entries =
      { imported with
        book := { imported.book with entries := imported.book.entries ++ entries } } := by
  induction entries generalizing imported with
  | nil => simp [fillEntries]
  | cons entry entries ih =>
      rw [fillEntries, halted]
      dsimp only
      rw [ih rfl, List.append_assoc]
      rfl

/-- An import changes nothing about a book but its entries. -/
theorem frame_fillEntries (imported : Imported) (entries : List Entry) :
    let last := fillEntries indent marker document imported entries
    last.book = { imported.book with entries := last.book.entries } := by
  induction entries generalizing imported with
  | nil => rfl
  | cons entry entries ih =>
      rw [fillEntries]
      dsimp only
      split
      · exact ih _
      · exact ih _

/-- An import is done with one entry more, or it ends there. -/
theorem fillEntries_cons (indent marker : String) (document : Document)
    (goesOn : imported.fault? = none) (entry : Entry) (entries : List Entry) :
    ∃ next current, fillEntries indent marker document imported (entry :: entries) =
        fillEntries indent marker document next entries ∧
      next.book.entries = imported.book.entries ++ [current] ∧
      ((next.fault? = none ∧ IsUpdated marker document entry current ∧
          next.keys = imported.keys ++
            [entry.key].filter (fun key => document.items.any (·.key == key))) ∨
        ∃ fault item, next.fault? = some fault ∧ document.item? entry.key = some item ∧
          IsHalted indent marker item.isNew? item.wordings fault entry current) := by
  have isNamed := isSome_item? document entry.key
  rw [fillEntries, goesOn]
  cases found : document.item? entry.key with
  | none =>
      rw [found] at isNamed
      refine ⟨_, entry, rfl, rfl, .inl ⟨rfl, ?_, ?_⟩⟩
      · rw [IsUpdated, found]
      · simp [← isNamed]
  | some item =>
      rw [found] at isNamed
      refine ⟨_, (fillEntry indent marker entry item).entry, rfl, rfl, ?_⟩
      rcases isFilled_or_isHalted_fillEntry indent marker entry item with
        ⟨noFault, filled⟩ | ⟨fault, isFault, halted⟩
      · refine .inl ⟨noFault, ?_, ?_⟩
        · rw [IsUpdated, found]
          exact filled
        · simp [noFault, ← isNamed]
      · exact .inr ⟨fault, item, isFault, rfl, halted⟩

/-- An import is done with all remaining entries, or it ends at one of them. -/
theorem fillEntries_cases (indent marker : String) (document : Document)
    (goesOn : imported.fault? = none) (entries : List Entry) :
    let last := fillEntries indent marker document imported entries
    (∃ filled, last.fault? = none ∧ last.book.entries = imported.book.entries ++ filled ∧
      List.Forall₂ (IsUpdated marker document) entries filled ∧
      last.keys = imported.keys ++
        (entries.map (·.key)).filter fun key => document.items.any (·.key == key)) ∨
    ∃ fault before entry after filled halted item, last.fault? = some fault ∧
      entries = before ++ entry :: after ∧
      last.book.entries = imported.book.entries ++ (filled ++ halted :: after) ∧
      List.Forall₂ (IsUpdated marker document) before filled ∧
      document.item? entry.key = some item ∧
      IsHalted indent marker item.isNew? item.wordings fault entry halted := by
  induction entries generalizing imported with
  | nil => exact .inl ⟨[], goesOn, by simp [fillEntries], .nil, by simp [fillEntries]⟩
  | cons entry entries ih =>
      obtain ⟨next, current, sameRest, isNext, step⟩ :=
        fillEntries_cons indent marker document goesOn entry entries
      rw [sameRest]
      rcases step with ⟨goesOn, updated, keys⟩ | ⟨fault, item, isFault, found, halted⟩
      · rcases ih goesOn with ⟨filled, noFault, isFilled, pairs, moreKeys⟩ | stops
        · refine .inl ⟨current :: filled, noFault, ?_, .cons updated pairs, ?_⟩
          · rw [isFilled, isNext, List.append_assoc]
            rfl
          · rw [moreKeys, keys, List.append_assoc, ← List.filter_append]
            rfl
        · obtain ⟨fault, before, stopped, after, filled, halted, item, isFault, split, isFilled,
            pairs, found, isHalted⟩ := stops
          refine .inr ⟨fault, entry :: before, stopped, after, current :: filled, halted, item,
            isFault, ?_, ?_, .cons updated pairs, found, isHalted⟩
          · rw [split]
            rfl
          · rw [isFilled, isNext, List.append_assoc]
            rfl
      · rw [fillEntries_of_fault isFault]
        refine .inr ⟨fault, [], entry, entries, [], current, item, isFault, rfl, ?_, .nil, found,
          halted⟩
        dsimp only
        rw [isNext, List.append_assoc]
        rfl

end Book

/-- An import without a fault fills the entries that the document names, in the order of the book.
One with a fault ends at the first wording that does not fit its rendering. -/
theorem fills_importDocument (indent marker : String) (document : Document) (book : Book) :
    let imported := importDocument indent marker document book
    imported.book = { book with entries := imported.book.entries } ∧
      List.Forall₂ (KeepsSlots marker document) book.entries imported.book.entries ∧
      (imported.fault? = none → IsImported marker document book imported) ∧
      ∀ fault, imported.fault? = some fault →
        IsStopped indent marker document fault book imported := by
  intro imported
  have start : ({ book := { book with entries := [] } } : Imported).fault? = none := rfl
  refine ⟨frame_fillEntries _ book.entries, ?_⟩
  rcases fillEntries_cases indent marker document start book.entries with
    ⟨filled, noFault, isFilled, pairs, keys⟩ | stops
  · have isFilled : imported.book.entries = filled := isFilled
    have noFault : imported.fault? = none := noFault
    rw [noFault, isFilled]
    refine ⟨pairs.imp fun _ _ => IsUpdated.keepsSlots, fun _ => ⟨isFilled ▸ pairs, keys⟩, nofun⟩
  · obtain ⟨fault, before, entry, after, filled, halted, item, isFault, split, isFilled, pairs,
      found, isHalted⟩ := stops
    have isFilled : imported.book.entries = filled ++ halted :: after := isFilled
    have isFault : imported.fault? = some fault := isFault
    rw [isFault]
    refine ⟨?_, nofun, ?_⟩
    · rw [split, isFilled]
      apply List.rel_append (pairs.imp fun _ _ => IsUpdated.keepsSlots)
      refine .cons (isHalted.keepsSlots found) (List.forall₂_same.mpr fun other _ => ?_)
      exact keepsSlots_refl other
    · rintro other same
      obtain rfl := Option.some.inj same
      exact ⟨before, entry, after, filled, halted, item, split, isFilled, pairs, found, isHalted⟩

/-- A slot is filled with text, and the import ends where it would be filled with another slot. -/
theorem fills_importDocument_text_and_slot :
    let book : Book := { preamble := "", entries := [
      { key := "k", isNew := true, renderings := [{ language := "en", body := "<O>a</O>" }] },
      { key := "l", renderings := [{ language := "en", body := "<O>b</O>" }] }] }
    let text : Document := ⟨[
      { key := "k", wordings := [⟨"en", []⟩] },
      { key := "k", isNew? := some false, wordings := [⟨"en", [[.text "c"]]⟩] }]⟩
    let slot : Document := ⟨[{ key := "l", wordings := [⟨"en", [[.code "<O>c</O>"]]⟩] }]⟩
    let filled := importDocument "\t" "O" text book
    let stopped := importDocument "\t" "O" slot book
    filled.fault? = none ∧ filled.keys = ["k"] ∧ IsImported "O" text book filled ∧
      stopped.fault? = some (.otherCount "l" "en" "O" 1 2) ∧
      IsStopped "\t" "O" slot (.otherCount "l" "en" "O" 1 2) book stopped := by
  intro book text slot filled stopped
  have noFault : filled.fault? = none := by decide +kernel
  have isFault : stopped.fault? = some (.otherCount "l" "en" "O" 1 2) := by decide +kernel
  have keys : filled.keys = ["k"] := by decide +kernel
  obtain ⟨-, -, isImported, -⟩ := fills_importDocument "\t" "O" text book
  obtain ⟨-, -, -, isStopped⟩ := fills_importDocument "\t" "O" slot book
  exact ⟨noFault, keys, isImported noFault, isFault, isStopped _ isFault⟩

end Phrasebook.Exchange
