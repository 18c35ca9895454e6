import Phrasebook.Proofs.Position
import Phrasebook.Proofs.UpdateEffect
import Mathlib.Data.List.InsertIdx
import Mathlib.Data.List.Permutation

/-!
# Entries in the order of the sources

Where every entry has at most one place and the places follow one another in
their order, each of the four rules for the position of a new entry finds the
gap that its place belongs into.  So an update that inserts entries one after
the other leaves the places in their order.
-/

namespace Phrasebook.Book

/-- Places of entries that follow the sources: each entry has at most one, and they are in their
order.  Entries without a place may stand anywhere. -/
structure FollowSources (entries : List (List Place)) : Prop where
  length_le_one : ∀ places ∈ entries, places.length ≤ 1
  sorted : IsSorted Place.isBefore entries.flatten

instance (entries : List (List Place)) : Decidable (FollowSources entries) :=
  decidable_of_iff ((∀ places ∈ entries, places.length ≤ 1) ∧
      entries.flatten.Pairwise fun left right : Place => left.isBefore right = true)
    ⟨fun ⟨single, sorted⟩ => ⟨single, sorted⟩, fun ⟨single, sorted⟩ => ⟨single, sorted⟩⟩

theorem followSources_nil : FollowSources [] :=
  ⟨nofun, .nil⟩

/-! ## The gap for a place -/

section Gap

variable {entries : List (List Place)} {place other : Place} {position index : Nat}

theorem exists_holdsAt_of_mem_take (isThere : other ∈ (entries.take position).flatten) :
    ∃ index < position, HoldsAt entries index other := by
  obtain ⟨places, placesMem, otherMem⟩ := List.mem_flatten.mp isThere
  obtain ⟨index, bound, rfl⟩ := List.mem_take_iff_getElem.mp placesMem
  exact ⟨index, by omega, entries[index], List.getElem?_eq_getElem _, otherMem⟩

theorem exists_holdsAt_of_mem_drop (isThere : other ∈ (entries.drop position).flatten) :
    ∃ index, position ≤ index ∧ HoldsAt entries index other := by
  obtain ⟨places, placesMem, otherMem⟩ := List.mem_flatten.mp isThere
  obtain ⟨offset, bound, rfl⟩ := List.mem_drop_iff_getElem.mp placesMem
  exact ⟨position + offset, by omega, entries[position + offset], List.getElem?_eq_getElem _,
    otherMem⟩

/-- Places come in the order of their entries. -/
theorem FollowSources.lt_iff (follow : FollowSources entries) {left right : Nat}
    {first second : Place} (isLeft : HoldsAt entries left first)
    (isRight : HoldsAt entries right second) :
    left < right ↔ first.isBefore second = true := by
  have linear := Place.isLinear_isBefore
  have forward {left right : Nat} {first second : Place} (isLeft : HoldsAt entries left first)
      (isRight : HoldsAt entries right second) (isLess : left < right) :
      first.isBefore second = true := by
    obtain ⟨lefts, isLefts, firstMem⟩ := isLeft
    obtain ⟨rights, isRights, secondMem⟩ := isRight
    obtain ⟨leftBound, rfl⟩ := List.getElem?_eq_some_iff.mp isLefts
    obtain ⟨rightBound, rfl⟩ := List.getElem?_eq_some_iff.mp isRights
    have apart := (List.pairwise_flatten.mp follow.sorted).2
    exact List.pairwise_iff_getElem.mp apart left right leftBound rightBound isLess first firstMem
      second secondMem
  refine ⟨forward isLeft isRight, fun isBefore => ?_⟩
  rcases Nat.lt_trichotomy left right with isLess | rfl | isGreater
  · exact isLess
  · obtain ⟨lefts, isLefts, firstMem⟩ := isLeft
    obtain ⟨rights, isRights, secondMem⟩ := isRight
    obtain rfl : lefts = rights := Option.some.inj (isLefts.symm.trans isRights)
    have single := follow.length_le_one lefts (List.mem_of_getElem? isLefts)
    obtain rfl : first = second := by
      obtain _ | ⟨only, _ | _⟩ := lefts
      · contradiction
      · rw [List.mem_singleton.mp firstMem, List.mem_singleton.mp secondMem]
      · simp at single
    rw [linear.irreflexive] at isBefore
    contradiction
  · rw [linear.asymmetric (forward isRight isLeft isGreater)] at isBefore
    contradiction

theorem BelongsAt.lt_iff (belongs : BelongsAt entries place position)
    (follow : FollowSources entries) (isThere : HoldsAt entries index other) :
    index < position ↔ other.isBefore place = true := by
  have found : Holds entries other := ⟨index, isThere⟩
  -- in each case `other` is compared with the place of the entry beside the gap
  cases belongs with
  | @behindClosest line position isBefore closest isFirst =>
      rw [Nat.lt_succ_iff, ← Nat.not_lt, follow.lt_iff isFirst.holds isThere, Place.isBefore_iff,
        Place.isBefore_iff]
      constructor
      · intro notBehind
        rcases lt_trichotomy other.path place.path with isLess | samePath | isGreater
        · exact .inl isLess
        · have upTo : ¬ line < other.line := fun isLess => notBehind (.inr ⟨samePath.symm, isLess⟩)
          exact .inr ⟨samePath, by omega⟩
        · exact absurd (.inl isGreater) notBehind
      · rintro (isLess | ⟨samePath, isLess⟩) (isGreater | ⟨otherPath, isGreater⟩)
        · exact lt_asymm isLess isGreater
        · exact isLess.ne otherPath.symm
        · exact isGreater.ne samePath.symm
        · have upTo := closest other.line (samePath ▸ found) isLess
          exact Nat.not_lt.mpr upTo isGreater
  | @beforeFirst line position least isFirst =>
      rw [follow.lt_iff isThere isFirst.holds, Place.isBefore_iff, Place.isBefore_iff]
      refine or_congr_right (and_congr_right fun samePath => ?_)
      obtain ⟨isLater, isBehind⟩ := least other.line (samePath ▸ found)
      exact iff_of_false (Nat.not_lt.mpr isBehind) (Nat.not_lt.mpr isLater)
  | @behindFile last position absent isEarlier greatest isLast =>
      rw [Nat.lt_succ_iff, ← Nat.not_lt, follow.lt_iff isLast.holds isThere]
      constructor
      · intro notBehind
        rw [Place.isBefore_iff, not_or, not_lt] at notBehind
        exact (Place.isBefore_iff other place).mpr (.inl (lt_of_le_of_lt notBehind.1 isEarlier))
      · intro isBefore
        rcases (Place.isBefore_iff other place).mp isBefore with isLess | ⟨samePath, _⟩
        · have upTo := greatest other found isLess
          simpa [Place.isUpTo] using upTo
        · exact absurd (samePath ▸ found) (absent other.line)
  | front later =>
      have isLater := later other found
      have notBefore : ¬ other.isBefore place = true := by
        rw [Place.isBefore_iff]
        rintro (isLess | ⟨samePath, _⟩)
        · exact lt_asymm isLess isLater
        · exact lt_irrefl _ (samePath ▸ isLater)
      simp [notBefore]

theorem FollowSources.insertIdx (follow : FollowSources entries) (absent : ¬ Holds entries place) :
    FollowSources (entries.insertIdx (positionFor entries place) [place]) := by
  have belongs := belongsAt_self entries place
  rw [insertIdx_eq_take_append_drop [place] (positionFor_le_length entries place)]
  set position := positionFor entries place
  have split : entries.take position ++ entries.drop position = entries :=
    List.take_append_drop position entries
  constructor
  · intro places placesMem
    rcases List.mem_append.mp placesMem with isEarlier | isLater
    · exact follow.length_le_one places (List.mem_of_mem_take isEarlier)
    · rcases List.mem_cons.mp isLater with rfl | isBehind
      · exact Nat.le_refl 1
      · exact follow.length_le_one places (List.mem_of_mem_drop isBehind)
  · have sorted := follow.sorted
    rw [← split, List.flatten_append] at sorted
    obtain ⟨before, after, across⟩ := List.pairwise_append.mp sorted
    rw [List.flatten_append, List.flatten_cons, List.singleton_append]
    refine List.pairwise_append.mpr ⟨before, List.pairwise_cons.mpr ⟨?_, after⟩, ?_⟩
    · intro other isThere
      obtain ⟨index, notLess, holds⟩ := exists_holdsAt_of_mem_drop isThere
      have notBefore := (belongs.lt_iff follow holds).not.mp (Nat.not_lt.mpr notLess)
      cases isBefore : place.isBefore other with
      | true => rfl
      | false =>
          obtain rfl := Place.isLinear_isBefore.connected isBefore (by simpa using notBefore)
          exact absurd ⟨index, holds⟩ absent
    · intro other isThere next nextMem
      rcases List.mem_cons.mp nextMem with rfl | isBehind
      · obtain ⟨index, isLess, holds⟩ := exists_holdsAt_of_mem_take isThere
        exact (belongs.lt_iff follow holds).mp isLess
      · exact across other isThere next isBehind

end Gap

/-! ## Entries with one place each -/

section Insert

variable {updated : Updated} {entry : Entry} {entries : List Entry} {place : Place}

theorem holds_iff_mem_flatten {entries : List (List Place)} :
    Holds entries place ↔ place ∈ entries.flatten := by
  rw [List.mem_flatten]
  constructor
  · rintro ⟨position, places, isThere, placeMem⟩
    exact ⟨places, List.mem_of_getElem? isThere, placeMem⟩
  · rintro ⟨places, placesMem, placeMem⟩
    obtain ⟨position, isThere⟩ := List.mem_iff_getElem?.mp placesMem
    exact ⟨position, places, isThere, placeMem⟩

theorem map_places_insertEntry (single : entry.places = [place]) :
    (insertEntry false updated entry).book.entries.map (·.places) =
      (updated.book.entries.map (·.places)).insertIdx
        (positionFor (updated.book.entries.map (·.places)) place) [place] := by
  simp only [insertEntry, single, Bool.false_eq_true, if_false]
  rw [List.map_insertIdx, single]

/-- Inserting entries with one place each leaves the places in their order. -/
theorem followSources_insertEntries (single : ∀ entry ∈ entries, ∃ place, entry.places = [place])
    (follow : FollowSources (updated.book.entries.map (·.places)))
    (distinct : (updated.book.entries.flatMap (·.places) ++ entries.flatMap (·.places)).Nodup) :
    FollowSources ((insertEntries false updated entries).book.entries.map (·.places)) := by
  induction entries generalizing updated with
  | nil => exact follow
  | cons entry entries ih =>
      obtain ⟨⟨place, isPlace⟩, others⟩ := List.forall_mem_cons.mp single
      rw [List.flatMap_cons, isPlace, List.singleton_append] at distinct
      have absent : ¬ Holds (updated.book.entries.map (·.places)) place := by
        rw [holds_iff_mem_flatten, ← List.flatMap_def]
        exact fun isThere => (List.nodup_append.mp distinct).2.2 place isThere place
          List.mem_cons_self rfl
      have inserted := @map_places_insertEntry updated entry place isPlace
      rw [insertEntries_cons]
      refine ih others (inserted ▸ follow.insertIdx absent) ?_
      have moved : ((insertEntry false updated entry).book.entries.flatMap (·.places)).Perm
          (place :: updated.book.entries.flatMap (·.places)) := by
        rw [List.flatMap_def, inserted, List.flatMap_def]
        exact (List.perm_insertIdx _ _ (positionFor_le_length _ place)).flatten
      exact ((moved.append_right _).trans List.perm_middle.symm).nodup_iff.mpr distinct

end Insert

/-! ## Sightings of new keys -/

/-- The observed phrases whose keys are not in a book, each with its place. -/
def newSightings (book : Book) (observed : Observed) : List (Phrase × Place) :=
  (observations observed).filter fun sighting => !book.keys.contains sighting.1.key

section Sightings

variable {book : Book} {observed : Observed}

/-- Of keys that occur once the first phrases are all phrases. -/
theorem newPhrases_eq_of_nodup {known : List String} {sightings : List (Phrase × Place)}
    (once : ((sightings.filter fun sighting => !known.contains sighting.1.key).map
      (·.1.key)).Nodup) :
    newPhrases known sightings =
      (sightings.filter fun sighting => !known.contains sighting.1.key).map (·.1) := by
  induction sightings generalizing known with
  | nil => rfl
  | cons sighting sightings ih =>
      obtain ⟨phrase, place⟩ := sighting
      rw [newPhrases]
      split
      · rename_i isKnown
        rw [List.filter_cons_of_neg (by simpa using isKnown)] at once ⊢
        exact ih once
      · rename_i notKnown
        rw [List.filter_cons_of_pos (by simpa using notKnown)] at once ⊢
        obtain ⟨isOnce, others⟩ := List.nodup_cons.mp once
        have same : (sightings.filter fun sighting =>
              !(phrase.key :: known).contains sighting.1.key) =
            sightings.filter fun sighting => !known.contains sighting.1.key := by
          refine List.filter_congr fun sighting sightingMem => ?_
          by_cases sameKey : sighting.1.key = phrase.key
          · have isKnown : known.contains sighting.1.key = true := by
              by_contra unknown
              have isNew : sighting ∈ sightings.filter fun sighting =>
                  !known.contains sighting.1.key :=
                List.mem_filter.mpr ⟨sightingMem, by simpa using unknown⟩
              exact isOnce (List.mem_map.mpr ⟨sighting, isNew, sameKey⟩)
            exact absurd (sameKey ▸ isKnown) notKnown
          · simp [sameKey]
        rw [List.map_cons, ih (same ▸ others), same]

theorem filter_key_of_mem {sightings : List (Phrase × Place)} {sighting : Phrase × Place}
    (once : (sightings.map (·.1.key)).Nodup) (sightingMem : sighting ∈ sightings) :
    (sightings.filter fun other => other.1.key == sighting.1.key) = [sighting] := by
  induction sightings with
  | nil => cases sightingMem
  | cons first rest ih =>
      obtain ⟨isOnce, others⟩ := List.nodup_cons.mp once
      rcases List.mem_cons.mp sightingMem with rfl | inRest
      · rw [List.filter_cons_of_pos (by simp), List.filter_eq_nil_iff.mpr]
        intro other otherMem sameKey
        exact isOnce (List.mem_map.mpr ⟨other, otherMem, by simpa using sameKey⟩)
      · have otherKey : ¬ first.1.key = sighting.1.key := fun sameKey =>
          isOnce (List.mem_map.mpr ⟨sighting, inRest, sameKey.symm⟩)
        rw [List.filter_cons_of_neg (by simpa using otherKey)]
        exact ih others inRest

/-- An entry for a key that was seen once has the place where it was seen. -/
theorem newEntries_eq_of_nodup (options : UpdateOptions)
    (once : ((newSightings book observed).map (·.1.key)).Nodup) :
    newEntries book observed options =
      (newSightings book observed).map fun sighting =>
        newEntry options sighting.1 [sighting.2] := by
  rw [newEntries, newPhrases_eq_of_nodup once, List.map_map]
  refine List.map_congr_left fun sighting sightingMem => ?_
  have unknown := (List.mem_filter.mp sightingMem).2
  have seen : (observations observed).filter (fun other => other.1.key == sighting.1.key) =
      [sighting] := by
    rw [← filter_key_of_mem once sightingMem, newSightings, List.filter_filter]
    refine List.filter_congr fun other _ => ?_
    by_cases sameKey : other.1.key = sighting.1.key
    · rw [sameKey, unknown, Bool.and_true]
    · simp [sameKey]
  have places : observedPlaces (observations observed) sighting.1.key = [sighting.2] :=
    congrArg (List.map fun seen : Phrase × Place => seen.2) seen
  rw [Function.comp_apply, places]
  rfl

end Sightings

/-! ## Updates -/

/-- The observed phrases in the order of their places. -/
def sightingsInOrder (observed : Observed) : List (Phrase × Place) :=
  (observations observed).mergeSort fun left right => left.2.isUpTo right.2

theorem sightingsInOrder_perm (observed : Observed) :
    (sightingsInOrder observed).Perm (observations observed) :=
  List.mergeSort_perm ..

theorem pairwise_sightingsInOrder {observed : Observed}
    (distinct : ((observations observed).map (·.2)).Nodup) :
    (sightingsInOrder observed).Pairwise fun left right => left.2.isBefore right.2 = true := by
  have upTo := @List.pairwise_mergeSort (Phrase × Place)
    (fun left right => left.2.isUpTo right.2)
    (fun _ _ _ => Place.isUpTo_trans) (fun _ _ => Place.isUpTo_total _ _) (observations observed)
  have apart : (sightingsInOrder observed).Pairwise fun left right => left.2 ≠ right.2 :=
    List.pairwise_map.mp (((sightingsInOrder_perm observed).map (·.2)).nodup_iff.mpr distinct :
      ((sightingsInOrder observed).map (·.2)).Nodup)
  refine upTo.imp₂ (fun left right isUpTo different => ?_) apart
  have notAfter : right.2.isBefore left.2 = false := by simpa [Place.isUpTo] using isUpTo
  by_contra notBefore
  exact different (Place.isLinear_isBefore.connected (by simpa using notBefore) notAfter)

section Update

variable (book : Book) (observed : Observed) (options : UpdateOptions) (exists? : String → Bool)

/-- The places after an update that inserts entries are in their order if those that it leaves to
the old entries are. -/
theorem followSources_map_update (inserts : options.append = false)
    (follow : FollowSources
      (book.entries.map (currentPlaces exists? observed (observations observed))))
    (once : ((newSightings book observed).map (·.1.key)).Nodup)
    (distinct : (book.entries.flatMap (currentPlaces exists? observed (observations observed)) ++
      (newSightings book observed).map (·.2)).Nodup) :
    FollowSources ((book.update observed options exists?).book.entries.map (·.places)) := by
  have current (entry : Entry) := revised_places observed options exists? entry
  rw [update_eq_insertEntries, inserts, newEntries_eq_of_nodup options once]
  refine followSources_insertEntries (List.forall_mem_map.mpr fun sighting _ => ⟨sighting.2, rfl⟩)
    ?_ ?_
  · simpa [reviewed, Function.comp_def, current] using follow
  · simpa [reviewed, List.flatMap_map, current, newEntry, ← List.map_eq_flatMap] using distinct

theorem newSightings_of_isEmpty (isEmpty : book.entries = []) :
    newSightings book observed = observations observed := by
  simp [newSightings, keys, isEmpty]

/-- Of a book without entries an update makes one entry for each phrase, in the order of their
places. -/
theorem update_entries_of_isEmpty (isEmpty : book.entries = []) (inserts : options.append = false)
    (once : ((observations observed).map (·.1.key)).Nodup)
    (distinct : ((observations observed).map (·.2)).Nodup) :
    (book.update observed options exists?).book.entries =
      (sightingsInOrder observed).map fun sighting => newEntry options sighting.1 [sighting.2] := by
  have all := newSightings_of_isEmpty book observed isEmpty
  have follow := followSources_map_update book observed options exists? inserts
    (isEmpty ▸ followSources_nil) (all ▸ once) (by simpa [isEmpty, all] using distinct)
  have perm : (book.update observed options exists?).book.entries.Perm
      ((sightingsInOrder observed).map fun sighting =>
        newEntry options sighting.1 [sighting.2]) := by
    have inserted := update_entries_perm book observed options exists?
    rw [isEmpty, List.map_nil, List.nil_append, newEntries_eq_of_nodup options (all ▸ once), all]
      at inserted
    exact inserted.trans ((sightingsInOrder_perm observed).symm.map _)
  -- both lists have the same entries and are in the order of their places, so they are equal
  refine @List.Perm.eq_of_pairwise Entry
    (fun left right => ∀ first ∈ left.places, ∀ second ∈ right.places,
      first.isBefore second = true) _ _ ?_ ?_ ?_ perm
  · intro left right leftMem rightMem one other
    obtain ⟨first, _, rfl⟩ := List.mem_map.mp (perm.mem_iff.mp leftMem)
    obtain ⟨second, _, rfl⟩ := List.mem_map.mp rightMem
    have before := one first.2 List.mem_cons_self second.2 List.mem_cons_self
    have after := other second.2 List.mem_cons_self first.2 List.mem_cons_self
    rw [Place.isLinear_isBefore.asymmetric before] at after
    contradiction
  · exact List.pairwise_map.mp (List.pairwise_flatten.mp follow.sorted).2
  · refine List.pairwise_map.mpr ((pairwise_sightingsInOrder distinct).imp ?_)
    intro left right isBefore first firstMem second secondMem
    rw [List.mem_singleton.mp firstMem, List.mem_singleton.mp secondMem]
    exact isBefore

/-- An update that inserts entries keeps their places in the order of the sources, and makes of a
book without entries one that lists all phrases in this order. -/
theorem followSources_update (inserts : options.append = false)
    (follow : FollowSources
      (book.entries.map (currentPlaces exists? observed (observations observed))))
    (once : ((newSightings book observed).map (·.1.key)).Nodup)
    (distinct : (book.entries.flatMap (currentPlaces exists? observed (observations observed)) ++
      (newSightings book observed).map (·.2)).Nodup) :
    FollowSources ((book.update observed options exists?).book.entries.map (·.places)) ∧
      (book.entries = [] → (book.update observed options exists?).book.entries =
        (sightingsInOrder observed).map fun sighting =>
          newEntry options sighting.1 [sighting.2]) := by
  refine ⟨followSources_map_update book observed options exists? inserts follow once distinct,
    fun isEmpty => ?_⟩
  rw [newSightings_of_isEmpty book observed isEmpty] at once distinct
  rw [isEmpty, List.flatMap_nil, List.nil_append] at distinct
  exact update_entries_of_isEmpty book observed options exists? isEmpty inserts once distinct

end Update

/-- One new phrase for each rule, among entries of which some have no place. -/
theorem followSources_four_rules :
    let book : Book := {
      preamble := ""
      entries := [
        { key := "a", places := [⟨"f", 5⟩] }, { key := "b", isDeleted := true },
        { key := "c", places := [⟨"h", 2⟩] }, { key := "d", isDeleted := true }] }
    let phrase (key : String) (line : Nat) : Phrase :=
      { (default : Phrase) with key, place := ⟨"", line⟩ }
    let observed : Observed :=
      [("h", [phrase "c" 2, phrase "u" 7]), ("g", [phrase "v" 1]),
        ("f", [phrase "a" 5, phrase "w" 3]), ("e", [phrase "x" 9])]
    let exists? (_ : String) : Bool := true
    FollowSources (book.entries.map (currentPlaces exists? observed (observations observed))) ∧
      ((newSightings book observed).map (·.1.key)).Nodup ∧
      (book.entries.flatMap (currentPlaces exists? observed (observations observed)) ++
        (newSightings book observed).map (·.2)).Nodup ∧
      (book.update observed {} exists?).book.keys = ["x", "w", "a", "v", "b", "c", "u", "d"] ∧
      FollowSources ((book.update observed {} exists?).book.entries.map (·.places)) := by
  intro book phrase observed exists?
  have follow : FollowSources
      (book.entries.map (currentPlaces exists? observed (observations observed))) := by
    decide_cbv
  have once : ((newSightings book observed).map (·.1.key)).Nodup := by decide_cbv
  have distinct :
      (book.entries.flatMap (currentPlaces exists? observed (observations observed)) ++
        (newSightings book observed).map (·.2)).Nodup := by
    decide_cbv
  exact ⟨follow, once, distinct, by decide_cbv,
    (followSources_update book observed {} exists? rfl follow once distinct).1⟩

end Phrasebook.Book
