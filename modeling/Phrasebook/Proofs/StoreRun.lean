import Phrasebook.Proofs.Growth
import Phrasebook.Proofs.PlaceText
import Phrasebook.Proofs.Preamble

/-!
# Runs of a store of places

A store is given places, writes them to its file, and is read from its file
again, in any order.  A store that was not changed is not written, which is
right because the file gives every key the same places as the store.
-/

namespace Phrasebook

open Text (Source)

/-! ## What a store gives -/

/-- Places for different keys, in files that have a path. -/
structure Placing where
  places : List (String × List Place)
  distinct : (places.map (·.1)).Nodup
  named : ∀ entry ∈ places, ∀ place ∈ entry.2, place.path ≠ ""

/-- The places of every key as a store keeps them. -/
def Placing.mapping (placing : Placing) (key : String) : Option (List Place) :=
  (placing.places.lookup key).map sortedPlaces

namespace PlaceStore

/-- A store gives the keys of a list, and no others, the places that the list has for them: sorted,
and each once. -/
structure Holds (store : PlaceStore) (places : List (String × List Place)) : Prop where
  keys : ∀ key, key ∈ store.keys ↔ key ∈ places.map (·.1)
  sorted : ∀ key, IsSorted Place.isBefore (store.get key)
  members : ∀ key place, place ∈ store.get key ↔ ∃ given, (key, given) ∈ places ∧ place ∈ given

/-- The places of every key that a store knows. -/
def mapping (store : PlaceStore) (key : String) : Option (List Place) :=
  store.places.lookup key

section Mapping

variable {store : PlaceStore} {places : List (String × List Place)} {key : String}

theorem isSome_lookup_iff : (places.lookup key).isSome = true ↔ key ∈ places.map (·.1) := by
  constructor
  · intro isStored
    obtain ⟨given, isGiven⟩ := Option.isSome_iff_exists.mp isStored
    exact List.mem_map_of_mem (f := (·.1)) (mem_of_lookup isGiven)
  · intro keyMem
    by_contra notStored
    obtain ⟨entry, entryMem, rfl⟩ := List.mem_map.mp keyMem
    have isNone := Option.not_isSome_iff_eq_none.mp notStored
    have isOther := List.lookup_eq_none_iff.mp isNone entry entryMem
    simp at isOther

theorem IsProper.mapping_eq (proper : store.IsProper) (key : String) :
    store.mapping key = (store.places.lookup key).map sortedPlaces := by
  unfold mapping
  cases isStored : store.places.lookup key with
  | none => rfl
  | some given =>
      have sorted := proper.sorted _ (mem_of_lookup isStored)
      exact congrArg some (sortedSet_of_isSorted Place.isLinear_isBefore sorted).symm

/-- A store holds the places of a list if it maps every key to them as a sorted set. -/
theorem IsProper.holds (proper : store.IsProper) (distinct : (places.map (·.1)).Nodup)
    (same : ∀ key, store.mapping key = (places.lookup key).map sortedPlaces) :
    store.Holds places where
  keys key := by
    rw [keys, mem_sortedTexts, ← isSome_lookup_iff, ← isSome_lookup_iff]
    change (store.mapping key).isSome = true ↔ _
    rw [same, Option.isSome_map]
  sorted := proper.sorted_get
  members key place := by
    change place ∈ (store.mapping key).getD [] ↔ _
    rw [same]
    cases isGiven : places.lookup key with
    | none =>
        have noGiven : ¬∃ given, (key, given) ∈ places ∧ place ∈ given := by
          rintro ⟨given, entryMem, -⟩
          rw [Book.lookup_of_mem distinct entryMem] at isGiven
          contradiction
        simp [noGiven]
    | some given =>
        change place ∈ sortedPlaces given ↔ _
        rw [mem_sortedPlaces]
        constructor
        · exact fun placeMem => ⟨given, mem_of_lookup isGiven, placeMem⟩
        · rintro ⟨other, entryMem, placeMem⟩
          rw [Book.lookup_of_mem distinct entryMem] at isGiven
          exact Option.some.inj isGiven ▸ placeMem

/-- Lists of the same length that agree on the keys of one of them agree on all keys. -/
theorem lookup_eq_of_sameMapping {left right : List (String × List Place)}
    (leftDistinct : (left.map (·.1)).Nodup) (same : sameMapping left right = true) (key : String) :
    left.lookup key = right.lookup key := by
  unfold sameMapping at same
  rw [Bool.and_eq_true, beq_iff_eq, List.all_eq_true] at same
  obtain ⟨sameLength, agrees⟩ := same
  cases isLeft : left.lookup key with
  | some given =>
      have isRight := agrees (key, given) (mem_of_lookup isLeft)
      exact (beq_iff_eq.mp isRight).symm
  | none =>
      -- All keys of the right list are among those of the left one, as there are no more of them.
      have keysSubset : left.map (·.1) ⊆ right.map (·.1) := by
        intro other otherMem
        obtain ⟨entry, entryMem, rfl⟩ := List.mem_map.mp otherMem
        have isRight := beq_iff_eq.mp (agrees entry entryMem)
        exact List.mem_map_of_mem (f := (·.1)) (mem_of_lookup isRight)
      have perm : (left.map (·.1)).Perm (right.map (·.1)) := by
        refine (List.subperm_of_subset leftDistinct keysSubset).perm_of_length_le ?_
        rw [List.length_map, List.length_map, sameLength]
      symm
      apply Book.lookup_eq_none_of_notMem
      rw [← perm.mem_iff, ← isSome_lookup_iff, isLeft]
      simp

end Mapping

/-! ## Replacing places -/

section Replace

variable {store : PlaceStore} {placing : Placing}

theorem map_key_sorted (places : List (String × List Place)) :
    (places.map fun (key, list) => (key, sortedPlaces list)).map (·.1) = places.map (·.1) := by
  rw [List.map_map]
  rfl

theorem lookup_sorted (places : List (String × List Place)) (key : String) :
    (places.map fun (key, list) => (key, sortedPlaces list)).lookup key =
      (places.lookup key).map sortedPlaces := by
  induction places with
  | nil => rfl
  | cons entry places ih =>
      rw [List.map_cons, List.lookup_cons, List.lookup_cons, ih]
      split <;> rfl

/-- What a store is given it maps every key to, whether this is a change or not. -/
theorem mapping_replace (store : PlaceStore) (placing : Placing) (key : String) :
    (store.replace placing.places).mapping key = placing.mapping key := by
  have distinct := (map_key_sorted placing.places).symm ▸ placing.distinct
  unfold replace
  dsimp only
  split
  · rename_i same
    rw [Placing.mapping, ← lookup_sorted, lookup_eq_of_sameMapping distinct same key]
    rfl
  · exact lookup_sorted placing.places key

theorem IsProper.replace (proper : store.IsProper) (placing : Placing) :
    (store.replace placing.places).IsProper := by
  unfold PlaceStore.replace
  dsimp only
  split
  · exact proper
  · refine ⟨(map_key_sorted placing.places).symm ▸ placing.distinct, ?_, ?_⟩
    · intro entry entryMem
      obtain ⟨given, -, rfl⟩ := List.mem_map.mp entryMem
      exact isSorted_sortedPlaces given.2
    · intro entry entryMem
      obtain ⟨given, givenMem, rfl⟩ := List.mem_map.mp entryMem
      exact fun place placeMem =>
        placing.named given givenMem place (mem_sortedPlaces.mp placeMem)

/-- A store that is not changed by what it is given maps every key as before. -/
theorem mapping_eq_of_replace (notChanged : (store.replace placing.places).isChanged = false) :
    store.isChanged = false ∧ ∀ key, placing.mapping key = store.mapping key := by
  have same (key : String) := mapping_replace store placing key
  unfold replace at notChanged same
  dsimp only at notChanged same
  split at notChanged
  · rename_i isSame
    rw [if_pos isSame] at same
    exact ⟨notChanged, fun key => (same key).symm⟩
  · contradiction

end Replace

/-- The text of a store has no carriage returns, so it is read from its file as it is. -/
theorem lines?_render (store : PlaceStore) :
    (Source.ofString store.render).lines? = some store.render := by
  refine Text.lines?_ofString ?_
  rw [render, String.toList_append, Json.write, String.toList_ofList, List.mem_append, not_or]
  exact ⟨Json.noReturn_writeAt (store.isDocument_toValue 0) 0, by decide⟩

end PlaceStore

end Phrasebook

namespace Phrasebook.Project

open Command
open Text (Source)

/-! ## Steps -/

/-- What is done with a store and its file. -/
inductive StoreStep where
  | replace (placing : Placing)
  | persist
  | reload

/-- Write a store to its file if it has changed. -/
def persist (project : Project) (store : PlaceStore) : Command PlaceStore := do
  if store.isChanged then
    writeText project.placesPath store.render
    return { store with isChanged := false }
  return store

def takeStep (project : Project) (store : PlaceStore) : StoreStep → Command PlaceStore
  | .replace placing => return store.replace placing.places
  | .persist => project.persist store
  | .reload => project.readPlaces

def takeSteps (project : Project) (store : PlaceStore) (steps : List StoreStep) :
    Command PlaceStore :=
  steps.foldlM project.takeStep store

/-- The stored places that are read from a disk. -/
def storedPlaces (project : Project) (disk : Disk) : Except Failure PlaceStore :=
  match disk.read project.placesPath with
  | .error fault =>
    if fault.kind == .missing then .ok {} else .error (.places project.placesPath .unreadable)
  | .ok source =>
    match source.lines? with
    | none => .error .notText
    | some text => (PlaceStore.read text).mapError (.places project.placesPath)

section Stored

variable {project : Project} {store : PlaceStore} {session : Session}

/-- To read the stored places is to say something besides. -/
theorem run_readPlaces (project : Project) (session : Session) :
    ∃ records, project.readPlaces.run.run session =
      (project.storedPlaces session.disk, { session with records }) := by
  have isDisk : (disk : Command Disk).run.run session = (.ok session.disk, session) := rfl
  unfold readPlaces storedPlaces
  dsimp only
  rw [run_bind_of_ok isDisk]
  cases session.disk.read project.placesPath with
  | error fault =>
      dsimp only
      split <;> exact ⟨session.records, rfl⟩
  | ok source =>
      dsimp only
      cases source.lines? with
      | none => exact ⟨session.records, rfl⟩
      | some text =>
          dsimp only
          cases PlaceStore.read text with
          | error fault => exact ⟨session.records, rfl⟩
          | ok store => exact ⟨_, rfl⟩

theorem storedPlaces_of_readPlaces {outcome : Except Failure PlaceStore} {last : Session}
    (done : project.readPlaces.run.run session = (outcome, last)) :
    project.storedPlaces session.disk = outcome := by
  obtain ⟨records, run⟩ := run_readPlaces project session
  exact (Prod.mk.inj (run.symm.trans done)).1

theorem isProper_of_storedPlaces {disk : Disk} (isStored : project.storedPlaces disk = .ok store) :
    store.IsProper ∧ store.isChanged = false := by
  unfold storedPlaces at isStored
  split at isStored
  · split at isStored
    · obtain rfl := Except.ok.inj isStored
      exact ⟨⟨List.nodup_nil, by simp, by simp⟩, rfl⟩
    · cases isStored
  · split at isStored
    · cases isStored
    · exact PlaceStore.isProper_of_read (mapError_eq_ok_iff.mp isStored)

/-- A store that was written is stored, with its keys in order. -/
theorem storedPlaces_write (proper : store.IsProper) {disk : Disk}
    (done : (disk.write project.placesPath (Source.ofString store.render)).1 = .ok ()) :
    project.storedPlaces (disk.write project.placesPath (Source.ofString store.render)).2 =
      .ok ⟨store.inOrder, false⟩ := by
  unfold storedPlaces
  rw [Disk.read_write done]
  dsimp only
  rw [store.lines?_render]
  dsimp only
  rw [PlaceStore.read_render proper]
  rfl

end Stored

/-! ## What steps are to do -/

/-- What every key is mapped to in a store and in its file. -/
structure Ledger where
  held : String → Option (List Place)
  filed : String → Option (List Place)

namespace Ledger

def takeStep (ledger : Ledger) : StoreStep → Ledger
  | .replace placing => { ledger with held := placing.mapping }
  | .persist => { ledger with filed := ledger.held }
  | .reload => { ledger with held := ledger.filed }

def takeSteps (ledger : Ledger) (steps : List StoreStep) : Ledger :=
  steps.foldl takeStep ledger

/-- A ledger tells what a store and its file give.  Where the store counts as unchanged, they give
the same. -/
structure Describes (ledger : Ledger) (project : Project) (disk : Disk) (store : PlaceStore) :
    Prop where
  proper : store.IsProper
  held : store.mapping = ledger.held
  filed : ∃ stored, project.storedPlaces disk = .ok stored ∧ stored.mapping = ledger.filed
  unchanged : store.isChanged = false → ledger.held = ledger.filed

section Describes

variable {project : Project} {ledger : Ledger} {session last : Session} {store next : PlaceStore}

theorem Describes.persist (describes : ledger.Describes project session.disk store)
    (done : (project.persist store).run.run session = (.ok next, last)) :
    (ledger.takeStep .persist).Describes project last.disk next := by
  obtain ⟨proper, held, filed, unchanged⟩ := describes
  unfold Project.persist at done
  split at done
  · obtain ⟨_, between, isWritten, done⟩ := Book.run_bind_eq_ok_iff.mp done
    cases done
    obtain ⟨isDone, isDisk⟩ := disk_of_writeText isWritten
    refine ⟨⟨proper.distinct, proper.sorted, proper.named⟩, held,
      ⟨⟨store.inOrder, false⟩, ?_, ?_⟩, fun _ => rfl⟩
    · rw [isDisk]
      exact storedPlaces_write proper isDone
    · rw [takeStep, ← held]
      exact funext store.lookup_inOrder
  · rename_i notChanged
    cases done
    obtain ⟨stored, isStored, isFiled⟩ := filed
    have same := unchanged (Bool.eq_false_iff.mpr notChanged)
    exact ⟨proper, held, ⟨stored, isStored, isFiled.trans same.symm⟩, fun _ => rfl⟩

/-- A store can be read again at any time. -/
theorem Describes.reload (describes : ledger.Describes project session.disk store) :
    ∃ stored records, project.readPlaces.run.run session = (.ok stored, { session with records }) ∧
      (ledger.takeStep .reload).Describes project session.disk stored := by
  obtain ⟨stored, isStored, isFiled⟩ := describes.filed
  obtain ⟨records, run⟩ := run_readPlaces project session
  obtain ⟨proper, notChanged⟩ := isProper_of_storedPlaces isStored
  rw [isStored] at run
  exact ⟨stored, records, run, proper, isFiled, ⟨stored, isStored, isFiled⟩, fun _ => rfl⟩

theorem Describes.takeStep (describes : ledger.Describes project session.disk store)
    {step : StoreStep} (done : (project.takeStep store step).run.run session = (.ok next, last)) :
    (ledger.takeStep step).Describes project last.disk next := by
  cases step with
  | replace placing =>
      cases done
      obtain ⟨proper, held, filed, unchanged⟩ := describes
      refine ⟨proper.replace placing, funext (store.mapping_replace placing), filed, ?_⟩
      intro notChanged
      obtain ⟨wasUnchanged, same⟩ := PlaceStore.mapping_eq_of_replace notChanged
      exact (funext same).trans (held.trans (unchanged wasUnchanged))
  | persist => exact describes.persist done
  | reload =>
      obtain ⟨stored, records, run, describesStored⟩ := describes.reload
      obtain ⟨rfl, rfl⟩ : stored = next ∧ { session with records } = last := by
        have same := run.symm.trans done
        cases same
        exact ⟨rfl, rfl⟩
      exact describesStored

/-- Steps do what they are to do. -/
theorem Describes.takeSteps {steps : List StoreStep}
    (describes : ledger.Describes project session.disk store)
    (done : (project.takeSteps store steps).run.run session = (.ok next, last)) :
    (ledger.takeSteps steps).Describes project last.disk next := by
  induction steps generalizing ledger session store with
  | nil =>
      cases done
      exact describes
  | cons step steps ih =>
      unfold Project.takeSteps at done
      rw [List.foldlM_cons] at done
      obtain ⟨between, middle, first, rest⟩ := Book.run_bind_eq_ok_iff.mp done
      exact ih (describes.takeStep first) rest

/-- Where the file can be written, steps return and leave it so. -/
theorem Describes.returns {steps : List StoreStep}
    (describes : ledger.Describes project session.disk store)
    (canWrite : session.disk.CanWrite project.placesPath) :
    ∃ next last, (project.takeSteps store steps).run.run session = (.ok next, last) ∧
      last.disk.CanWrite project.placesPath := by
  induction steps generalizing ledger session store with
  | nil => exact ⟨store, session, rfl, canWrite⟩
  | cons step steps ih =>
      have first : ∃ between middle,
          (project.takeStep store step).run.run session = (.ok between, middle) ∧
            middle.disk.CanWrite project.placesPath := by
        cases step with
        | replace placing => exact ⟨_, session, rfl, canWrite⟩
        | persist =>
            unfold Project.takeStep Project.persist
            dsimp only
            split
            · rw [run_bind_of_ok (run_writeText session canWrite store.render)]
              exact ⟨_, _, rfl, Disk.canWrite_write (canWrite _)⟩
            · exact ⟨store, session, rfl, canWrite⟩
        | reload =>
            obtain ⟨stored, records, run, -⟩ := describes.reload
            exact ⟨stored, _, run, canWrite⟩
      obtain ⟨between, middle, isFirst, canWriteNow⟩ := first
      obtain ⟨next, last, isRest, canWriteLast⟩ := ih (describes.takeStep isFirst) canWriteNow
      unfold Project.takeSteps
      rw [List.foldlM_cons, run_bind_of_ok isFirst]
      exact ⟨next, last, isRest, canWriteLast⟩

end Describes

end Ledger

/-! ## What a reloaded store holds -/

/-- The places that are given last in some steps, if any are given. -/
def lastGiven? (steps : List StoreStep) : Option Placing :=
  (steps.filterMap fun step => match step with
    | .replace placing => some placing
    | .persist | .reload => none).getLast?

/-- The places that a store was given last in some steps, or that it gave before them. -/
def lastPlaces (store : PlaceStore) (steps : List StoreStep) : List (String × List Place) :=
  match lastGiven? steps with
  | some placing => placing.places
  | none => store.places

section Reloaded

variable {steps : List StoreStep}

/-- Without a persist the file stays as it is. -/
theorem Ledger.filed_takeSteps (ledger : Ledger) (noPersist : .persist ∉ steps) :
    (ledger.takeSteps steps).filed = ledger.filed := by
  induction steps generalizing ledger with
  | nil => rfl
  | cons step steps ih =>
      rw [List.mem_cons, not_or] at noPersist
      have rest := ih (ledger.takeStep step) noPersist.2
      cases step with
      | persist => exact absurd rfl noPersist.1
      | replace placing => exact rest
      | reload => exact rest

/-- Without a reload a store holds what it was given last. -/
theorem Ledger.held_takeSteps (ledger : Ledger) (noReload : .reload ∉ steps) :
    (ledger.takeSteps steps).held =
      ((lastGiven? steps).map Placing.mapping).getD ledger.held := by
  induction steps using List.reverseRecOn with
  | nil => rfl
  | append_singleton steps step ih =>
      rw [List.mem_append, not_or] at noReload
      have before := ih noReload.1
      rw [takeSteps, List.foldl_append]
      rw [lastGiven?, List.filterMap_append, List.getLast?_append]
      cases step with
      | reload => exact absurd (List.mem_singleton.mpr rfl) noReload.2
      | replace placing => rfl
      | persist => exact before

/-- A store is as it was read: nothing was done with it, or it was reloaded last. -/
def EndsRead (steps : List StoreStep) : Prop :=
  steps = [] ∨ ∃ earlier, steps = earlier ++ [.reload]

/-- What becomes of the places of a store.  Its steps up to a reload, if there is one, are followed
by steps up to a persist, and those by others without a persist. -/
structure KeepsPlaces (project : Project) (start : PlaceStore) (session : Session)
    (front middle later : List StoreStep) : Prop where
  returns : session.disk.CanWrite project.placesPath → ∃ held between present last,
    (project.takeSteps start front).run.run session = (.ok held, between) ∧
      (project.takeSteps held (middle ++ .persist :: later)).run.run between = (.ok present, last)
  holds : ∀ held between present last,
    (project.takeSteps start front).run.run session = (.ok held, between) →
      (project.takeSteps held (middle ++ .persist :: later)).run.run between =
        (.ok present, last) →
      ∃ reloaded final, project.readPlaces.run.run last = (.ok reloaded, final) ∧
        reloaded.Holds (lastPlaces held middle)

/-- A store that is reloaded holds what was given last before the persist, unless a reload had
discarded it by then. -/
theorem keepsPlaces_steps {project : Project} {start : PlaceStore} {session loaded : Session}
    {front middle later : List StoreStep}
    (isLoaded : project.readPlaces.run.run session = (.ok start, loaded))
    (endsRead : EndsRead front) (noReload : .reload ∉ middle) (noPersist : .persist ∉ later) :
    KeepsPlaces project start loaded front middle later := by
  have isStored := storedPlaces_of_readPlaces isLoaded
  rw [← (keepsDisk_readPlaces project).disk_eq isLoaded] at isStored
  have describes : Ledger.Describes ⟨start.mapping, start.mapping⟩ project loaded.disk start :=
    ⟨(isProper_of_storedPlaces isStored).1, rfl, ⟨start, isStored, rfl⟩, fun _ => rfl⟩
  constructor
  · intro canWrite
    obtain ⟨held, between, ranFront, canWriteNow⟩ := describes.returns canWrite
    obtain ⟨present, last, ran, -⟩ := (describes.takeSteps ranFront).returns canWriteNow
    exact ⟨held, between, present, last, ranFront, ran⟩
  · intro held between present last ranFront ran
    have atReload := describes.takeSteps ranFront
    generalize isLedger : Ledger.takeSteps _ front = ledger at atReload
    have same : ledger.held = ledger.filed := by
      rw [← isLedger]
      rcases endsRead with rfl | ⟨earlier, rfl⟩
      · rfl
      · rw [Ledger.takeSteps, List.foldl_append]
        rfl
    obtain ⟨reloaded, records, isReloaded, atEnd⟩ := (atReload.takeSteps ran).reload
    refine ⟨reloaded, _, isReloaded, ?_⟩
    have isMapping : reloaded.mapping =
        ((lastGiven? middle).map Placing.mapping).getD held.mapping := by
      rw [atEnd.held, atReload.held, ← ledger.held_takeSteps noReload, Ledger.takeSteps,
        List.foldl_append, List.foldl_cons]
      exact Ledger.filed_takeSteps _ noPersist
    unfold lastPlaces
    cases isGiven : lastGiven? middle with
    | some placing =>
        rw [isGiven] at isMapping
        exact atEnd.proper.holds placing.distinct fun key => congrFun isMapping key
    | none =>
        rw [isGiven] at isMapping
        refine atEnd.proper.holds atReload.proper.distinct fun key => ?_
        rw [← atReload.proper.mapping_eq]
        exact congrFun isMapping key

end Reloaded

/-- A path with a colon, a path that is not ASCII and a key without places, after a reload. -/
theorem keepsPlaces_two_keys :
    let project : Project := ⟨.ofParts ["p"], {}⟩
    let session : Session := { disk := { directories := [["p"]] } }
    let first : Placing := ⟨[("k", [⟨"a", 1⟩])], by decide, by decide⟩
    let second : Placing := ⟨[("k", [⟨"é.jsx", 12⟩, ⟨"c:3", 4⟩, ⟨"c:3", 4⟩]), ("none", [])],
      by decide, by decide⟩
    let middle : List StoreStep := [.replace first, .persist, .replace second]
    ∃ start loaded, project.readPlaces.run.run session = (.ok start, loaded) ∧
      loaded.disk.CanWrite project.placesPath ∧ EndsRead [.replace second, .reload] ∧
      .reload ∉ middle ∧ .persist ∉ [StoreStep.replace first] ∧
      KeepsPlaces project start loaded [.replace second, .reload] middle [.replace first] := by
  intro project session first second middle
  have canWrite : session.disk.CanWrite project.placesPath := by decide +kernel
  have isThere : (project.storedPlaces session.disk).toOption.isSome = true := by decide +kernel
  obtain ⟨start, isStart⟩ := Option.isSome_iff_exists.mp isThere
  obtain ⟨records, isLoaded⟩ := run_readPlaces project session
  rw [toOption_eq_some_iff.mp isStart] at isLoaded
  have endsRead : EndsRead [.replace second, .reload] := .inr ⟨[.replace second], rfl⟩
  have noReload : .reload ∉ middle := by simp [middle]
  have noPersist : .persist ∉ [StoreStep.replace first] := by simp
  exact ⟨start, _, isLoaded, canWrite, endsRead, noReload, noPersist,
    keepsPlaces_steps isLoaded endsRead noReload noPersist⟩

section Commit

variable {project : Project} {session last : Session} {store : PlaceStore} {revision : Revision}

theorem persist_of_storePlaces {result : Revision}
    (done : (if store.isChanged then (do writeText project.placesPath store.render; return revision)
      else return revision : Command Revision).run.run session = (.ok result, last)) :
    ∃ next, (project.persist store).run.run session = (.ok next, last) := by
  unfold persist
  split at done
  · rename_i isChanged
    obtain ⟨_, between, isWritten, done⟩ := Book.run_bind_eq_ok_iff.mp done
    cases done
    rw [if_pos isChanged, run_bind_of_ok isWritten]
    exact ⟨_, rfl⟩
  · rename_i notChanged
    cases done
    rw [if_neg notChanged]
    exact ⟨_, rfl⟩

/-- A book is written back before the places of its entries, which the store is given and which it
writes then. -/
theorem persist_of_commit {former : String} {updated : Book.Updated}
    (done : (project.commit former updated store false).run.run session = (.ok revision, last)) :
    ∃ between next,
      (between.disk = session.disk ∨ ∃ source,
        (session.disk.write project.bookPath source).1 = .ok () ∧
          between.disk = (session.disk.write project.bookPath source).2) ∧
      (project.persist (store.replace updated.book.placesByKey)).run.run between =
        (.ok next, last) := by
  unfold commit at done
  dsimp only at done
  obtain ⟨_, said, isSaid, done⟩ := Book.run_bind_eq_ok_iff.mp done
  cases isSaid
  rw [if_neg Bool.false_ne_true] at done
  split at done
  · obtain ⟨_, written, isWritten, done⟩ := Book.run_bind_eq_ok_iff.mp done
    obtain ⟨_, told, isTold, done⟩ := Book.run_bind_eq_ok_iff.mp done
    cases isTold
    obtain ⟨isDone, isDisk⟩ := disk_of_writeText (run_writeText_of_writeBook isWritten)
    obtain ⟨next, isPersisted⟩ := persist_of_storePlaces done
    refine ⟨_, next, ?_, isPersisted⟩
    exact .inr ⟨_, isDone, isDisk⟩
  · obtain ⟨next, isPersisted⟩ := persist_of_storePlaces done
    refine ⟨_, next, ?_, isPersisted⟩
    exact .inl rfl

end Commit

/-- What was given before a reload is gone: the store is reloaded without the place that it was
given before it was written. -/
theorem exists_discarded :
    let project : Project := ⟨.ofParts ["p"], {}⟩
    let session : Session := { disk := { directories := [["p"]] } }
    let placing : Placing := ⟨[("k", [⟨"a", 1⟩])], by decide, by decide⟩
    let steps := [.reload, .replace placing, .reload, .persist, .reload]
    ∃ reloaded, ((project.takeSteps {} steps).run.run session).1 = .ok reloaded ∧
      ¬reloaded.Holds placing.places := by
  intro project session placing steps
  have isEmpty : ((project.takeSteps {} steps).run.run session).1.toOption.map (·.get "k") =
      some [] := by
    decide +kernel
  obtain ⟨reloaded, isReloaded, noPlaces⟩ := Option.map_eq_some_iff.mp isEmpty
  refine ⟨reloaded, toOption_eq_some_iff.mp isReloaded, fun holds => ?_⟩
  have isGiven := (holds.members "k" ⟨"a", 1⟩).mpr
    ⟨[⟨"a", 1⟩], List.mem_cons_self, List.mem_cons_self⟩
  rw [noPlaces] at isGiven
  contradiction

end Phrasebook.Project
