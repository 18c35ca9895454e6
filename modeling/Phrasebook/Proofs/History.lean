import Phrasebook.Book.Reader
import Phrasebook.Exchange.Import
import Phrasebook.PlaceStore
import Phrasebook.Proofs.KeyChange
import Phrasebook.Proofs.Provenance
import Phrasebook.Proofs.UpdateEffect

/-!
# What happens to a book

A book that was read is brought up to date, filled by imports and given other
keys, in any order, and some of these fail.  Its keys stay distinct, and every
entry goes on with all its renderings: nothing but an import changes their
bodies, and nothing but a change of keys the key.
-/

namespace Phrasebook.Book

/-! ## Books that are read -/

section Read

variable {tag : String}

theorem Draft.key_add {draft next : Draft} {site : Markup.Site}
    (done : draft.add tag site = .ok next) : next.entry.key = draft.entry.key := by
  rcases Draft.add_cases done with ⟨sameKey, _⟩ | ⟨_, _, _, _, _, _, rfl⟩
  · exact sameKey
  · rfl

theorem key_entryOf {member : Member} {entry : Entry} (done : entryOf tag member = .ok entry) :
    entry.key = member.name := by
  obtain ⟨body, _, done⟩ := bind_eq_ok_iff.mp done
  obtain ⟨draft, isDraft, done⟩ := bind_eq_ok_iff.mp done
  obtain rfl := Except.ok.inj done
  have keeps {state : Draft} {site : Markup.Site} {next : Draft}
      (named : state.entry.key = member.name) (added : state.add tag site = .ok next) :
      next.entry.key = member.name :=
    (Draft.key_add added).trans named
  exact foldlM_preserves (fun draft => draft.entry.key = member.name) keeps rfl isDraft

theorem nodup_key_addEntry {entries next : List Entry} {site : Markup.Site}
    (distinct : (entries.map (·.key)).Nodup) (done : addEntry tag entries site = .ok next) :
    (next.map (·.key)).Nodup := by
  obtain ⟨member, _, done⟩ := bind_eq_ok_iff.mp done
  dsimp only at done
  split_ifs at done with isRepeated
  · obtain ⟨_, refused, _⟩ := bind_eq_ok_iff.mp done
    contradiction
  · obtain ⟨entry, isEntry, done⟩ := bind_eq_ok_iff.mp done
    obtain rfl := Except.ok.inj done
    have isNew : entry.key ∉ entries.map (·.key) := by
      intro again
      obtain ⟨other, otherMem, sameKey⟩ := List.mem_map.mp again
      refine isRepeated (List.any_eq_true.mpr ⟨other, otherMem, beq_iff_eq.mpr ?_⟩)
      exact sameKey.trans (key_entryOf isEntry)
    rw [List.map_append, List.nodup_append_comm]
    exact List.nodup_cons.mpr ⟨isNew, distinct⟩

theorem nodup_keys_of_read {path? : Option String} {text : String} {book : Book}
    (isRead : Book.read path? tag text = .ok book) : book.keys.Nodup := by
  obtain ⟨⟨preamble, object⟩, _, isRead⟩ := bind_eq_ok_iff.mp isRead
  obtain ⟨entries, isEntries, isRead⟩ := bind_eq_ok_iff.mp isRead
  obtain rfl := Except.ok.inj isRead
  exact foldlM_preserves (fun entries => (entries.map (·.key)).Nodup) nodup_key_addEntry
    List.nodup_nil isEntries

end Read

/-! ## Actions -/

/-- Something that is done to a book. -/
inductive Action where
  | addPlaces (store : PlaceStore)
  | update (observed : Observed) (options : UpdateOptions) (exists? : String → Bool)
  | importDocument (indent marker : String) (document : Exchange.Document)
  | rekey (keys : KeyMap)

namespace Action

/-- The book after an action. An import that ends with a fault leaves what it has filled before,
and a change of keys that is refused leaves the book as it was. -/
def apply (book : Book) : Action → Book
  | addPlaces store => store.addToBook book
  | update observed options exists? => (book.update observed options exists?).book
  | importDocument indent marker document =>
    (Exchange.importDocument indent marker document book).book
  | rekey keys =>
    match book.rekey keys with
    | .ok (renamed, _) => renamed
    | .error _ => book

/-- Whether an action may change bodies of renderings. -/
def fills : Action → Bool
  | importDocument .. => true
  | _ => false

/-- Whether an action may change keys of entries. -/
def rekeys : Action → Bool
  | rekey _ => true
  | _ => false

end Action

/-- The book after some actions. -/
def after (book : Book) (actions : List Action) : Book :=
  actions.foldl Action.apply book

theorem after_append (book : Book) (earlier later : List Action) :
    book.after (earlier ++ later) = (book.after earlier).after later :=
  List.foldl_append

/-! ## Entries that go on -/

/-- A rendering as it was, except perhaps for its body. -/
def IsRefilled (former current : Rendering) : Prop :=
  current = { former with body := current.body }

theorem IsRefilled.refl (rendering : Rendering) : IsRefilled rendering rendering :=
  rfl

theorem IsRefilled.trans {first second third : Rendering} (former : IsRefilled first second)
    (latter : IsRefilled second third) : IsRefilled first third := by
  unfold IsRefilled at former latter ⊢
  rw [latter, former]

/-- What an entry has become: bodies may differ only if something was filled, and the key only if
keys were changed. -/
structure IsLater (fills rekeys : Bool) (former current : Entry) : Prop where
  dependencies : current.dependencies = former.dependencies
  context : current.context = former.context
  notes : current.notes = former.notes
  renderings : List.Forall₂ IsRefilled former.renderings current.renderings
  bodies : fills = false → current.renderings = former.renderings
  key : rekeys = false → current.key = former.key

namespace IsLater

variable {fills rekeys : Bool} {first second third : Entry}

theorem of_eq (dependencies : second.dependencies = first.dependencies)
    (context : second.context = first.context) (notes : second.notes = first.notes)
    (renderings : second.renderings = first.renderings)
    (key : rekeys = false → second.key = first.key) : IsLater fills rekeys first second where
  dependencies
  context
  notes
  renderings := renderings ▸ List.forall₂_same.mpr fun rendering _ => IsRefilled.refl rendering
  bodies _ := renderings
  key

theorem refl (entry : Entry) : IsLater fills rekeys entry entry :=
  of_eq rfl rfl rfl rfl fun _ => rfl

theorem trans (former : IsLater fills rekeys first second)
    (latter : IsLater fills rekeys second third) : IsLater fills rekeys first third where
  dependencies := latter.dependencies.trans former.dependencies
  context := latter.context.trans former.context
  notes := latter.notes.trans former.notes
  renderings := by
    refine forall₂_of_common ?_ (List.Forall₂.flip former.renderings) latter.renderings
    exact fun _ _ _ => IsRefilled.trans
  bodies unfilled := (latter.bodies unfilled).trans (former.bodies unfilled)
  key unchanged := (latter.key unchanged).trans (former.key unchanged)

theorem mono {fills' rekeys' : Bool} (isLater : IsLater fills rekeys first second)
    (fewerFills : fills' = false → fills = false)
    (fewerRekeys : rekeys' = false → rekeys = false) : IsLater fills' rekeys' first second where
  dependencies := isLater.dependencies
  context := isLater.context
  notes := isLater.notes
  renderings := isLater.renderings
  bodies unfilled := isLater.bodies (fewerFills unfilled)
  key unchanged := isLater.key (fewerRekeys unchanged)

end IsLater

instance (fills rekeys : Bool) : IsTrans Entry (IsLater fills rekeys) where
  trans _ _ _ := IsLater.trans

/-- Every entry of a book goes on in another one, and the entries keep their order. -/
def Continues (fills rekeys : Bool) (former current : Book) : Prop :=
  List.SublistForall₂ (IsLater fills rekeys) former.entries current.entries

namespace Continues

variable {fills rekeys : Bool} {first second third : Book}

theorem of_forall₂
    (pairs : List.Forall₂ (IsLater fills rekeys) first.entries second.entries) :
    Continues fills rekeys first second :=
  List.sublistForall₂_iff.mpr ⟨second.entries, pairs, .refl _⟩

theorem refl (book : Book) : Continues fills rekeys book book :=
  of_forall₂ (List.forall₂_same.mpr fun entry _ => IsLater.refl entry)

theorem trans (former : Continues fills rekeys first second)
    (latter : Continues fills rekeys second third) : Continues fills rekeys first third :=
  List.SublistForall₂.is_trans.trans _ _ _ former latter

theorem mono {fills' rekeys' : Bool} (continues : Continues fills rekeys first second)
    (fewerFills : fills' = false → fills = false)
    (fewerRekeys : rekeys' = false → rekeys = false) :
    Continues fills' rekeys' first second := by
  obtain ⟨kept, pairs, sublist⟩ := List.sublistForall₂_iff.mp continues
  refine List.sublistForall₂_iff.mpr ⟨kept, pairs.imp fun _ _ isLater => ?_, sublist⟩
  exact isLater.mono fewerFills fewerRekeys

end Continues

/-! ## Imports -/

section Import

open Exchange

/-- A rendering takes the place of the one that is found in its language. -/
theorem forall₂_isRefilled_replaceRendering {renderings : List Rendering} {language : String}
    {former current : Rendering}
    (found : renderings.find? (·.language == language) = some former)
    (refilled : IsRefilled former current) :
    List.Forall₂ IsRefilled renderings (replaceRendering current renderings) := by
  have formerLanguage : former.language = language := by
    simpa using List.find?_some found
  -- only the body differs, so both are found by the same test
  have currentLanguage : current.language = language := by
    rw [refilled]
    exact formerLanguage
  induction renderings with
  | nil => simp at found
  | cons first others ih =>
      have same (other : Rendering) (_ : other ∈ others) : IsRefilled other other :=
        IsRefilled.refl other
      rw [replaceRendering, currentLanguage]
      by_cases isFirst : first.language = language
      · rw [List.find?_cons_of_pos (by simpa using isFirst)] at found
        rw [if_pos (by simpa using isFirst), Option.some.inj found]
        exact .cons refilled (List.forall₂_same.mpr same)
      · rw [List.find?_cons_of_neg (by simpa using isFirst)] at found
        rw [if_neg (by simpa using isFirst)]
        exact .cons (IsRefilled.refl first) (ih found)

theorem isRefilled_of_fill {indent marker key : String} {rendering filled : Rendering}
    {slots : List (List Node)}
    (done : fill indent key marker rendering slots = .ok filled) : IsRefilled rendering filled := by
  obtain ⟨body, _, done⟩ := bind_eq_ok_iff.mp done
  obtain rfl := Except.ok.inj done
  rfl

variable (indent marker : String)

theorem isLater_fillWording (filling : Filling) (wording : Wording) :
    IsLater true false filling.entry (fillWording indent marker filling wording).entry := by
  unfold fillWording
  cases filling.fault? with
  | some fault => exact IsLater.refl filling.entry
  | none =>
      dsimp only
      cases found : filling.entry.rendering? wording.language with
      | none => exact IsLater.refl filling.entry
      | some rendering =>
          dsimp only
          cases filled : fill indent filling.entry.key marker rendering wording.slots with
          | error fault => exact IsLater.refl filling.entry
          | ok current =>
              have renderings := forall₂_isRefilled_replaceRendering found
                (isRefilled_of_fill filled)
              exact ⟨rfl, rfl, rfl, renderings, nofun, fun _ => rfl⟩

theorem isLater_fillEntry (entry : Entry) (item : Item) :
    IsLater true false entry (fillEntry indent marker entry item).entry := by
  have folded (filling : Filling) (wordings : List Wording) :
      IsLater true false filling.entry
        (wordings.foldl (fillWording indent marker) filling).entry := by
    induction wordings generalizing filling with
    | nil => exact IsLater.refl filling.entry
    | cons wording wordings ih =>
        exact (isLater_fillWording indent marker filling wording).trans (ih _)
  have flagged : IsLater true false entry { entry with isNew := item.isNew?.getD entry.isNew } :=
    .of_eq rfl rfl rfl rfl fun _ => rfl
  exact flagged.trans (folded { entry := { entry with isNew := item.isNew?.getD entry.isNew } }
    item.wordings)

/-- The entries that an import has not come to yet go on behind those that it is done with, whether
it fails on the way or not. -/
theorem exists_append_fillEntries (document : Document) (imported : Imported)
    (entries : List Entry) :
    ∃ filled, (fillEntries indent marker document imported entries).book.entries =
      imported.book.entries ++ filled ∧ List.Forall₂ (IsLater true false) entries filled := by
  induction entries generalizing imported with
  | nil => exact ⟨[], by simp [fillEntries], .nil⟩
  | cons entry entries ih =>
      have goesOn (next : Imported) (current : Entry)
          (isNext : next.book.entries = imported.book.entries ++ [current])
          (isLater : IsLater true false entry current) :
          ∃ filled, (fillEntries indent marker document next entries).book.entries =
            imported.book.entries ++ filled ∧
              List.Forall₂ (IsLater true false) (entry :: entries) filled := by
        obtain ⟨filled, isFilled, pairs⟩ := ih next
        refine ⟨current :: filled, ?_, .cons isLater pairs⟩
        rw [isFilled, isNext, List.append_assoc]
        rfl
      rw [fillEntries]
      dsimp only
      split
      · exact goesOn _ _ rfl (isLater_fillEntry indent marker entry _)
      · exact goesOn _ _ rfl (IsLater.refl entry)

theorem forall₂_isLater_importDocument (document : Document) (book : Book) :
    List.Forall₂ (IsLater true false) book.entries
      (importDocument indent marker document book).book.entries := by
  obtain ⟨filled, isFilled, pairs⟩ := exists_append_fillEntries indent marker document
    { book := { book with entries := [] } } book.entries
  rw [importDocument, isFilled]
  exact pairs

end Import

/-! ## One action -/

section Apply

variable {book : Book}

theorem isLater_addTo {fills rekeys : Bool} (store : PlaceStore) (entry : Entry) :
    IsLater fills rekeys entry (store.addTo entry) := by
  unfold PlaceStore.addTo
  split
  · exact IsLater.refl entry
  · exact .of_eq rfl rfl rfl rfl fun _ => rfl

theorem forall₂_isLater_addToBook (book : Book) (store : PlaceStore) :
    List.Forall₂ (IsLater false false) book.entries (store.addToBook book).entries :=
  List.forall₂_map_right_iff.mpr (List.forall₂_same.mpr fun entry _ => isLater_addTo store entry)

theorem keys_eq_of_forall₂ {fills : Bool} {current : Book}
    (pairs : List.Forall₂ (IsLater fills false) book.entries current.entries) :
    current.keys = book.keys :=
  (map_eq_map_of_forall₂ (pairs.imp fun _ _ isLater => (isLater.key rfl).symm)).symm

theorem continues_update (observed : Observed) (options : UpdateOptions)
    (exists? : String → Bool) :
    Continues false false book (book.update observed options exists?).book := by
  refine List.sublistForall₂_iff.mpr
    ⟨_, ?_, sublist_update_entries book observed options exists?⟩
  refine List.forall₂_map_right_iff.mpr (List.forall₂_same.mpr fun entry _ => ?_)
  rw [revised_eq]
  exact .of_eq rfl rfl rfl rfl fun _ => rfl

theorem forall₂_isLater_rekey {keys changes : KeyMap} {renamed : Book}
    (distinct : book.keys.Nodup) (done : book.rekey keys = .ok (renamed, changes)) :
    List.Forall₂ (IsLater false true) book.entries renamed.entries := by
  rw [(keyChange_of_rekey distinct done).eq]
  refine List.forall₂_map_right_iff.mpr (List.forall₂_same.mpr fun entry _ => ?_)
  exact .of_eq rfl rfl rfl rfl nofun

theorem continues_rekey {keys changes : KeyMap} {renamed : Book} (distinct : book.keys.Nodup)
    (done : book.rekey keys = .ok (renamed, changes)) : Continues false true book renamed :=
  .of_forall₂ (forall₂_isLater_rekey distinct done)

/-- A change of keys is made as a whole or not at all. -/
theorem apply_rekey_cases (book : Book) (keys : KeyMap) :
    (Action.rekey keys).apply book = book ∨
      ∃ renamed changes, book.rekey keys = .ok (renamed, changes) ∧
        (Action.rekey keys).apply book = renamed := by
  simp only [Action.apply]
  cases book.rekey keys with
  | error fault => exact .inl rfl
  | ok result => exact .inr ⟨result.1, result.2, rfl, rfl⟩

/-- Every action keeps keys distinct. -/
theorem nodup_keys_apply (distinct : book.keys.Nodup) (action : Action) :
    (action.apply book).keys.Nodup := by
  cases action with
  | addPlaces store =>
      have pairs := forall₂_isLater_addToBook book store
      exact (keys_eq_of_forall₂ pairs).symm ▸ distinct
  | update observed options exists? =>
      exact nodup_update_keys book observed options exists? distinct
  | importDocument indent marker document =>
      have pairs := forall₂_isLater_importDocument indent marker document book
      exact (keys_eq_of_forall₂ pairs).symm ▸ distinct
  | rekey keys =>
      rcases apply_rekey_cases book keys with isBook | ⟨renamed, changes, done, isRenamed⟩
      · exact isBook.symm ▸ distinct
      · exact isRenamed.symm ▸ (keyChange_of_rekey distinct done).distinct

/-- Every entry goes on through an action. -/
theorem continues_apply (distinct : book.keys.Nodup) (action : Action) :
    Continues action.fills action.rekeys book (action.apply book) := by
  cases action with
  | addPlaces store => exact .of_forall₂ (forall₂_isLater_addToBook book store)
  | update observed options exists? => exact continues_update observed options exists?
  | importDocument indent marker document =>
      exact .of_forall₂ (forall₂_isLater_importDocument indent marker document book)
  | rekey keys =>
      rcases apply_rekey_cases book keys with isBook | ⟨renamed, changes, done, isRenamed⟩
      · exact isBook.symm ▸ Continues.refl book
      · exact isRenamed.symm ▸ continues_rekey distinct done

end Apply

/-! ## Many actions -/

section After

variable {book : Book}

theorem nodup_keys_after (distinct : book.keys.Nodup) (actions : List Action) :
    (book.after actions).keys.Nodup := by
  induction actions generalizing book with
  | nil => exact distinct
  | cons action actions ih => exact ih (nodup_keys_apply distinct action)

theorem continues_after (distinct : book.keys.Nodup) (actions : List Action) :
    Continues (actions.any Action.fills) (actions.any Action.rekeys) book (book.after actions) := by
  induction actions generalizing book with
  | nil => exact Continues.refl book
  | cons action actions ih =>
      have first := continues_apply distinct action
      have rest := ih (nodup_keys_apply distinct action)
      -- what no action of the run does, neither the first one nor the rest does
      have atFirst {left right : Bool} (neither : (left || right) = false) : left = false :=
        (Bool.or_eq_false_iff.mp neither).1
      have atRest {left right : Bool} (neither : (left || right) = false) : right = false :=
        (Bool.or_eq_false_iff.mp neither).2
      rw [List.any_cons, List.any_cons]
      exact (first.mono atFirst atFirst).trans (rest.mono atRest atRest)

end After

/-- What holds whatever is done to a book. -/
structure Endures (book : Book) : Prop where
  distinct : ∀ actions, (book.after actions).keys.Nodup
  /-- Between any two moments every entry goes on with all its renderings. Bodies differ only if
  there was an import between them, and keys only if there was a change of keys. -/
  continues : ∀ earlier later,
    Continues (later.any Action.fills) (later.any Action.rekeys) (book.after earlier)
      (book.after (earlier ++ later))
  /-- An update leaves the places of every entry strictly sorted. -/
  sorted : ∀ earlier observed options exists?,
    ∀ entry ∈ (book.after (earlier ++ [.update observed options exists?])).entries,
      IsSorted Place.isBefore entry.places

/-- A book that was read endures whatever is done to it. -/
theorem endures_of_read {path? : Option String} {tag text : String} {book : Book}
    (isRead : Book.read path? tag text = .ok book) : Endures book where
  distinct := nodup_keys_after (nodup_keys_of_read isRead)
  continues earlier later := by
    rw [after_append]
    exact continues_after (nodup_keys_after (nodup_keys_of_read isRead) earlier) later
  sorted earlier observed options exists? entry entryMem := by
    rw [after_append] at entryMem
    exact update_places_sorted (book.after earlier) observed options exists? entryMem

/-- A book with an entry in two languages, whose places are not in order, and a second entry. -/
theorem endures_two_entries :
    let text := "export default \x7ba:\x7b_refs:[\"f:2\",\"f:1\"],en:(n)=><O>\x7bn\x7d</O>," ++
      "sv:(n)=><O>!\x7bn\x7d</O>\x7d,b:\x7ben:()=><O>b</O>\x7d\x7d"
    ∃ book, Book.read none "T" text = .ok book ∧ book.keys = ["a", "b"] ∧ Endures book := by
  intro text
  have keys : (Book.read none "T" text).toOption.map Book.keys = some ["a", "b"] := by
    decide +kernel
  obtain ⟨book, isRead, isKeys⟩ := Option.map_eq_some_iff.mp keys
  have done := toOption_eq_some_iff.mp isRead
  exact ⟨book, done, isKeys, endures_of_read done⟩

end Phrasebook.Book
