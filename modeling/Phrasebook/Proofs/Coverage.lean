import Phrasebook.Proofs.Addressing
import Phrasebook.Proofs.Draft
import Phrasebook.Proofs.UpdateReturn

/-!
# Complete books

A new entry has a draft in every language that the project is configured for,
and nothing that is done to a book takes a rendering away.  So a project whose
languages stay the same never lacks a rendering: after an update all its phrases
can be built, and so can the book with the entries for phrases that are gone.
-/

namespace Phrasebook.Book

open Build (rendered rendered_of_chosen? chosen?_eq_firstRendering?)

/-- Whether every entry has a rendering in each of some languages. -/
def Covers (book : Book) (languages : List String) : Prop :=
  ∀ entry ∈ book.entries, ∀ language ∈ languages, (entry.rendering? language).isSome = true

/-- Whether new entries that an action makes have drafts in exactly some languages. -/
def Action.DraftsIn (languages : List String) : Action → Prop
  | update _ options _ => options.languages = languages
  | _ => True

/-! ## One entry -/

section Entry

variable {entry : Entry} {language : String}

theorem isSome_rendering?_iff :
    (entry.rendering? language).isSome = true ↔ language ∈ entry.renderings.map (·.language) := by
  unfold Entry.rendering?
  rw [List.find?_isSome, List.mem_map]
  simp only [beq_iff_eq]

/-- An entry keeps a rendering in every language that it has one in. -/
theorem IsLater.isSome_rendering?_iff {fills rekeys : Bool} {current : Entry}
    (isLater : IsLater fills rekeys entry current) :
    (current.rendering? language).isSome = true ↔ (entry.rendering? language).isSome = true := by
  have sameLanguage {former filled : Rendering} (refilled : IsRefilled former filled) :
      former.language = filled.language := by
    rw [refilled]
  have sameLanguages : entry.renderings.map (·.language) = current.renderings.map (·.language) :=
    map_eq_map_of_forall₂ (isLater.renderings.imp fun _ _ => sameLanguage)
  rw [Book.isSome_rendering?_iff, Book.isSome_rendering?_iff, sameLanguages]

end Entry

/-! ## One action -/

section Apply

variable {book : Book} {languages : List String}

theorem Covers.of_forall₂ {fills rekeys : Bool} {current : Book} (covers : book.Covers languages)
    (pairs : List.Forall₂ (IsLater fills rekeys) book.entries current.entries) :
    current.Covers languages := by
  intro entry entryMem language wanted
  obtain ⟨former, formerMem, _, isLater⟩ := exists_mem_zip_right pairs entryMem
  exact isLater.isSome_rendering?_iff.mpr (covers former formerMem language wanted)

/-- Revised entries have the renderings that they had, and new ones are drafted. -/
theorem Covers.update (covers : book.Covers languages) (observed : Observed)
    {options : UpdateOptions} (configured : options.languages = languages)
    (exists? : String → Bool) : (book.update observed options exists?).book.Covers languages := by
  intro entry entryMem language wanted
  rcases update_entries_cases book observed options exists? entryMem with
    ⟨former, formerMem, rfl⟩ | isNew
  · rw [revised_eq]
    exact covers former formerMem language wanted
  · obtain ⟨_, _, phrase, _, places, rfl⟩ := exists_phrase_of_mem_newEntries isNew
    rw [isSome_rendering?_iff, newEntry, List.map_map, configured]
    exact List.mem_map.mpr ⟨language, wanted, Build.language_draftRendering language⟩

/-- No action leaves an entry without a rendering. -/
theorem Covers.apply (covers : book.Covers languages) (distinct : book.keys.Nodup)
    {action : Action} (drafts : action.DraftsIn languages) :
    (action.apply book).Covers languages := by
  cases action with
  | addPlaces store => exact covers.of_forall₂ (forall₂_isLater_addToBook book store)
  | update observed options exists? => exact covers.update observed drafts exists?
  | importDocument indent marker document =>
      exact covers.of_forall₂ (forall₂_isLater_importDocument indent marker document book)
  | rekey keys =>
      rcases apply_rekey_cases book keys with isBook | ⟨renamed, changes, done, isRenamed⟩
      · exact isBook.symm ▸ covers
      · exact isRenamed.symm ▸ covers.of_forall₂ (forall₂_isLater_rekey distinct done)

/-- No run of actions leaves an entry without a rendering. -/
theorem Covers.after (covers : book.Covers languages) (distinct : book.keys.Nodup)
    {actions : List Action} (drafts : ∀ action ∈ actions, action.DraftsIn languages) :
    (book.after actions).Covers languages := by
  induction actions generalizing book with
  | nil => exact covers
  | cons action actions ih =>
      obtain ⟨first, others⟩ := List.forall_mem_cons.mp drafts
      exact ih (covers.apply distinct first) (nodup_keys_apply distinct action) others

end Apply

/-! ## Building -/

section Build

variable {book : Book} {languages : List String} {language : String}

theorem Covers.firstRendering? (covers : book.Covers languages) (wanted : language ∈ languages)
    {entry : Entry} (entryMem : entry ∈ book.entries) :
    (entry.firstRendering? [language]).isSome = true := by
  have found := covers entry entryMem language wanted
  unfold Entry.firstRendering?
  rw [List.findSome?_singleton]
  exact found

/-- A phrase whose key has an entry can be built. -/
theorem Covers.exists_rendered (covers : book.Covers languages) (distinct : book.keys.Nodup)
    (wanted : language ∈ languages) (tag : String) {phrase : Phrase}
    (known : phrase.key ∈ book.keys) :
    ∃ element, rendered tag book [language] phrase = .ok element := by
  obtain ⟨entry, entryMem, sameKey⟩ := List.mem_map.mp known
  obtain ⟨rendering, isFirst⟩ :=
    Option.isSome_iff_exists.mp (covers.firstRendering? wanted entryMem)
  have isChosen : Build.chosen? book [language] phrase.key = some rendering := by
    rw [← sameKey, chosen?_eq_firstRendering? distinct entryMem, isFirst]
  exact ⟨_, rendered_of_chosen? isChosen⟩

/-- The book can be built, entries for phrases that are gone included. -/
theorem Covers.exists_book (covers : book.Covers languages) (wanted : language ∈ languages)
    (indent : String) : ∃ text, Build.book book [language] indent = .ok text :=
  ⟨_, Build.book_eq_ok_iff.mpr ⟨fun _ => covers.firstRendering? wanted, rfl⟩⟩

end Build

/-- Nothing is missing from a book when it is built for one of some languages. -/
structure IsComplete (book : Book) (languages : List String) (observed : Observed) : Prop where
  covers : book.Covers languages
  exists_rendered : ∀ file ∈ observed, ∀ phrase ∈ file.2, ∀ language ∈ languages, ∀ tag,
    ∃ element, rendered tag book [language] phrase = .ok element
  exists_book : ∀ language ∈ languages, ∀ indent,
    ∃ text, Build.book book [language] indent = .ok text

/-- A book that begins without entries is complete after every update, whatever has been done to it
before, as long as all updates are for the same languages. -/
theorem isComplete_after_update {book : Book} (isEmpty : book.entries = [])
    {languages : List String} {actions : List Action}
    (drafts : ∀ action ∈ actions, action.DraftsIn languages) (observed : Observed)
    {options : UpdateOptions} (configured : options.languages = languages)
    (exists? : String → Bool) :
    (book.after (actions ++ [.update observed options exists?])).IsComplete languages
      observed := by
  have distinct : book.keys.Nodup := by
    rw [keys, isEmpty]
    exact List.nodup_nil
  have covers : book.Covers languages := fun entry entryMem => nomatch isEmpty ▸ entryMem
  -- what the last update starts from
  have distinctBefore : (book.after actions).keys.Nodup := nodup_keys_after distinct actions
  have coversAfter := (covers.after distinct drafts).update observed configured exists?
  rw [after_append]
  exact {
    covers := coversAfter
    exists_rendered := fun file fileMem phrase phraseMem language wanted tag =>
      coversAfter.exists_rendered (nodup_update_keys _ observed options exists? distinctBefore)
        wanted tag (knows_update file fileMem phrase phraseMem)
    exists_book := fun language wanted indent => coversAfter.exists_book wanted indent }

/-- Two phrases in two languages: an import fills the draft of one and fails at the other, their
keys are exchanged, and then the first one is gone from the sources, while a third one is there. -/
theorem isComplete_exchanged_keys :
    let phrase (key : String) (line : Nat) : Phrase :=
      { (default : Phrase) with key, body := key, place := ⟨"", line⟩ }
    let options : UpdateOptions := { languages := ["en", "sv"] }
    let items : List Exchange.Item := [
      { key := "a", wordings := [⟨"sv", [[.text "å"]]⟩] },
      { key := "b", wordings := [⟨"sv", []⟩] }]
    let actions : List Action := [
      .update [("f", [phrase "a" 1, phrase "b" 2])] options fun _ => true,
      .importDocument "\t" "O" ⟨items⟩,
      .rekey [("a", "b"), ("b", "a")]]
    let observed : Observed := [("f", [phrase "a" 1, phrase "c" 3])]
    let book := (Book.mk "" [] none false).after
      (actions ++ [.update observed options fun _ => true])
    (∀ action ∈ actions, action.DraftsIn ["en", "sv"]) ∧
      book.entries.map (fun entry => (entry.key, entry.isDeleted)) =
        [("b", true), ("a", false), ("c", false)] ∧
      book.IsComplete ["en", "sv"] observed ∧
      Build.book book ["sv"] "" = .ok ("export default \x7b\n\"b\": () => <O>å</O>,\n" ++
        "\"a\": () => <O>b</O>,\n\"c\": () => <O>c</O>,\n\x7d\n") := by
  intro phrase options items actions observed book
  have drafts : ∀ action ∈ actions, action.DraftsIn ["en", "sv"] := by
    simp only [actions, List.forall_mem_cons]
    exact ⟨rfl, trivial, trivial, List.forall_mem_nil _⟩
  have entries : book.entries.map (fun entry => (entry.key, entry.isDeleted)) =
      [("b", true), ("a", false), ("c", false)] := by decide +kernel
  have isBuilt : Build.book book ["sv"] "" =
      .ok ("export default \x7b\n\"b\": () => <O>å</O>,\n" ++
        "\"a\": () => <O>b</O>,\n\"c\": () => <O>c</O>,\n\x7d\n") := by decide +kernel
  exact ⟨drafts, entries, isComplete_after_update rfl drafts observed rfl fun _ => true, isBuilt⟩

end Phrasebook.Book
