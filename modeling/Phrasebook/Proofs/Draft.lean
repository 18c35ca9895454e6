import Phrasebook.Book.Reader
import Phrasebook.Book.Writer
import Phrasebook.Proofs.BuiltBook

/-!
# Drafts

A new entry has a draft in every configured language, which shows the phrase as
it stands in the source.  So every new phrase can be built with the updated
book.  A book that is written and read again may have lost phrases, since drafts
are copied as they are: what begins a comment in one may be ended by another.
-/

namespace Phrasebook.Build

open Book (UpdateOptions Observed)

section Draft

variable {options : UpdateOptions} {phrase : Phrase}

theorem markup?_draftRendering (language : String) :
    (Book.draftRendering options phrase language).markup? = none := by
  unfold Book.draftRendering
  split <;> rfl

theorem language_draftRendering (language : String) :
    (Book.draftRendering options phrase language).language = language := by
  unfold Book.draftRendering
  split <;> rfl

/-- A new entry has a rendering in a configured language, and none of its renderings is markup. -/
theorem firstRendering?_newEntry (phrase : Phrase) (places : List Place)
    {languages : List String} {language : String}
    (wanted : language ∈ languages) (configured : language ∈ options.languages) :
    ∃ rendering, (Book.newEntry options phrase places).firstRendering? languages =
      some rendering ∧ rendering.markup? = none := by
  have isDraft {language : String} {rendering : Rendering}
      (found : (Book.newEntry options phrase places).rendering? language = some rendering) :
      rendering.markup? = none := by
    obtain ⟨other, _, rfl⟩ := List.mem_map.mp (List.mem_of_find?_eq_some found)
    exact markup?_draftRendering other
  have hasDraft : ((Book.newEntry options phrase places).rendering? language).isSome = true := by
    refine List.find?_isSome.mpr
      ⟨Book.draftRendering options phrase language, List.mem_map_of_mem configured, ?_⟩
    rw [language_draftRendering]
    exact beq_self_eq_true language
  cases found : (Book.newEntry options phrase places).firstRendering? languages with
  | none =>
      have missing := List.findSome?_eq_none_iff.mp found language wanted
      rw [missing] at hasDraft
      contradiction
  | some rendering =>
      obtain ⟨other, _, isFound⟩ := List.exists_of_findSome?_eq_some found
      exact ⟨rendering, rfl, isDraft isFound⟩

end Draft

section Update

variable {book : Book} {observed : Observed} {options : UpdateOptions} {exists? : String → Bool}

theorem exists_newEntry (options : UpdateOptions) {phrase : Phrase}
    {file : String × List Phrase} (fileMem : file ∈ observed) (phraseMem : phrase ∈ file.2)
    (isNew : phrase.key ∉ book.keys) :
    ∃ first places, first.key = phrase.key ∧
      Book.newEntry options first places ∈ Book.newEntries book observed options := by
  have observedKey : phrase.key ∈ (Book.observations observed).map (·.1.key) := by
    rw [Book.map_key_observations, List.mem_flatMap]
    exact ⟨file, (Book.inOrder_perm observed).mem_iff.mpr fileMem, List.mem_map_of_mem phraseMem⟩
  have isListed : phrase.key ∈
      (Book.newPhrases book.keys (Book.observations observed)).map (·.key) := by
    rw [Book.map_key_newPhrases, List.mem_eraseDups, List.mem_filter]
    exact ⟨observedKey, by simpa using isNew⟩
  obtain ⟨first, firstMem, sameKey⟩ := List.mem_map.mp isListed
  exact ⟨first, _, sameKey, List.mem_map_of_mem firstMem⟩

/-- A phrase that an update has found under a new key can be built for every configured language,
and its element refers to it. -/
theorem rendered_update (tag : String) (distinct : book.keys.Nodup) {phrase : Phrase}
    {file : String × List Phrase} (fileMem : file ∈ observed) (phraseMem : phrase ∈ file.2)
    (isNew : phrase.key ∉ book.keys) {languages : List String} {language : String}
    (wanted : language ∈ languages) (configured : language ∈ options.languages) :
    ∃ element, rendered tag (book.update observed options exists?).book languages phrase =
      .ok element ∧ element.RefersTo phrase := by
  obtain ⟨first, places, sameKey, entryMem⟩ :=
    exists_newEntry options fileMem phraseMem isNew
  have updatedMem := (Book.mem_update_entries book observed options exists?).mpr (.inr entryMem)
  have updatedDistinct := Book.nodup_update_keys book observed options exists? distinct
  obtain ⟨rendering, isFirst, noMarkup⟩ :=
    firstRendering?_newEntry first places wanted configured
  have isChosen : chosen? (book.update observed options exists?).book languages phrase.key =
      some rendering := by
    rw [← sameKey, ← isFirst]
    exact chosen?_eq_firstRendering? updatedDistinct updatedMem
  refine ⟨_, rendered_of_chosen? isChosen, ?_⟩
  unfold elementOf
  rw [noMarkup]
  exact List.prefix_append _ _

end Update

/-- The draft of the first phrase begins a comment as soon as that of the second one follows it, and
so the second phrase is lost when the book is read. -/
theorem rendered_of_swallowed_draft :
    let first : Phrase := { (default : Phrase) with key := "a", body := "\x7b/*a/\x7d" }
    let second : Phrase :=
      { (default : Phrase) with key := "b", body := "\x7b/[*/\x7d\x7ba[x]/y\x7d" }
    let book : Book := {
      preamble := ""
      entries := [Book.newEntry {} first [], Book.newEntry {} second []] }
    (rendered "T" book ["en"] second).toOption.isSome = true ∧
      ∃ again, Book.read none "T" (book.text "") = .ok again ∧ again.keys = ["a"] ∧
        (rendered "T" again ["en"] second).toOption = none := by
  intro first second book
  have isBuilt : (rendered "T" book ["en"] second).toOption.isSome = true := by decide +kernel
  have lost : (Book.read none "T" (book.text "")).toOption.map (fun again =>
      (again.keys, (rendered "T" again ["en"] second).toOption)) = some (["a"], none) := by
    decide +kernel
  obtain ⟨again, isRead, isLost⟩ := Option.map_eq_some_iff.mp lost
  obtain ⟨isKeys, isMissed⟩ := Prod.mk.inj isLost
  exact ⟨isBuilt, again, toOption_eq_some_iff.mp isRead, isKeys, isMissed⟩

end Phrasebook.Build
