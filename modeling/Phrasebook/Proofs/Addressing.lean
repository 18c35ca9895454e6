import Phrasebook.Book.Writer
import Phrasebook.Proofs.BuiltBook
import Phrasebook.Proofs.History
import Phrasebook.Proofs.Signature

/-!
# Entries and the phrases with their keys

An entry is made for the first phrase with its key, and later phrases with that
key use it as it is.  They can, because a signature tells the context of a phrase
and what it depends on: as long as no two signatures share a key, an entry fits
every phrase with its key, whatever is done to the book.  The one step that may
break this is to write the book and to read it again, since drafts are copied as
they are.
-/

namespace Phrasebook.Book

open Phrase (Origin keyOf)

/-- Whether an entry has what identifies another one. -/
structure HasContentOf (current former : Entry) : Prop where
  key : current.key = former.key
  dependencies : current.dependencies = former.dependencies
  context : current.context = former.context

/-- Whether every entry of a book has the content of one of another book. -/
def StemsFrom (current former : Book) : Prop :=
  ∀ entry ∈ current.entries, ∃ other ∈ former.entries, HasContentOf entry other

/-- Whether an entry can be used for a phrase. -/
structure Fits (entry : Entry) (phrase : Phrase) : Prop where
  dependencies : entry.dependencies = phrase.dependencies
  context : entry.context = phrase.context

/-- Whether every entry of a book can be used for all of some phrases that have its key. -/
def FitsAll (book : Book) (phrases : List Phrase) : Prop :=
  ∀ entry ∈ book.entries, ∀ phrase ∈ phrases, phrase.key = entry.key → Fits entry phrase

/-- Whether phrases with the same key have the same content. -/
def AreCoherent (phrases : List Phrase) : Prop :=
  ∀ left ∈ phrases, ∀ right ∈ phrases, left.key = right.key →
    left.dependencies = right.dependencies ∧ left.context = right.context

/-! ## Phrases -/

/-- Extracted phrases have the same content if they have the same key, provided that no two
signatures share a key. -/
theorem areCoherent_of_extracted {tag : String} {version : Int} {phrases : List Phrase}
    (extracted : ∀ phrase ∈ phrases, ∃ (origin : Origin) (found : List Phrase),
      origin.phrases tag version = .ok found ∧ phrase ∈ found)
    (apart : ∀ left ∈ phrases, ∀ right ∈ phrases, left.key = right.key →
      left.signature = right.signature) : AreCoherent phrases := by
  have signed (phrase : Phrase) (phraseMem : phrase ∈ phrases) :
      ∃ known, Phrase.IsSigned known phrase := by
    obtain ⟨origin, found, done, isFound⟩ := extracted phrase phraseMem
    obtain ⟨known, _, isSigned⟩ := Phrase.isSigned_of_phrases done phrase isFound
    exact ⟨known, isSigned⟩
  intro left leftMem right rightMem sameKey
  obtain ⟨_, isLeft⟩ := signed left leftMem
  obtain ⟨_, isRight⟩ := signed right rightMem
  exact (isLeft.eq_of_signature isRight (apart left leftMem right rightMem sameKey)).symm

/-! ## One step -/

section Step

variable {book current : Book} {phrases : List Phrase}

theorem FitsAll.of_stemsFrom (fits : book.FitsAll phrases) (stems : current.StemsFrom book) :
    current.FitsAll phrases := by
  intro entry entryMem phrase phraseMem sameKey
  obtain ⟨other, otherMem, content⟩ := stems entry entryMem
  obtain ⟨dependencies, context⟩ := fits other otherMem phrase phraseMem (sameKey.trans content.key)
  exact ⟨content.dependencies.trans dependencies, content.context.trans context⟩

/-- Entries that go on with their keys keep their content. -/
theorem stemsFrom_of_forall₂ {fills : Bool}
    (pairs : List.Forall₂ (IsLater fills false) book.entries current.entries) :
    current.StemsFrom book := by
  intro entry entryMem
  obtain ⟨other, otherMem, _, isLater⟩ := exists_mem_zip_right pairs entryMem
  exact ⟨other, otherMem, isLater.key rfl, isLater.dependencies, isLater.context⟩

theorem newPhrases_subset (known : List String) (sightings : List (Phrase × Place)) :
    newPhrases known sightings ⊆ sightings.map (·.1) := by
  induction sightings generalizing known with
  | nil => exact List.Subset.refl _
  | cons sighting sightings ih =>
      obtain ⟨phrase, place⟩ := sighting
      rw [newPhrases]
      split
      · exact List.subset_cons_of_subset phrase (ih known)
      · exact List.cons_subset_cons phrase (ih _)

theorem exists_phrase_of_mem_newEntries {observed : Observed} {options : UpdateOptions}
    {entry : Entry} (isNew : entry ∈ newEntries book observed options) :
    ∃ file ∈ observed, ∃ phrase ∈ file.2, ∃ places, entry = newEntry options phrase places := by
  obtain ⟨phrase, phraseMem, rfl⟩ := List.mem_map.mp isNew
  obtain ⟨sighting, sightingMem, rfl⟩ := List.mem_map.mp (newPhrases_subset _ _ phraseMem)
  obtain ⟨file, fileMem, seen⟩ := List.mem_flatMap.mp sightingMem
  obtain ⟨first, inFile, rfl⟩ := List.mem_map.mp seen
  exact ⟨file, (inOrder_perm observed).mem_iff.mp fileMem, first, inFile, _, rfl⟩

/-- The phrases that an action takes into account. -/
def Action.sighted : Action → List Phrase
  | .update observed _ _ => observed.flatMap (·.2)
  | _ => []

/-- A new entry fits the phrases with its key since they have the content of the one that it is
made for, and all others keep their content. -/
theorem FitsAll.apply (coherent : AreCoherent phrases) (fits : book.FitsAll phrases)
    {action : Action} (keepsKeys : action.rekeys = false)
    (sighted : ∀ phrase ∈ action.sighted, phrase ∈ phrases) :
    (action.apply book).FitsAll phrases := by
  cases action with
  | addPlaces store =>
      exact fits.of_stemsFrom (stemsFrom_of_forall₂ (forall₂_isLater_addToBook book store))
  | importDocument indent marker document =>
      exact fits.of_stemsFrom
        (stemsFrom_of_forall₂ (forall₂_isLater_importDocument indent marker document book))
  | rekey keys => contradiction
  | update observed options exists? =>
      intro entry entryMem phrase phraseMem sameKey
      rcases (mem_update_entries book observed options exists?).mp entryMem with
        ⟨old, oldMem, rfl⟩ | isNew
      · -- Only the places and the marks of an entry that is there already change.
        rw [revised_eq] at sameKey ⊢
        obtain ⟨dependencies, context⟩ := fits old oldMem phrase phraseMem sameKey
        exact ⟨dependencies, context⟩
      · obtain ⟨file, fileMem, first, firstMem, _, rfl⟩ := exists_phrase_of_mem_newEntries isNew
        have isSighted := sighted first (List.mem_flatMap.mpr ⟨file, fileMem, firstMem⟩)
        obtain ⟨dependencies, context⟩ := coherent first isSighted phrase phraseMem sameKey.symm
        exact ⟨dependencies, context⟩

end Step

/-! ## Many steps -/

/-- What a book without entries can become by updates that observe some phrases, by imports, and by
writing and reading it without a loss of content. -/
inductive Grows (phrases : List Phrase) : Book → Prop
  | empty {book : Book} : book.entries = [] → Grows phrases book
  | apply {book : Book} (action : Action) : Grows phrases book → action.rekeys = false →
      (∀ phrase ∈ action.sighted, phrase ∈ phrases) → Grows phrases (action.apply book)
  | reread {book again : Book} {path? : Option String} {tag indent : String} :
      Grows phrases book → Book.read path? tag (book.text indent) = .ok again →
      again.StemsFrom book → Grows phrases again

section Grows

variable {book : Book} {phrases : List Phrase}

theorem Grows.fitsAll (coherent : AreCoherent phrases) (grows : Grows phrases book) :
    book.FitsAll phrases := by
  induction grows with
  | empty noEntries => exact fun entry entryMem => nomatch noEntries ▸ entryMem
  | apply action _ keepsKeys sighted fits => exact fits.apply coherent keepsKeys sighted
  | reread _ _ stems fits => exact fits.of_stemsFrom stems

/-- Every entry fits all phrases with its key that were observed at any time. -/
theorem fitsAll_of_extracted {tag : String} {version : Int}
    (extracted : ∀ phrase ∈ phrases, ∃ (origin : Origin) (found : List Phrase),
      origin.phrases tag version = .ok found ∧ phrase ∈ found)
    (apart : ∀ left ∈ phrases, ∀ right ∈ phrases, left.key = right.key →
      left.signature = right.signature)
    (grows : Grows phrases book) : book.FitsAll phrases :=
  grows.fitsAll (areCoherent_of_extracted extracted apart)

/-- The attributes that refer to a phrase list the parameters of the function that they lead to in
the built book. -/
theorem reference_eq_of_fitsAll (fits : book.FitsAll phrases) {phrase : Phrase}
    (phraseMem : phrase ∈ phrases) {languages : List String} {member : Build.Member}
    (memberMem : member ∈ Build.members languages book) (sameKey : member.key = phrase.key) :
    Build.reference phrase =
      ["k=\"" ++ member.key ++ "\"",
        "deps=\x7b[" ++ ", ".intercalate member.dependencies ++ "]\x7d"] := by
  obtain ⟨entry, entryMem, isMember⟩ := List.mem_filterMap.mp memberMem
  obtain ⟨_, _, _, rfl⟩ := Build.member?_eq_some_iff.mp isMember
  rw [(fits entry entryMem phrase phraseMem sameKey.symm).dependencies, Build.reference, ← sameKey]

end Grows

/-- The draft of the first phrase begins a comment that the context of the second one ends, and what
follows there is read as the context of the first one. Neither entry is marked as new any more. -/
theorem not_stemsFrom_of_swallowed_draft :
    let first : Phrase := { (default : Phrase) with key := "a", body := "\x7b/*a/\x7d" }
    let second : Phrase :=
      { (default : Phrase) with
        key := "b", body := "open", context := "*/1\x7d</O>, _context: 'menu', //" }
    let book : Book := {
      preamble := ""
      entries := [
        { newEntry {} first [] with isNew := false },
        { newEntry {} second [] with isNew := false }] }
    book.FitsAll [first, second] ∧
      ∃ again, Book.read none "T" (book.text "") = .ok again ∧ ¬ again.StemsFrom book ∧
        ¬ again.FitsAll [first, second] := by
  intro first second book
  have fits : book.FitsAll [first, second] := by
    have otherKey : second.key ≠ first.key := by decide
    refine List.forall_mem_cons.mpr ⟨?_, List.forall_mem_singleton.mpr ?_⟩
    · exact List.forall_mem_cons.mpr ⟨fun _ => ⟨rfl, rfl⟩,
        List.forall_mem_singleton.mpr fun sameKey => absurd sameKey otherKey⟩
    · exact List.forall_mem_cons.mpr ⟨fun sameKey => absurd sameKey.symm otherKey,
        List.forall_mem_singleton.mpr fun _ => ⟨rfl, rfl⟩⟩
  have isLost : (Book.read none "T" (book.text "")).toOption.map (fun again =>
      again.entries.map fun entry => (entry.key, entry.context)) = some [("a", "menu")] := by
    decide +kernel
  obtain ⟨again, isRead, isLost⟩ := Option.map_eq_some_iff.mp isLost
  have notFits : ¬ again.FitsAll [first, second] := by
    intro fitsAgain
    obtain ⟨entry, entryMem, isEntry⟩ := List.mem_map.mp (isLost ▸ List.mem_singleton_self _)
    obtain ⟨isKey, isContext⟩ := Prod.mk.inj isEntry
    have fit := fitsAgain entry entryMem first List.mem_cons_self isKey.symm
    have otherContext : first.context ≠ "menu" := by decide
    exact otherContext (fit.context.symm.trans isContext)
  exact ⟨fits, again, toOption_eq_some_iff.mp isRead,
    fun stems => notFits (fits.of_stemsFrom stems), notFits⟩

end Phrasebook.Book
