import Phrasebook.Proofs.History
import Phrasebook.Proofs.PlaceText

/-!
# Places with a path

The places of a book are in files that have a path, since those that are read
are checked and those that are observed are in source files.  So they can be
written and read again.
-/

namespace Phrasebook

/-- Every place of an entry is in a file that has a path. -/
def Entry.HasPaths (entry : Entry) : Prop :=
  ∀ place ∈ entry.places, place.path ≠ ""

/-- Every place of a book is in a file that has a path. -/
def Book.HasPaths (book : Book) : Prop :=
  ∀ entry ∈ book.entries, entry.HasPaths

namespace Book

/-! ## Books that are read -/

section Read

variable {tag : String}

theorem path_ne_empty_of_listedPlace {item : Markup.Site} {place : Place}
    (done : listedPlace item = .ok place) : place.path ≠ "" := by
  obtain ⟨literal, _, done⟩ := bind_eq_ok_iff.mp done
  obtain ⟨text, _, done⟩ := bind_eq_ok_iff.mp done
  split at done
  · cases done
  · rename_i path line _
    split_ifs at done with noPath noLine
    · cases done
    · cases done
    · split at done
      · obtain rfl := Except.ok.inj done
        intro isEmpty
        have isNil : path = [] := by simpa using isEmpty
        exact noPath (by rw [isNil]; rfl)
      · cases done

theorem Draft.places_add {draft next : Draft} {site : Markup.Site}
    (hasPaths : draft.entry.HasPaths) (done : draft.add tag site = .ok next) :
    next.entry.HasPaths := by
  obtain ⟨⟨pair, name, value⟩, _, done⟩ := bind_eq_ok_iff.mp done
  dsimp only at done
  split_ifs at done with isNote isNew isDeleted isContext isPlaces
  · obtain rfl := Except.ok.inj done
    exact hasPaths
  · obtain ⟨_, _, done⟩ := bind_eq_ok_iff.mp done
    obtain rfl := Except.ok.inj done
    exact hasPaths
  · obtain ⟨_, _, done⟩ := bind_eq_ok_iff.mp done
    obtain rfl := Except.ok.inj done
    exact hasPaths
  · obtain ⟨_, _, done⟩ := bind_eq_ok_iff.mp done
    obtain ⟨_, _, done⟩ := bind_eq_ok_iff.mp done
    obtain rfl := Except.ok.inj done
    exact hasPaths
  · obtain ⟨_, _, done⟩ := bind_eq_ok_iff.mp done
    obtain ⟨places, areRead, done⟩ := bind_eq_ok_iff.mp done
    obtain rfl := Except.ok.inj done
    refine List.forall_mem_append.mpr ⟨hasPaths, fun place placeMem => ?_⟩
    obtain ⟨item, -, -, isRead⟩ := exists_mem_zip_right (mapM_eq_ok_iff.mp areRead) placeMem
    exact path_ne_empty_of_listedPlace isRead
  · obtain ⟨⟨rendering, parameters⟩, _, done⟩ := bind_eq_ok_iff.mp done
    dsimp only at done
    split_ifs at done
    · obtain ⟨_, refused, _⟩ := bind_eq_ok_iff.mp done
      contradiction
    · obtain rfl := Except.ok.inj done
      exact hasPaths

theorem hasPaths_entryOf {member : Member} {entry : Entry} (done : entryOf tag member = .ok entry) :
    entry.HasPaths := by
  obtain ⟨body, _, done⟩ := bind_eq_ok_iff.mp done
  obtain ⟨draft, isDraft, done⟩ := bind_eq_ok_iff.mp done
  obtain rfl := Except.ok.inj done
  exact foldlM_preserves (fun draft => draft.entry.HasPaths) Draft.places_add
    (List.forall_mem_nil _) isDraft

theorem hasPaths_of_read {path? : Option String} {text : String} {book : Book}
    (isRead : Book.read path? tag text = .ok book) : book.HasPaths := by
  obtain ⟨⟨preamble, object⟩, _, isRead⟩ := bind_eq_ok_iff.mp isRead
  obtain ⟨entries, isEntries, isRead⟩ := bind_eq_ok_iff.mp isRead
  obtain rfl := Except.ok.inj isRead
  refine foldlM_preserves (fun entries : List Entry => ∀ entry ∈ entries, entry.HasPaths)
    (fun {earlier site entries} hasPaths done => ?_) (List.forall_mem_nil _) isEntries
  obtain ⟨member, _, done⟩ := bind_eq_ok_iff.mp done
  dsimp only at done
  split_ifs at done
  · obtain ⟨_, refused, _⟩ := bind_eq_ok_iff.mp done
    contradiction
  · obtain ⟨entry, isEntry, done⟩ := bind_eq_ok_iff.mp done
    obtain rfl := Except.ok.inj done
    exact List.forall_mem_append.mpr
      ⟨hasPaths, List.forall_mem_singleton.mpr (hasPaths_entryOf isEntry)⟩

end Read

/-! ## Books that are brought up to date -/

section Update

variable {book : Book} {store : PlaceStore} {observed : Observed}

theorem HasPaths.addToBook (hasPaths : book.HasPaths) (proper : store.IsProper) :
    (store.addToBook book).HasPaths := by
  intro entry entryMem
  obtain ⟨old, oldMem, rfl⟩ := List.mem_map.mp entryMem
  unfold PlaceStore.addTo
  split
  · exact hasPaths old oldMem
  · rename_i stored _
    intro place placeMem
    rcases List.mem_append.mp (mem_sortedPlaces.mp placeMem) with isOld | isStored
    · exact hasPaths old oldMem place isOld
    · exact proper.named_get old.key place isStored

theorem HasPaths.update (hasPaths : book.HasPaths) (distinct : book.keys.Nodup)
    (scanned : ∀ path, IsScanned observed path → path ≠ "") (options : UpdateOptions)
    (exists? : String → Bool) : (book.update observed options exists?).book.HasPaths := by
  intro entry entryMem place placeMem
  rcases (update_mem_places book observed options exists? distinct entryMem place).mp placeMem with
    ⟨old, oldMem, -, isOld, -⟩ | isObserved
  · exact hasPaths old oldMem place isOld
  · exact scanned place.path isObserved.isScanned

end Update

end Book

end Phrasebook
