import Phrasebook.Book.Reader
import Phrasebook.Proofs.Outcome
import Phrasebook.Proofs.Walk

/-!
# Where the entries of a book come from

Every rendering of a book that is read is a function of the script, and its
parameters are the dependencies of the entry.  So whatever reading a function
makes sure of holds of all renderings.
-/

namespace Phrasebook.Book

open Markup

/-! ## Members of an object -/

section Members

variable {kinds : List Kind} {site : Site}

theorem expect_eq_ok {site? : Option Site} (done : expect kinds site? = .ok site) :
    site? = some site ∧ site.tree.kind ∈ kinds := by
  unfold expect at done
  split at done
  · contradiction
  · split_ifs at done with isExpected
    · obtain rfl := Except.ok.inj done
      exact ⟨rfl, List.contains_iff_mem.mp isExpected⟩
    · contradiction

theorem value_mem_children {found : Member} (done : member site = .ok found) :
    found.value ∈ site.children := by
  obtain ⟨pair, isPair, done⟩ := bind_eq_ok_iff.mp done
  obtain ⟨key, _, done⟩ := bind_eq_ok_iff.mp done
  obtain rfl := Option.some.inj (expect_eq_ok isPair).1
  have isValue : site.contents[1]? = some found.value := by
    dsimp only at done
    split at done
    all_goals
      obtain ⟨name, _, done⟩ := bind_eq_ok_iff.mp done
      split at done
      · rename_i isValue
        obtain rfl := Except.ok.inj done
        exact isValue
      · contradiction
  exact List.mem_of_mem_filter (List.mem_of_getElem? isValue)

end Members

/-! ## Drafts -/

section Drafts

variable {tag : String} {site : Site} {draft next : Draft}

/-- Taking a member into account adds the rendering that it is, or changes other fields than the
key and the renderings. -/
theorem Draft.add_cases (done : draft.add tag site = .ok next) :
    (next.entry.key = draft.entry.key ∧ next.entry.renderings = draft.entry.renderings ∧
      next.parameters? = draft.parameters?) ∨
    ∃ found rendering parameters, member site = .ok found ∧
      Book.rendering tag found.name found.value = .ok (rendering, parameters) ∧
      (∀ others, draft.parameters? = some others → others = parameters) ∧
      next = {
        entry := { draft.entry with renderings := draft.entry.renderings ++ [rendering] }
        parameters? := some parameters } := by
  obtain ⟨⟨pair, name, value⟩, isMember, done⟩ := bind_eq_ok_iff.mp done
  dsimp only at done
  split_ifs at done with isNote isNew isDeleted isContext isPlaces
  · obtain rfl := Except.ok.inj done
    exact .inl ⟨rfl, rfl, rfl⟩
  · obtain ⟨_, _, done⟩ := bind_eq_ok_iff.mp done
    obtain rfl := Except.ok.inj done
    exact .inl ⟨rfl, rfl, rfl⟩
  · obtain ⟨_, _, done⟩ := bind_eq_ok_iff.mp done
    obtain rfl := Except.ok.inj done
    exact .inl ⟨rfl, rfl, rfl⟩
  · obtain ⟨_, _, done⟩ := bind_eq_ok_iff.mp done
    obtain ⟨_, _, done⟩ := bind_eq_ok_iff.mp done
    obtain rfl := Except.ok.inj done
    exact .inl ⟨rfl, rfl, rfl⟩
  · obtain ⟨_, _, done⟩ := bind_eq_ok_iff.mp done
    obtain ⟨_, _, done⟩ := bind_eq_ok_iff.mp done
    obtain rfl := Except.ok.inj done
    exact .inl ⟨rfl, rfl, rfl⟩
  · obtain ⟨⟨rendering, parameters⟩, isRendering, done⟩ := bind_eq_ok_iff.mp done
    dsimp only at done
    split_ifs at done with differs
    · obtain ⟨_, refused, _⟩ := bind_eq_ok_iff.mp done
      contradiction
    · obtain rfl := Except.ok.inj done
      refine .inr ⟨_, rendering, parameters, isMember, isRendering, fun others isOthers => ?_, rfl⟩
      simpa [isOthers] using differs

end Drafts

/-! ## Renderings -/

section Renderings

variable {tag : String} {outer : Site}

theorem language_of_rendering {language : String} {function : Site} {rendering : Rendering}
    {parameters : List String}
    (done : Book.rendering tag language function = .ok (rendering, parameters)) :
    rendering.language = language := by
  obtain ⟨found, _, done⟩ := bind_eq_ok_iff.mp done
  obtain ⟨declared, _, done⟩ := bind_eq_ok_iff.mp done
  split at done
  · contradiction
  · obtain ⟨rfl, _⟩ := Prod.mk.inj (Except.ok.inj done)
    rfl

/-- Whether a rendering with some parameters is that of a function below a site. -/
def IsReadBelow (tag : String) (outer : Site) (rendering : Rendering)
    (parameters : List String) : Prop :=
  ∃ function ∈ outer.walk,
    Book.rendering tag rendering.language function = .ok (rendering, parameters)

/-- Every rendering of a draft is one of a function below the site, with the same parameters. -/
def Draft.IsReadBelow (tag : String) (outer : Site) (draft : Draft) : Prop :=
  ∀ rendering ∈ draft.entry.renderings, ∃ parameters, draft.parameters? = some parameters ∧
    Book.IsReadBelow tag outer rendering parameters

theorem Draft.IsReadBelow.add {draft next : Draft} {site : Site}
    (isRead : draft.IsReadBelow tag outer) (siteMem : site ∈ outer.walk)
    (done : draft.add tag site = .ok next) : next.IsReadBelow tag outer := by
  rcases Draft.add_cases done with ⟨_, sameRenderings, sameParameters⟩ |
    ⟨found, rendering, parameters, isMember, isRendering, sameParameters, rfl⟩
  · intro rendering renderingMem
    rw [sameParameters]
    exact isRead rendering (sameRenderings ▸ renderingMem)
  · intro other otherMem
    -- All renderings have been compared with the first one, so their parameters are the same.
    refine ⟨parameters, rfl, ?_⟩
    rcases List.mem_append.mp otherMem with isEarlier | isLast
    · obtain ⟨others, isOthers, otherRead⟩ := isRead other isEarlier
      exact sameParameters others isOthers ▸ otherRead
    · obtain rfl := List.mem_singleton.mp isLast
      refine ⟨found.value, Site.mem_walk_of_mem_children siteMem (value_mem_children isMember), ?_⟩
      rwa [language_of_rendering isRendering]

theorem isReadBelow_of_entryOf {found : Member} {entry : Entry}
    (valueMem : found.value ∈ outer.walk) (done : entryOf tag found = .ok entry) :
    ∀ rendering ∈ entry.renderings, IsReadBelow tag outer rendering entry.dependencies := by
  obtain ⟨body, isBody, done⟩ := bind_eq_ok_iff.mp done
  obtain ⟨draft, isDraft, done⟩ := bind_eq_ok_iff.mp done
  obtain rfl := Except.ok.inj done
  obtain rfl := Option.some.inj (expect_eq_ok isBody).1
  have isRead : draft.IsReadBelow tag outer := by
    refine foldlM_preserves_of_mem (Draft.IsReadBelow tag outer) (fun siteMem isRead added => ?_)
      ?_ isDraft
    · have siteMem := Site.mem_walk_of_mem_children valueMem (List.mem_of_mem_filter siteMem)
      exact isRead.add siteMem added
    · exact List.forall_mem_nil _
  intro rendering renderingMem
  obtain ⟨parameters, isParameters, renderingRead⟩ := isRead rendering renderingMem
  rwa [isParameters]

/-- What stands before the only default export of a script, and the object that is exported. -/
theorem listing_eq_ok {text preamble : List Char} {object : Site}
    (done : listing text = .ok (preamble, object)) :
    ∃ script site, Script.read text = .ok script ∧ site ∈ (Site.root script).children ∧
      isDefaultExport site = true ∧ preamble = site.before.reverse ∧ object ∈ site.children := by
  obtain ⟨script, isScript, done⟩ := bind_eq_ok_iff.mp done
  obtain ⟨site, isExport, done⟩ := bind_eq_ok_iff.mp done
  obtain ⟨_, _, done⟩ := bind_eq_ok_iff.mp done
  obtain ⟨found, isFound, done⟩ := bind_eq_ok_iff.mp done
  obtain ⟨rfl, rfl⟩ := Prod.mk.inj (Except.ok.inj done)
  have isRead : Script.read text = .ok script := by
    unfold scriptOf at isScript
    split at isScript
    · rename_i isRead
      rw [isRead, Except.ok.inj isScript]
    · contradiction
  have isOnly : (Site.root script).children.filter isDefaultExport = [site] := by
    unfold exportIn at isExport
    split at isExport
    · contradiction
    · rename_i isOnly
      rw [isOnly, Except.ok.inj isExport]
    · contradiction
  obtain ⟨siteMem, isDefault⟩ := List.mem_filter.mp (isOnly ▸ List.mem_singleton_self site)
  obtain ⟨isLast, _⟩ := Option.filter_eq_some_iff.mp (expect_eq_ok isFound).1
  exact ⟨script, site, isRead, siteMem, isDefault, rfl,
    List.mem_of_mem_filter (List.mem_of_getLast? isLast)⟩

/-- Every rendering of a book that is read is a function of the script, whose parameters are what
the entry depends on. -/
theorem exists_script_of_read {path? : Option String} {text : String} {book : Book}
    (isRead : Book.read path? tag text = .ok book) :
    ∃ script, Script.read text.toList = .ok script ∧ ∀ entry ∈ book.entries,
      ∀ rendering ∈ entry.renderings,
        IsReadBelow tag (Site.root script) rendering entry.dependencies := by
  obtain ⟨⟨preamble, object⟩, isListing, isRead⟩ := bind_eq_ok_iff.mp isRead
  obtain ⟨entries, isEntries, isRead⟩ := bind_eq_ok_iff.mp isRead
  obtain rfl := Except.ok.inj isRead
  obtain ⟨script, site, isScript, siteMem, _, _, objectMem⟩ := listing_eq_ok isListing
  have objectMem : object ∈ (Site.root script).walk := Site.mem_walk_of_mem_children
    (Site.mem_walk_of_mem_children (Site.self_mem_walk _) siteMem) objectMem
  refine ⟨script, isScript, ?_⟩
  refine foldlM_preserves_of_mem (fun entries : List Entry => ∀ entry ∈ entries,
    ∀ rendering ∈ entry.renderings,
      IsReadBelow tag (Site.root script) rendering entry.dependencies)
    (fun {earlier site entries} siteMem isRead done => ?_) (List.forall_mem_nil _) isEntries
  obtain ⟨found, isMember, done⟩ := bind_eq_ok_iff.mp done
  dsimp only at done
  split_ifs at done with isRepeated
  · obtain ⟨_, refused, _⟩ := bind_eq_ok_iff.mp done
    contradiction
  · obtain ⟨entry, isEntry, done⟩ := bind_eq_ok_iff.mp done
    obtain rfl := Except.ok.inj done
    have siteMem := Site.mem_walk_of_mem_children objectMem (List.mem_of_mem_filter siteMem)
    refine List.forall_mem_append.mpr ⟨isRead, List.forall_mem_singleton.mpr ?_⟩
    exact isReadBelow_of_entryOf
      (Site.mem_walk_of_mem_children siteMem (value_mem_children isMember)) isEntry

end Renderings

end Phrasebook.Book
