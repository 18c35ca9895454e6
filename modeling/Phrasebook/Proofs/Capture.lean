import Phrasebook.Phrase.Dependency
import Phrasebook.Proofs.SortedSet
import Phrasebook.Proofs.Walk

/-!
# What is captured

The findings of a tree hold what every site below it contributes, and that
depends on the role of the site alone.  The role is passed down from tree to
tree; here it is found again from what is around the site.  So the names that
an element needs are known site by site.
-/

namespace Phrasebook.Markup.Site

/-- Whether a site is a part of the name of a tag: only accesses are between it and the tag. -/
def isTagSegment (site : Site) : Bool :=
  (site.around.find? (·.kind != .member)).any (·.kind.isTagNameOwner)

/-- Whether a site is a part of an access other than the thing accessed, within a larger site. -/
def IsAccessorIn (site outer : Site) : Prop :=
  ∃ access ∈ outer.walk, access.tree.kind.isAccess = true ∧ site ∈ access.children.tail

section Segments

variable {site child : Site}

/-- A child is a part of the name of a tag if the tag is around it, or if an access is that is such
a part itself. -/
theorem isTagSegment_of_mem_children (childMem : child ∈ site.children) :
    child.isTagSegment =
      if site.tree.kind = .member then site.isTagSegment else site.tree.kind.isTagNameOwner := by
  unfold isTagSegment
  rw [around_of_mem_children childMem]
  by_cases isMember : site.tree.kind = .member
  · rw [List.find?_cons_of_neg (by simpa using isMember), if_pos isMember]
  · rw [List.find?_cons_of_pos (by simpa using isMember), if_neg isMember]
    rfl

end Segments

end Phrasebook.Markup.Site

namespace Phrasebook.Phrase

open Markup

/-! ## Roles -/

/-- What a role says about where a site stands within a larger one. -/
structure IsRoleOf (outer : Site) (role : Role) (site : Site) : Prop where
  tagSegment : role = .tagSegment ↔ site.isTagSegment = true
  accessor : role = .accessor → site.IsAccessorIn outer

section Roles

variable {outer site child : Site} {role : Role} {isFirst : Bool}

theorem ofChild_eq_tagSegment_iff {around : Kind} :
    Role.ofChild around role isFirst = .tagSegment ↔
      if around = .member then role = .tagSegment else around.isTagNameOwner = true := by
  unfold Role.ofChild
  by_cases isMember : around = .member
  · subst isMember
    cases role <;> cases isFirst <;> decide
  · rw [if_neg isMember, beq_false_of_ne isMember, Bool.false_and]
    cases around.isTagNameOwner <;> cases around.isAccess <;> cases isFirst <;> decide

theorem ofChild_eq_accessor {around : Kind}
    (isAccessor : Role.ofChild around role isFirst = .accessor) :
    around.isAccess = true ∧ isFirst = false := by
  unfold Role.ofChild at isAccessor
  split_ifs at isAccessor with isSegment isName isPart
  simpa using isPart

/-- A child has the role that is passed down to it. -/
theorem IsRoleOf.ofChild (isRole : IsRoleOf outer role site) (siteMem : site ∈ outer.walk)
    (childMem : child ∈ site.children) (isLater : isFirst = false → child ∈ site.children.tail) :
    IsRoleOf outer (Role.ofChild site.tree.kind role isFirst) child where
  tagSegment := by
    rw [ofChild_eq_tagSegment_iff, Site.isTagSegment_of_mem_children childMem, isRole.tagSegment]
    split <;> rfl
  accessor isAccessor := by
    obtain ⟨isAccess, notFirst⟩ := ofChild_eq_accessor isAccessor
    exact ⟨site, siteMem, isAccess, isLater notFirst⟩

end Roles

/-! ## Findings of a tree -/

section Findings

variable {tag : String} {outer site : Site} {role : Role} {line : Nat}

/-- The findings of neighbouring trees hold those of each, which is the first of them or a later
one. -/
theorem findings_subset_findingsAll (tag : String) (around : Kind) (role : Role) (isFirst : Bool)
    (line : Nat) {before : List Char} {trees : List Tree} {sites : List Tree} {child : Site}
    (childMem : child ∈ Site.neighbours before sites trees) :
    ∃ childFirst childLine,
      (childFirst = false → isFirst = false ∨ child ∈ (Site.neighbours before sites trees).tail) ∧
        findings tag (Role.ofChild around role childFirst) childLine child.tree ⊆
          findingsAll tag around role isFirst line trees := by
  induction trees generalizing before isFirst line with
  | nil => cases childMem
  | cons tree trees ih =>
      simp only [Site.neighbours, findingsAll, List.tail_cons] at childMem ⊢
      rcases List.mem_cons.mp childMem with rfl | isLater
      · exact ⟨isFirst, line, .inl, List.subset_append_left _ _⟩
      · obtain ⟨childFirst, childLine, _, held⟩ := ih false _ isLater
        exact ⟨childFirst, childLine, fun _ => .inr isLater,
          List.Subset.trans held (List.subset_append_right _ _)⟩

/-- The findings of a tree hold those of each of its children. -/
theorem findings_subset_of_mem_children (tag : String) (role : Role) (line : Nat) {child : Site}
    (childMem : child ∈ site.children) :
    ∃ isFirst childLine, (isFirst = false → child ∈ site.children.tail) ∧
      findings tag (Role.ofChild site.tree.kind role isFirst) childLine child.tree ⊆
        findings tag role line site.tree := by
  obtain ⟨before, around, tree⟩ := site
  cases tree with
  | leaf => cases childMem
  | node kind children =>
      obtain ⟨isFirst, childLine, isLater, held⟩ :=
        findings_subset_findingsAll tag kind role true line childMem
      refine ⟨isFirst, childLine, fun notFirst => (isLater notFirst).resolve_left nofun, ?_⟩
      rw [findings]
      exact List.Subset.trans held (List.subset_append_right _ _)

theorem mem_findings_of_ownFindings (line : Nat) {tree : Tree} {found : Finding}
    (isOwn : found ∈ ownFindings tag role tree) : (line, found) ∈ findings tag role line tree := by
  cases tree with
  | leaf =>
      rw [findings]
      exact List.mem_map_of_mem isOwn
  | node =>
      rw [findings]
      exact List.mem_append_left _ (List.mem_map_of_mem isOwn)

/-- The findings of a tree hold what each site below it contributes in its role. -/
theorem exists_role_of_mem_walk (tag : String) (line : Nat) (siteMem : site ∈ outer.walk)
    (isRole : IsRoleOf outer role site) {inner : Site} (innerMem : inner ∈ site.walk) :
    ∃ innerRole innerLine, IsRoleOf outer innerRole inner ∧
      ∀ found ∈ ownFindings tag innerRole inner.tree,
        (innerLine, found) ∈ findings tag role line site.tree := by
  induction site using Site.induction generalizing role line with
  | step site ih =>
      rcases Site.mem_walk.mp innerMem with rfl | ⟨child, childMem, isBelow⟩
      · exact ⟨role, line, isRole, fun _ => mem_findings_of_ownFindings line⟩
      · obtain ⟨isFirst, childLine, isLater, held⟩ :=
          findings_subset_of_mem_children tag role line childMem
        obtain ⟨innerRole, innerLine, isInner, isFound⟩ :=
          ih child childMem childLine (Site.mem_walk_of_mem_children siteMem childMem)
            (isRole.ofChild siteMem childMem isLater) isBelow
        exact ⟨innerRole, innerLine, isInner, fun found isOwn => held (isFound found isOwn)⟩

end Findings

/-! ## Findings of children -/

section Children

variable {tag : String} {names : List String}

/-- Text in front of children only moves their lines. -/
theorem exists_childFindings_consText (tag : String) (line : Nat) (characters : List Char)
    (children : List Child) :
    ∃ later, childFindings tag line (Tree.consText characters children) =
      childFindings tag later children := by
  unfold Tree.consText
  split
  · exact ⟨line, rfl⟩
  · rename_i more others _
    refine ⟨line + lineFeeds characters, ?_⟩
    simp only [childFindings, Child.source, lineFeeds, List.count_append, Nat.add_assoc]
  · exact ⟨_, by rw [childFindings]; rfl⟩

/-- The findings of children hold those of the elements and containers among their trees. -/
theorem findings_subset_childFindings (tag : String) (line : Nat) {trees : List Tree} {tree : Tree}
    (treeMem : tree ∈ trees) (isCode : tree.kind.isElement = true ∨ tree.kind = .container) :
    ∃ later, findings tag .other later tree ⊆ childFindings tag line (Tree.childrenOf trees) := by
  induction trees generalizing line with
  | nil => cases treeMem
  | cons first trees ih =>
      rw [Tree.childrenOf]
      rcases List.mem_cons.mp treeMem with rfl | isLater
      · refine ⟨line, ?_⟩
        split_ifs with isElement isContainer
        · exact List.subset_append_left _ _
        · exact List.subset_append_left _ _
        · rcases isCode with isCode | isCode
          · exact absurd isCode isElement
          · exact absurd (beq_iff_eq.mpr isCode) isContainer
      · split_ifs
        · obtain ⟨later, held⟩ := ih (line + lineFeeds first.text) isLater
          exact ⟨later, List.Subset.trans held (List.subset_append_right _ _)⟩
        · obtain ⟨later, held⟩ := ih (line + lineFeeds first.text) isLater
          exact ⟨later, List.Subset.trans held (List.subset_append_right _ _)⟩
        · obtain ⟨moved, same⟩ :=
            exists_childFindings_consText tag line first.text (Tree.childrenOf trees)
          rw [same]
          exact ih moved isLater

theorem mem_of_namesNeeded {line foundLine : Nat} {children : List Child} {found : Finding}
    (done : namesNeeded tag line children = .ok names)
    (isFound : (foundLine, found) ∈ childFindings tag line children) :
    ∃ name ∈ names, found = .name name := by
  unfold namesNeeded at done
  dsimp only at done
  split at done
  · contradiction
  · rename_i allowed
    obtain rfl := Except.ok.inj done
    cases found with
    | forbidden fault =>
        have refused := List.findSome?_eq_none_iff.mp allowed _ isFound
        contradiction
    | name name =>
        refine ⟨name, mem_sortedTexts.mpr ?_, rfl⟩
        exact List.mem_filterMap.mpr ⟨_, isFound, rfl⟩

theorem tree_mem_inner {element part : Tree} (isElement : element.kind = .element)
    (childMem : part ∈ element.children)
    (notTag : (part.kind != .openingTag && part.kind != .closingTag) = true) :
    part ∈ element.inner := by
  cases element with
  | leaf => cases childMem
  | node kind children =>
      obtain rfl : kind = .element := isElement
      exact List.mem_filter.mpr ⟨childMem, notTag⟩

/-- Every name that a site contributes in its role is needed. -/
theorem exists_role_of_namesNeeded {line : Nat} {element part site : Site}
    (done : namesNeeded tag line element.tree.elementChildren = .ok names)
    (partMem : part ∈ element.inner)
    (isCode : part.tree.kind.isElement = true ∨ part.tree.kind = .container)
    (siteMem : site ∈ part.walk) :
    ∃ role, IsRoleOf part role site ∧
      ∀ name, ownName? role site.tree = some name → name ∈ names := by
  unfold Site.inner at partMem
  split at partMem
  · rename_i isElement
    obtain ⟨partMem, notTag⟩ := List.mem_filter.mp partMem
    -- Roles are passed down from the part, and what is around the part gives it none.
    have atTop : IsRoleOf part .other part := by
      refine ⟨?_, nofun⟩
      rw [Site.isTagSegment_of_mem_children partMem, isElement, if_neg nofun]
      exact iff_of_false nofun nofun
    have treeMem := tree_mem_inner isElement (Site.tree_mem_children partMem) notTag
    obtain ⟨partLine, held⟩ := findings_subset_childFindings tag line treeMem isCode
    obtain ⟨role, innerLine, isRole, isFound⟩ :=
      exists_role_of_mem_walk tag partLine (Site.self_mem_walk part) atTop siteMem
    refine ⟨role, isRole, fun name isName => ?_⟩
    have own (found : Finding) (isOwn : found ∈ ownFindings tag role site.tree) :
        ∃ name ∈ names, found = .name name :=
      mem_of_namesNeeded done (held (isFound found isOwn))
    unfold ownFindings at own
    split at own
    · obtain ⟨_, _, impossible⟩ := own _ (List.mem_singleton.mpr rfl)
      contradiction
    · rw [isName] at own
      obtain ⟨_, nameMem, same⟩ := own (.name name) (List.mem_singleton.mpr rfl)
      exact Finding.name.inj same ▸ nameMem
  · cases partMem

end Children

end Phrasebook.Phrase
