import Phrasebook.Proofs.Capture
import Phrasebook.Proofs.Closure
import Phrasebook.Proofs.Elements
import Phrasebook.Proofs.Substitution

/-!
# Dependencies of children

The children of an element stand in a row, and what they contribute is the sum
of what the sites below them do, each in the role that it has by what is around
it.  So the children are refused for the first forbidden site, and their
dependencies are the texts of the sites that need one, whatever the order of the
children is.
-/

namespace Phrasebook.Markup.Site

/-! ## Parents -/

section Parents

variable {outer site other child : Site}

/-- In a larger site there is only one parent of a site that covers some text. -/
theorem eq_of_mem_children (solid : child.tree.Solid) (siteMem : site ∈ outer.walk)
    (otherMem : other ∈ outer.walk) (inSite : child ∈ site.children)
    (inOther : child ∈ other.children) : site = other := by
  have sameAround : site.tree :: site.around = other.tree :: other.around :=
    (around_of_mem_children inSite).symm.trans (around_of_mem_children inOther)
  obtain ⟨sameTree, sameAround⟩ := List.cons.inj sameAround
  have isPresent := Build.start_lt_stop solid
  have inner := liesIn_of_mem_children inSite
  have innerOther := liesIn_of_mem_children inOther
  -- Trees of the same text lie in each other only if they start at the same place.
  have same {left right : Site} (sameTree : left.tree = right.tree)
      (sameAround : left.around = right.around) (within : left.LiesIn right) : left = right := by
    obtain ⟨more, isMore⟩ := within.before
    have lengths := within.upTo.length_le
    simp only [upTo, text, List.length_append, List.length_reverse, sameTree, ← isMore] at lengths
    have nothing : more = [] := List.length_eq_zero_iff.mp (by omega)
    obtain ⟨_, _, _⟩ := left
    obtain ⟨_, _, _⟩ := right
    simp_all
  by_contra different
  rcases precedes_or_precedes siteMem otherMem different with
    (isBefore | ⟨_, within⟩) | isBefore | ⟨_, within⟩
  · have starts := innerOther.start_le
    have stops := inner.stop_le
    omega
  · exact different (same sameTree.symm sameAround.symm within).symm
  · have starts := inner.start_le
    have stops := innerOther.stop_le
    omega
  · exact different (same sameTree sameAround within)

theorem isAccessorIn_iff (solid : child.tree.Solid) (siteMem : site ∈ outer.walk)
    (childMem : child ∈ site.children) :
    child.IsAccessorIn outer ↔ site.tree.kind.isAccess = true ∧ child ∈ site.children.tail := by
  constructor
  · rintro ⟨access, accessMem, isAccess, isLater⟩
    obtain rfl := eq_of_mem_children solid siteMem accessMem childMem (List.mem_of_mem_tail isLater)
    exact ⟨isAccess, isLater⟩
  · rintro ⟨isAccess, isLater⟩
    exact ⟨site, siteMem, isAccess, isLater⟩

theorem notMem_tail_of_head? (solid : child.tree.Solid)
    (isHead : site.children.head? = some child) : child ∉ site.children.tail := by
  intro isLater
  obtain ⟨others, areChildren⟩ := List.head?_eq_some_iff.mp isHead
  have apart := pairwise_neighbours site.before (site.tree :: site.around) site.tree.children
  rw [← children, areChildren, List.pairwise_cons] at apart
  rw [areChildren, List.tail_cons] at isLater
  have overlap := apart.1 child isLater
  have isPresent := Build.start_lt_stop solid
  omega

theorem not_isAccessorIn_self (site : Site) : ¬site.IsAccessorIn site := by
  rintro ⟨access, accessMem, _, isLater⟩
  have longer := congrArg List.length (around_of_mem_children (List.mem_of_mem_tail isLater))
  have notLonger := (liesIn_of_mem_walk accessMem).around.length_le
  rw [List.length_cons] at longer
  omega

end Parents

end Phrasebook.Markup.Site

namespace Phrasebook.Phrase

open Markup

/-! ## Roles of sites -/

section Roles

variable {outer site child : Site} {isFirst : Bool}

open Classical in
/-- The role that a site has within a larger one. -/
noncomputable def roleIn (outer site : Site) : Role :=
  if site.isTagSegment then .tagSegment
  else if site.IsAccessorIn outer then .accessor
  else .other

theorem roleIn_eq_tagSegment_iff :
    roleIn outer site = .tagSegment ↔ site.isTagSegment = true := by
  unfold roleIn
  split
  · simp_all
  · split <;> simp_all

theorem roleIn_of_mem_children (solid : child.tree.Solid) (siteMem : site ∈ outer.walk)
    (childMem : child ∈ site.children) (isLater : isFirst = false ↔ child ∈ site.children.tail) :
    roleIn outer child = Role.ofChild site.tree.kind (roleIn outer site) isFirst := by
  have isAccessor := Site.isAccessorIn_iff solid siteMem childMem
  rw [← isLater] at isAccessor
  have isSegment := Site.isTagSegment_of_mem_children childMem
  have isPassed : (roleIn outer site == .tagSegment) = site.isTagSegment := by
    rw [Bool.eq_iff_iff, beq_iff_eq, roleIn_eq_tagSegment_iff]
  unfold Role.ofChild
  rw [isPassed, roleIn, isSegment]
  by_cases isMember : site.tree.kind = .member
  · rw [isMember] at isAccessor ⊢
    cases site.isTagSegment <;> simp [isAccessor, Kind.isAccess, Kind.isTagNameOwner]
  · simp [isMember, isAccessor]

theorem roleIn_self (isChild : ∀ tree, site.around.head? = some tree → tree.kind = .element) :
    roleIn site site = .other := by
  have notSegment : site.isTagSegment = false := by
    unfold Site.isTagSegment
    cases isAround : site.around with
    | nil => rfl
    | cons tree trees =>
        have isElement : tree.kind = .element := isChild tree (by rw [isAround, List.head?_cons])
        rw [List.find?_cons_of_pos (by simp [isElement]), Option.any_some, isElement]
        rfl
  rw [roleIn, if_neg (by simp [notSegment]), if_neg (Site.not_isAccessorIn_self site)]

end Roles

/-! ## Findings -/

/-- What a site contributes to the findings of a larger one. -/
noncomputable def contributed (tag : String) (outer site : Site) : List (Nat × Finding) :=
  (ownFindings tag (roleIn outer site) site.tree).map fun found => (site.line, found)

section Findings

variable {tag : String} {outer site : Site}

theorem lineFeeds_reverse_append (text before : List Char) :
    lineFeeds (text.reverse ++ before) + 1 = lineFeeds before + 1 + lineFeeds text := by
  simp only [lineFeeds, List.count_append, List.count_reverse]
  omega

/-- The findings of neighbouring trees are those of each, provided that the first of them and the
later ones have the roles that are passed down. -/
theorem findingsAll_eq (tag : String) (around : Kind) (role : Role) (roleOf : Site → Role)
    {before : List Char} {trees sites : List Tree} {isFirst : Bool}
    (first : ∀ child, (Site.neighbours before sites trees).head? = some child →
      roleOf child = Role.ofChild around role isFirst)
    (later : ∀ child ∈ (Site.neighbours before sites trees).tail,
      roleOf child = Role.ofChild around role false) :
    findingsAll tag around role isFirst (lineFeeds before + 1) trees =
      (Site.neighbours before sites trees).flatMap fun child =>
        findings tag (roleOf child) child.line child.tree := by
  induction trees generalizing before isFirst with
  | nil => rw [findingsAll, Site.neighbours, List.flatMap_nil]
  | cons tree trees ih =>
      rw [Site.neighbours] at first later ⊢
      rw [findingsAll, List.flatMap_cons, first _ rfl, ← lineFeeds_reverse_append, ih]
      · rfl
      · exact fun child isHead => later child (List.mem_of_mem_head? isHead)
      · exact fun child isLater => later child (List.mem_of_mem_tail isLater)

/-- The findings of a tree are what the sites below it contribute. -/
theorem findings_eq_flatMap (tag : String) (solid : outer.tree.Solid)
    (siteMem : site ∈ outer.walk) :
    findings tag (roleIn outer site) site.line site.tree =
      site.walk.flatMap (contributed tag outer) := by
  induction site using Site.induction with
  | step site ih =>
      have solidAt := Build.solid_of_mem_walk solid
      have below : site.children.flatMap (fun child =>
          findings tag (roleIn outer child) child.line child.tree) =
            (site.children.flatMap Site.walk).flatMap (contributed tag outer) := by
        rw [List.flatMap_assoc]
        exact List.flatMap_congr fun child childMem =>
          ih child childMem (Site.mem_walk_of_mem_children siteMem childMem)
      rw [Site.walk_eq, List.flatMap_cons, ← below]
      have roleOfChild (child : Site) (childMem : child ∈ site.children) {isFirst : Bool}
          (isLater : isFirst = false ↔ child ∈ site.children.tail) :
          roleIn outer child = Role.ofChild site.tree.kind (roleIn outer site) isFirst :=
        roleIn_of_mem_children
          (solidAt child (Site.mem_walk_of_mem_children siteMem childMem)) siteMem childMem isLater
      have firstRole (child : Site) (isHead : site.children.head? = some child) :
          roleIn outer child = Role.ofChild site.tree.kind (roleIn outer site) true := by
        have childMem := List.mem_of_head? isHead
        have notLater := Site.notMem_tail_of_head?
          (solidAt child (Site.mem_walk_of_mem_children siteMem childMem)) isHead
        exact roleOfChild child childMem (by simp [notLater])
      have laterRole (child : Site) (isLater : child ∈ site.children.tail) :
          roleIn outer child = Role.ofChild site.tree.kind (roleIn outer site) false :=
        roleOfChild child (List.mem_of_mem_tail isLater) (by simp [isLater])
      obtain ⟨before, around, tree⟩ := site
      cases tree with
      | leaf kind text =>
          rw [findings]
          exact (List.append_nil _).symm
      | node kind children =>
          rw [findings]
          exact congrArg _ (findingsAll_eq tag kind _ (roleIn outer) firstRole laterRole)

end Findings

/-! ## Rows of children -/

section Children

variable {tag : String} {before : List Char} {around : List Tree} {children : List Child}

theorem childFindings_cons (tag : String) (line : Nat) (child : Child) (children : List Child) :
    childFindings tag line (child :: children) =
      (child.tree?.map (findings tag .other line)).getD [] ++
        childFindings tag (line + lineFeeds child.source) children := by
  cases child <;> rw [childFindings.eq_def] <;> rfl

/-- The findings of children in a row are what the sites below them contribute. -/
theorem childFindings_eq_flatMap (tag : String)
    (isChild : ∀ tree, around.head? = some tree → tree.kind = .element)
    (solid : ∀ child ∈ children, ∀ tree, child.tree? = some tree → tree.Solid) :
    childFindings tag (lineFeeds before + 1) children =
      (Site.standing before around children).flatMap fun part =>
        part.walk.flatMap (contributed tag part) := by
  induction children generalizing before with
  | nil => rw [childFindings, Site.standing, List.flatMap_nil]
  | cons child children ih =>
      obtain ⟨solidHere, solidLater⟩ := List.forall_mem_cons.mp solid
      have later := @ih (child.source.reverse ++ before) solidLater
      rw [lineFeeds_reverse_append] at later
      have ofTree (tree : Tree) (isTree : child.tree? = some tree) :
          findings tag .other (lineFeeds before + 1) tree =
            (Site.walk ⟨before, around, tree⟩).flatMap
              (contributed tag ⟨before, around, tree⟩) := by
        have isOther : roleIn ⟨before, around, tree⟩ ⟨before, around, tree⟩ = .other :=
          roleIn_self isChild
        rw [← findings_eq_flatMap tag (solidHere tree isTree) (Site.self_mem_walk _), isOther]
        rfl
      rw [childFindings_cons, Site.standing, List.flatMap_append, ← later]
      cases isTree : child.tree? with
      | none => rfl
      | some tree => simp [ofTree tree isTree]

end Children

/-! ## Sites that matter -/

/-- Whether a site may not stand in a phrase. -/
def IsForbidden (tag : String) (site : Site) : Prop :=
  site.tree.kind = .thisWord ∨ site.tree.kind.isFunction = true ∨
    site.tree.isTagged tag.toList = true

/-- Whether the text of a site within a child of an element is a dependency. -/
def IsNeeded (part site : Site) : Prop :=
  site.tree.kind = .shorthandIdentifier ∨
    (site.tree.kind = .identifier ∨ site.tree.kind = .propertyIdentifier) ∧
      site.isTagSegment = true ∧ isComponentName site.text = true ∨
    site.tree.kind = .identifier ∧ site.isTagSegment = false ∧ ¬site.IsAccessorIn part

section Sites

variable {tag : String} {part site : Site} {parts : List Site}

theorem ownFault?_eq_none_iff : ownFault? tag site.tree = none ↔ ¬IsForbidden tag site := by
  unfold ownFault? IsForbidden
  split_ifs <;> simp_all

theorem ownName?_eq_some_iff (tidy : site.tree.Tidy) {name : String} :
    ownName? (roleIn part site) site.tree = some name ↔
      IsNeeded part site ∧ String.ofList site.text = name := by
  unfold IsNeeded Site.text
  by_cases isName : site.tree.kind.isName = true
  · have isLeaf := tidy.eq_leaf_of_isName isName
    generalize site.tree.kind = kind at isName isLeaf ⊢
    rw [isLeaf, Tree.text_leaf]
    clear isLeaf
    unfold roleIn
    cases kind with
    | identifier => split_ifs with isSegment isAccessor <;> simp_all [ownName?]
    | propertyIdentifier => split_ifs with isSegment isAccessor <;> simp_all [ownName?]
    | shorthandIdentifier => simp [ownName?]
    | _ => cases isName
  · have noName : ownName? (roleIn part site) site.tree = none := by
      unfold ownName?
      split
      case h_1 isTree | h_2 isTree | h_3 isTree => exact absurd (by rw [isTree]; rfl) isName
      case h_4 => rfl
    rw [noName]
    refine iff_of_false nofun ?_
    rintro ⟨isShorthand | ⟨isEither, _⟩ | ⟨isIdentifier, _⟩, _⟩
    · exact isName (by rw [isShorthand]; rfl)
    · obtain isIdentifier | isProperty := isEither
      · exact isName (by rw [isIdentifier]; rfl)
      · exact isName (by rw [isProperty]; rfl)
    · exact isName (by rw [isIdentifier]; rfl)

theorem firstForbidden?_flatMap (tag : String) (parts : List Site) :
    firstForbidden? (parts.flatMap fun part => part.walk.flatMap (contributed tag part)) =
      (parts.flatMap Site.walk).findSome? fun site =>
        (ownFault? tag site.tree).map fun fault => (site.line, fault) := by
  have single (part site : Site) : firstForbidden? (contributed tag part site) =
      (ownFault? tag site.tree).map fun fault => (site.line, fault) := by
    unfold contributed ownFindings
    cases ownFault? tag site.tree with
    | some fault => rfl
    | none => cases ownName? (roleIn part site) site.tree <;> rfl
  have walked (part : Site) (sites : List Site) :
      firstForbidden? (sites.flatMap (contributed tag part)) =
        sites.findSome? fun site =>
          (ownFault? tag site.tree).map fun fault => (site.line, fault) := by
    induction sites with
    | nil => rfl
    | cons site sites ih =>
        rw [List.flatMap_cons, firstForbidden?, List.findSome?_append, ← firstForbidden?, single,
          ← firstForbidden?, ih, List.findSome?_cons]
        cases ownFault? tag site.tree <;> rfl
  induction parts with
  | nil => rfl
  | cons part parts ih =>
      rw [List.flatMap_cons, List.flatMap_cons, firstForbidden?, List.findSome?_append,
        ← firstForbidden?, ← firstForbidden?, walked, ih, List.findSome?_append]

end Sites

/-! ## Captured names -/

/-- What is captured from the sites of children: the first forbidden site below them refuses, and
otherwise the texts of the sites that need a name are listed, sorted and each once. -/
structure IsCapture (tag : String) (parts : List Site)
    (outcome : Except (Nat × UsageFault) (List String)) : Prop where
  accepted_iff : (∃ names, outcome = .ok names) ↔
    ∀ part ∈ parts, ∀ site ∈ part.walk, ¬IsForbidden tag site
  refused : ∀ line fault, outcome = .error (line, fault) ↔
    ∃ earlier site later, parts.flatMap Site.walk = earlier ++ site :: later ∧
      (∀ other ∈ earlier, ¬IsForbidden tag other) ∧ IsForbidden tag site ∧
      line = site.line ∧ ownFault? tag site.tree = some fault
  isSorted : ∀ names, outcome = .ok names → names.Pairwise (· < ·)
  mem_iff : ∀ names, outcome = .ok names → ∀ name, name ∈ names ↔
    ∃ part ∈ parts, ∃ site ∈ part.walk, IsNeeded part site ∧ String.ofList site.text = name

section Capture

variable {tag : String} {parts : List Site} {line : Nat} {children : List Child}
  {names : List String}

theorem namesNeeded_eq_error_iff {refusal : Nat × UsageFault} :
    namesNeeded tag line children = .error refusal ↔
      firstForbidden? (childFindings tag line children) = some refusal := by
  unfold namesNeeded
  dsimp only
  cases firstForbidden? (childFindings tag line children) <;> simp

theorem namesNeeded_eq_ok_iff :
    namesNeeded tag line children = .ok names ↔
      firstForbidden? (childFindings tag line children) = none ∧
        names = sortedTexts (foundNames (childFindings tag line children)) := by
  unfold namesNeeded
  dsimp only
  cases firstForbidden? (childFindings tag line children) <;> simp [eq_comm]

theorem mem_foundNames {found : List (Nat × Finding)} {name : String} :
    name ∈ foundNames found ↔ ∃ line, (line, .name name) ∈ found := by
  unfold foundNames
  rw [List.mem_filterMap]
  constructor
  · rintro ⟨⟨line, found | fault⟩, isFound, isName⟩
    · exact ⟨line, Option.some.inj isName ▸ isFound⟩
    · cases isName
  · rintro ⟨line, isFound⟩
    exact ⟨_, isFound, rfl⟩

theorem isSorted_sortedTexts (texts : List String) : (sortedTexts texts).Pairwise (· < ·) :=
  (isSorted_sortedSet isLinear_lt_text texts).imp of_decide_eq_true

theorem mem_contributed_iff {part site : Site} (allowed : ownFault? tag site.tree = none)
    {name : String} :
    (∃ line, (line, .name name) ∈ contributed tag part site) ↔
      ownName? (roleIn part site) site.tree = some name := by
  unfold contributed ownFindings
  rw [allowed]
  cases ownName? (roleIn part site) site.tree <;> simp [eq_comm]

/-- Findings that are those of sites are a capture from them. -/
theorem isCapture_of_childFindings (tidy : ∀ part ∈ parts, part.tree.Tidy)
    (isFound : childFindings tag line children =
      parts.flatMap fun part => part.walk.flatMap (contributed tag part)) :
    IsCapture tag parts (namesNeeded tag line children) where
  accepted_iff := by
    simp only [namesNeeded_eq_ok_iff, exists_and_left, exists_eq, and_true]
    rw [isFound, firstForbidden?_flatMap, List.findSome?_eq_none_iff]
    simp only [Option.map_eq_none_iff, ownFault?_eq_none_iff, List.mem_flatMap]
    exact ⟨fun allowed part partMem site siteMem => allowed site ⟨part, partMem, siteMem⟩,
      fun allowed site ⟨part, partMem, siteMem⟩ => allowed part partMem site siteMem⟩
  refused line fault := by
    rw [namesNeeded_eq_error_iff, isFound, firstForbidden?_flatMap, List.findSome?_eq_some_iff]
    constructor
    · rintro ⟨earlier, site, later, isWalk, isRefusal, allowed⟩
      obtain ⟨_, isFault, same⟩ := Option.map_eq_some_iff.mp isRefusal
      obtain ⟨rfl, rfl⟩ := Prod.mk.inj same
      have isForbidden : IsForbidden tag site := by
        by_contra notForbidden
        rw [ownFault?_eq_none_iff.mpr notForbidden] at isFault
        contradiction
      refine ⟨earlier, site, later, isWalk, fun other otherMem => ?_, isForbidden, rfl, isFault⟩
      exact ownFault?_eq_none_iff.mp (Option.map_eq_none_iff.mp (allowed other otherMem))
    · rintro ⟨earlier, site, later, isWalk, allowed, _, rfl, isFault⟩
      refine ⟨earlier, site, later, isWalk, by rw [isFault]; rfl, fun other otherMem => ?_⟩
      rw [ownFault?_eq_none_iff.mpr (allowed other otherMem)]
      rfl
  isSorted names isNames := by
    rw [(namesNeeded_eq_ok_iff.mp isNames).2]
    exact isSorted_sortedTexts _
  mem_iff names isNames name := by
    obtain ⟨allowed, rfl⟩ := namesNeeded_eq_ok_iff.mp isNames
    rw [isFound, firstForbidden?_flatMap, List.findSome?_eq_none_iff] at allowed
    have contributes (part : Site) (partMem : part ∈ parts) (site : Site)
        (siteMem : site ∈ part.walk) :
        (∃ line, (line, .name name) ∈ contributed tag part site) ↔
          IsNeeded part site ∧ String.ofList site.text = name := by
      have noFault := allowed site (List.mem_flatMap.mpr ⟨part, partMem, siteMem⟩)
      rw [mem_contributed_iff (Option.map_eq_none_iff.mp noFault)]
      exact ownName?_eq_some_iff ((tidy part partMem).of_mem_walk site siteMem)
    rw [mem_sortedTexts, mem_foundNames, isFound]
    constructor
    · rintro ⟨line, isThere⟩
      obtain ⟨part, partMem, isThere⟩ := List.mem_flatMap.mp isThere
      obtain ⟨site, siteMem, isThere⟩ := List.mem_flatMap.mp isThere
      exact ⟨part, partMem, site, siteMem,
        (contributes part partMem site siteMem).mp ⟨line, isThere⟩⟩
    · rintro ⟨part, partMem, site, siteMem, isNamed⟩
      obtain ⟨line, isThere⟩ := (contributes part partMem site siteMem).mpr isNamed
      exact ⟨line, List.mem_flatMap.mpr ⟨part, partMem,
        List.mem_flatMap.mpr ⟨site, siteMem, isThere⟩⟩⟩

end Capture

/-! ## Lists with the same children -/

section SameChildren

variable {tag : String}

mutual

theorem map_snd_findings (tag : String) (role : Role) (line other : Nat) (tree : Tree) :
    (findings tag role line tree).map (·.2) = (findings tag role other tree).map (·.2) := by
  cases tree with
  | leaf kind text => simp [findings]
  | node kind children =>
      have below := map_snd_findingsAll tag kind role true line other children
      simp [findings, below]

theorem map_snd_findingsAll (tag : String) (around : Kind) (role : Role) (isFirst : Bool)
    (line other : Nat) (trees : List Tree) :
    (findingsAll tag around role isFirst line trees).map (·.2) =
      (findingsAll tag around role isFirst other trees).map (·.2) := by
  cases trees with
  | nil => simp [findingsAll]
  | cons tree trees =>
      have here := map_snd_findings tag (Role.ofChild around role isFirst) line other tree
      have later := map_snd_findingsAll tag around role false (line + lineFeeds tree.text)
        (other + lineFeeds tree.text) trees
      simp [findingsAll, here, later]

end

/-- What is found in a child, whatever line it starts on. -/
def Child.findings (tag : String) (child : Child) : List Finding :=
  ((child.tree?.map (Phrase.findings tag .other 0)).getD []).map (·.2)

theorem map_snd_childFindings (tag : String) (line : Nat) (children : List Child) :
    (childFindings tag line children).map (·.2) = children.flatMap (Child.findings tag) := by
  induction children generalizing line with
  | nil => rfl
  | cons child children ih =>
      rw [childFindings_cons, List.map_append, ih, List.flatMap_cons]
      congr 1
      unfold Child.findings
      cases child.tree? with
      | none => rfl
      | some tree => exact map_snd_findings tag .other line 0 tree

theorem mem_childFindings_iff {line : Nat} {children : List Child} {found : Finding} :
    (∃ foundLine, (foundLine, found) ∈ childFindings tag line children) ↔
      ∃ child ∈ children, found ∈ Child.findings tag child := by
  rw [← List.mem_flatMap, ← map_snd_childFindings tag line, List.mem_map]
  simp

theorem firstForbidden?_eq_none_iff {found : List (Nat × Finding)} :
    firstForbidden? found = none ↔ ∀ fault line, (line, .forbidden fault) ∉ found := by
  unfold firstForbidden?
  rw [List.findSome?_eq_none_iff]
  constructor
  · intro allowed fault line isFound
    cases allowed _ isFound
  · rintro allowed ⟨line, name | fault⟩ isFound
    · rfl
    · exact absurd isFound (allowed fault line)

/-- The names that are captured do not depend on the order of the children, on how often one
comes and on their lines. -/
theorem namesNeeded_congr {children others : List Child}
    (same : ∀ child, child ∈ children ↔ child ∈ others) (line other : Nat) (names : List String) :
    namesNeeded tag line children = .ok names ↔ namesNeeded tag other others = .ok names := by
  have sameFindings (found : Finding) :
      (∃ foundLine, (foundLine, found) ∈ childFindings tag line children) ↔
        ∃ foundLine, (foundLine, found) ∈ childFindings tag other others := by
    rw [mem_childFindings_iff, mem_childFindings_iff]
    exact exists_congr fun child => and_congr_left' (same child)
  have sameNames : sortedTexts (foundNames (childFindings tag line children)) =
      sortedTexts (foundNames (childFindings tag other others)) := by
    refine sortedSet_eq_of_mem_iff isLinear_lt_text fun name => ?_
    rw [mem_foundNames, mem_foundNames]
    exact sameFindings _
  rw [namesNeeded_eq_ok_iff, namesNeeded_eq_ok_iff, sameNames, firstForbidden?_eq_none_iff,
    firstForbidden?_eq_none_iff]
  refine and_congr_left' (forall_congr' fun fault => ?_)
  rw [← not_exists, ← not_exists, sameFindings]

end SameChildren

/-! ## Scripts -/

section Scripts

variable {text : List Char} {script : Tree}

/-- Whether a child is one of an element of a script. -/
def IsChildIn (script : Tree) (child : Child) : Prop :=
  ∃ element ∈ (Site.root script).walk, child ∈ element.tree.elementChildren

theorem IsChildIn.solid_and_tidy {child : Child} {tree : Tree} (isChild : IsChildIn script child)
    (isRead : Script.read text = .ok script) (isTree : child.tree? = some tree) :
    tree.Solid ∧ tree.Tidy := by
  obtain ⟨element, elementMem, childMem⟩ := isChild
  obtain ⟨isElement, treeMem⟩ := Site.mem_children_of_mem_elementChildren childMem isTree
  have rootTidy : (Site.root script).tree.Tidy := Script.tidy_of_read isRead
  have solid := Build.solid_of_mem_walk_root (Script.isScriptOf_of_read isRead) elementMem
    (by simp [isElement])
  exact ⟨solid.of_mem_children treeMem,
    (rootTidy.of_mem_walk element elementMem).of_mem_children treeMem⟩

theorem isCapture_standing (isRead : Script.read text = .ok script) (tag : String)
    {before : List Char} {around : List Tree} {children : List Child}
    (isAround : ∀ tree, around.head? = some tree → tree.kind = .element)
    (areChildren : ∀ child ∈ children, IsChildIn script child) :
    IsCapture tag (Site.standing before around children)
      (namesNeeded tag (lineFeeds before + 1) children) := by
  have facts (child : Child) (childMem : child ∈ children) (tree : Tree)
      (isTree : child.tree? = some tree) : tree.Solid ∧ tree.Tidy :=
    (areChildren child childMem).solid_and_tidy isRead isTree
  refine isCapture_of_childFindings (fun part partMem => ?_)
    (childFindings_eq_flatMap tag isAround fun child childMem tree isTree =>
      (facts child childMem tree isTree).1)
  obtain ⟨child, childMem, isTree⟩ := (Site.mem_standing_iff before around).mp ⟨part, partMem, rfl⟩
  exact (facts child childMem part.tree isTree).2

theorem isCapture_elementChildren (isRead : Script.read text = .ok script) (tag : String)
    {element : Site} (elementMem : element ∈ (Site.root script).walk) :
    IsCapture tag (element.inner.filter Site.isCode)
      (namesNeeded tag (element.opening.line + lineFeeds element.opening.text)
        element.tree.elementChildren) := by
  by_cases isElement : element.tree.kind = .element
  · have rootPaired : (Site.root script).tree.Paired := Script.paired_of_read isRead
    have paired := rootPaired.of_mem_walk element elementMem
    have isLine : element.opening.line + lineFeeds element.opening.text =
        lineFeeds (element.opening.text.reverse ++ element.before) + 1 := by
      rw [lineFeeds_reverse_append, Site.line, (paired.inner_eq isElement).1]
    rw [Site.standing_elementChildren paired isElement, isLine]
    refine isCapture_standing isRead tag (fun tree isHead => ?_) fun child childMem =>
      ⟨element, elementMem, childMem⟩
    rw [List.head?_cons] at isHead
    exact Option.some.inj isHead ▸ isElement
  · obtain ⟨noSites, noChildren⟩ := Site.inner_eq_nil isElement
    rw [noSites, noChildren]
    exact isCapture_of_childFindings (List.forall_mem_nil _) rfl

/-- What the children of the elements of a script depend on is captured exactly: from children in
a row, each in the role that it has by what is around it within its child; from the children of
one element, on the lines where they are; and the names are the same for other lists with the same
children. -/
theorem isCapture_of_read (isRead : Script.read text = .ok script) (tag : String) :
    (∀ before around children, (∀ tree, around.head? = some tree → tree.kind = .element) →
      (∀ child ∈ children, IsChildIn script child) →
        IsCapture tag (Site.standing before around children)
          (namesNeeded tag (lineFeeds before + 1) children)) ∧
    (∀ element ∈ (Site.root script).walk,
      IsCapture tag (element.inner.filter Site.isCode)
        (namesNeeded tag (element.opening.line + lineFeeds element.opening.text)
          element.tree.elementChildren)) ∧
    ∀ children others, (∀ child, child ∈ children ↔ child ∈ others) → ∀ line other names,
      namesNeeded tag line children = .ok names ↔ namesNeeded tag other others = .ok names := by
  refine ⟨?_, ?_, ?_⟩
  · exact fun before around children => isCapture_standing isRead tag
  · exact fun element => isCapture_elementChildren isRead tag
  · exact fun children others => namesNeeded_congr

/-- What a tag and an access in an element depend on, whichever of the two comes first. -/
theorem isCapture_two_children :
    let text := "<T>\x7ba.b\x7d<C.D/></T>".toList
    ∃ script element, Script.read text = .ok script ∧ element ∈ (Site.root script).walk ∧
      let children := element.tree.elementChildren
      namesNeeded "T" 1 children = .ok ["C", "D", "a"] ∧
      IsCapture "T" (element.inner.filter Site.isCode) (namesNeeded "T" 1 children) ∧
      IsCapture "T" (Site.standing [] [element.tree] children.reverse)
        (namesNeeded "T" 1 children.reverse) ∧
      namesNeeded "T" 1 children.reverse = .ok ["C", "D", "a"] := by
  intro text
  have run : ((Script.read text).toOption.bind fun script =>
      ((Site.root script).walk.find? (·.tree.kind == .element)).map fun element =>
        (element.opening.line + lineFeeds element.opening.text,
          (namesNeeded "T" 1 element.tree.elementChildren).toOption)) =
        some (1, some ["C", "D", "a"]) := by
    decide +kernel
  obtain ⟨script, isScript, run⟩ := Option.bind_eq_some_iff.mp run
  obtain ⟨element, isFound, run⟩ := Option.map_eq_some_iff.mp run
  obtain ⟨isLine, isNames⟩ := Prod.mk.inj run
  have isRead := toOption_eq_some_iff.mp isScript
  have elementMem := List.mem_of_find?_eq_some isFound
  have isElement : element.tree.kind = .element := by simpa using List.find?_some isFound
  obtain ⟨inRow, ofElement, sameNames⟩ := isCapture_of_read isRead "T"
  have captured := toOption_eq_some_iff.mp isNames
  have ofThis := ofElement element elementMem
  rw [isLine] at ofThis
  refine ⟨script, element, isRead, elementMem, captured, ofThis, ?_, ?_⟩
  · refine inRow [] [element.tree] _ (fun tree isHead => ?_) fun child childMem => ?_
    · exact Option.some.inj isHead ▸ isElement
    · exact ⟨element, elementMem, List.mem_reverse.mp childMem⟩
  · exact (sameNames _ _ (fun _ => List.mem_reverse.symm) 1 1 _).mp captured

end Scripts

end Phrasebook.Phrase
