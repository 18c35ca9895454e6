import Phrasebook.Markup.Site
import Mathlib.Data.List.Pairwise

/-!
# Sites of a tree

A walk meets the sites of a tree in the order of the text.  Of two sites the
second one either starts after the end of the first or lies within it, and a
site lies within everything that is around it.
-/

namespace Phrasebook.Markup

/-! ## Numbers of bytes -/

section ByteCount

variable {left right : List Char}

theorem foldl_utf8Size (count : Nat) (text : List Char) :
    text.foldl (fun count character => count + character.utf8Size) count =
      count + byteCount text := by
  unfold byteCount
  induction text generalizing count with
  | nil => rfl
  | cons character text ih =>
      rw [List.foldl_cons, List.foldl_cons, ih, ih (0 + character.utf8Size)]
      omega

@[simp] theorem byteCount_nil : byteCount [] = 0 := rfl

@[simp] theorem byteCount_cons (character : Char) (text : List Char) :
    byteCount (character :: text) = character.utf8Size + byteCount text := by
  rw [byteCount, List.foldl_cons, foldl_utf8Size, Nat.zero_add]

@[simp] theorem byteCount_append (left right : List Char) :
    byteCount (left ++ right) = byteCount left + byteCount right := by
  rw [byteCount, List.foldl_append, foldl_utf8Size]
  rfl

@[simp] theorem byteCount_reverse (text : List Char) :
    byteCount text.reverse = byteCount text := by
  induction text with
  | nil => rfl
  | cons character text ih =>
      rw [List.reverse_cons, byteCount_append, ih, byteCount_cons, byteCount_cons, byteCount_nil]
      omega

theorem byteCount_pos {text : List Char} (present : text ≠ []) : 0 < byteCount text := by
  obtain _ | ⟨character, text⟩ := text
  · contradiction
  · rw [byteCount_cons]
    have positive := character.utf8Size_pos
    omega

theorem byteCount_le_of_prefix (isPrefix : left <+: right) : byteCount left ≤ byteCount right := by
  obtain ⟨rest, rfl⟩ := isPrefix
  simp

theorem byteCount_le_of_suffix (isSuffix : left <:+ right) : byteCount left ≤ byteCount right := by
  obtain ⟨rest, rfl⟩ := isSuffix
  simp

end ByteCount

namespace Site

/-- The text up to the end of a site. -/
def upTo (site : Site) : List Char :=
  site.before.reverse ++ site.text

theorem stop_eq (site : Site) : site.stop = byteCount site.upTo := by
  simp [stop, start, upTo, text]

theorem length_upTo (site : Site) :
    site.upTo.length = site.before.length + site.text.length := by
  rw [upTo, List.length_append, List.length_reverse]

/-- Whether a site lies within another, in a text that both are from. -/
structure LiesIn (site outer : Site) : Prop where
  before : outer.before <:+ site.before
  upTo : site.upTo <+: outer.upTo
  around : outer.around <:+ site.around

namespace LiesIn

variable {site outer farther : Site}

theorem refl (site : Site) : site.LiesIn site :=
  ⟨List.suffix_rfl, List.prefix_rfl, List.suffix_rfl⟩

theorem trans (inner : site.LiesIn outer) (further : outer.LiesIn farther) :
    site.LiesIn farther :=
  ⟨further.before.trans inner.before, inner.upTo.trans further.upTo,
    further.around.trans inner.around⟩

theorem start_le (inner : site.LiesIn outer) : outer.start ≤ site.start :=
  byteCount_le_of_suffix inner.before

theorem stop_le (inner : site.LiesIn outer) : site.stop ≤ outer.stop := by
  rw [stop_eq, stop_eq]
  exact byteCount_le_of_prefix inner.upTo

end LiesIn

/-! ## Neighbours -/

section Neighbours

variable {before : List Char} {around trees : List Tree}

/-- Where neighbouring trees stand. -/
theorem neighbours_facts {site : Site} (siteMem : site ∈ neighbours before around trees) :
    site.around = around ∧ site.tree ∈ trees ∧ before <:+ site.before ∧
      site.upTo <+: before.reverse ++ Tree.textAll trees := by
  induction trees generalizing before with
  | nil => cases siteMem
  | cons tree trees ih =>
      rcases List.mem_cons.mp siteMem with rfl | isLater
      · refine ⟨rfl, List.mem_cons_self, List.suffix_rfl, ?_⟩
        rw [Tree.textAll_cons, ← List.append_assoc]
        exact List.prefix_append _ _
      · obtain ⟨sameAround, treeMem, after, isPrefix⟩ := ih isLater
        refine ⟨sameAround, List.mem_cons_of_mem _ treeMem,
          (List.suffix_append _ _).trans after, ?_⟩
        simpa using isPrefix

/-- The text up to the end of one of some neighbours stands before all later ones. -/
theorem pairwise_upTo_neighbours (before : List Char) (around trees : List Tree) :
    (neighbours before around trees).Pairwise fun first second =>
      first.upTo.reverse <:+ second.before := by
  induction trees generalizing before with
  | nil => exact .nil
  | cons tree trees ih =>
      refine List.pairwise_cons.mpr ⟨fun second secondMem => ?_, ih _⟩
      simpa [upTo, text] using (neighbours_facts secondMem).2.2.1

theorem stop_le_start_of_upTo {first second : Site}
    (isBefore : first.upTo.reverse <:+ second.before) : first.stop ≤ second.start := by
  rw [stop_eq, ← byteCount_reverse]
  exact byteCount_le_of_suffix isBefore

theorem pairwise_neighbours (before : List Char) (around trees : List Tree) :
    (neighbours before around trees).Pairwise fun first second => first.stop ≤ second.start :=
  (pairwise_upTo_neighbours before around trees).imp stop_le_start_of_upTo

end Neighbours

section Children

variable {site child : Site}

theorem tree_mem_children (childMem : child ∈ site.children) :
    child.tree ∈ site.tree.children :=
  (neighbours_facts childMem).2.1

theorem around_of_mem_children (childMem : child ∈ site.children) :
    child.around = site.tree :: site.around :=
  (neighbours_facts childMem).1

theorem liesIn_of_mem_children (childMem : child ∈ site.children) : child.LiesIn site := by
  obtain ⟨around, treeMem, before, isPrefix⟩ := neighbours_facts childMem
  refine ⟨before, ?_, around ▸ List.suffix_cons _ _⟩
  obtain ⟨_, _, tree⟩ := site
  cases tree with
  | leaf => cases treeMem
  | node => simpa [upTo, text, Tree.children] using isPrefix

theorem sizeOf_lt_of_mem_children {tree part : Tree} (partMem : part ∈ tree.children) :
    sizeOf part < sizeOf tree := by
  cases tree with
  | leaf => cases partMem
  | node kind children =>
      have smaller := List.sizeOf_lt_of_mem partMem
      simp only [Tree.children] at smaller
      simp only [Tree.node.sizeOf_spec]
      omega

end Children

/-! ## Walks -/

/-- A property that a site has if its children have it holds of every site. -/
theorem induction {motive : Site → Prop}
    (step : ∀ site : Site, (∀ child ∈ site.children, motive child) → motive site)
    (site : Site) : motive site :=
  step site fun child childMem =>
    have := sizeOf_lt_of_mem_children (tree_mem_children childMem)
    induction step child
termination_by sizeOf site.tree

theorem withinAll_eq_flatMap (before : List Char) (around trees : List Tree) :
    withinAll before around trees = (neighbours before around trees).flatMap walk := by
  induction trees generalizing before with
  | nil => rw [withinAll]; rfl
  | cons tree trees ih => rw [withinAll, neighbours, List.flatMap_cons, ih]; rfl

/-- A walk starts at a site and goes on through its children. -/
theorem walk_eq (site : Site) : site.walk = site :: site.children.flatMap walk := by
  obtain ⟨before, around, tree⟩ := site
  cases tree with
  | leaf => rw [walk, within]; rfl
  | node => rw [walk, within, withinAll_eq_flatMap]; rfl

theorem mem_walk {site inner : Site} :
    inner ∈ site.walk ↔ inner = site ∨ ∃ child ∈ site.children, inner ∈ child.walk := by
  rw [walk_eq, List.mem_cons, List.mem_flatMap]

section Walk

variable {site inner : Site}

theorem self_mem_walk (site : Site) : site ∈ site.walk :=
  mem_walk.mpr (.inl rfl)

theorem mem_walk_of_mem_children {child : Site} (innerMem : inner ∈ site.walk)
    (childMem : child ∈ inner.children) : child ∈ site.walk := by
  induction site using Site.induction with
  | step site ih =>
      refine mem_walk.mpr (.inr ?_)
      rcases mem_walk.mp innerMem with rfl | ⟨between, betweenMem, isBelow⟩
      · exact ⟨child, childMem, self_mem_walk child⟩
      · exact ⟨between, betweenMem, ih between betweenMem isBelow⟩

/-- What the children of a tree have of it all sites below it have. -/
theorem forall_mem_walk {holds : Tree → Prop}
    (descends : ∀ {tree child : Tree}, holds tree → child ∈ tree.children → holds child)
    (atSite : holds site.tree) : ∀ inner ∈ site.walk, holds inner.tree := by
  induction site using Site.induction with
  | step site ih =>
      intro inner innerMem
      rcases mem_walk.mp innerMem with rfl | ⟨child, childMem, isBelow⟩
      · exact atSite
      · exact ih child childMem (descends atSite (tree_mem_children childMem)) inner isBelow

theorem liesIn_of_mem_walk (innerMem : inner ∈ site.walk) : inner.LiesIn site := by
  induction site using Site.induction with
  | step site ih =>
      rcases mem_walk.mp innerMem with rfl | ⟨child, childMem, isBelow⟩
      · exact .refl inner
      · exact (ih child childMem isBelow).trans (liesIn_of_mem_children childMem)

/-- A site below another one has it around itself. -/
theorem tree_mem_around {child : Site} (childMem : child ∈ site.children)
    (innerMem : inner ∈ child.walk) : site.tree ∈ inner.around := by
  refine (liesIn_of_mem_walk innerMem).around.subset ?_
  rw [around_of_mem_children childMem]
  exact List.mem_cons_self

/-- Every tree around a site is that of a site around it. -/
theorem exists_of_mem_around {tree : Tree} (innerMem : inner ∈ site.walk)
    (isAround : tree ∈ inner.around) :
    tree ∈ site.around ∨
      ∃ outer ∈ site.walk, outer.tree = tree ∧ tree.children ≠ [] ∧ inner.LiesIn outer := by
  induction site using Site.induction with
  | step site ih =>
      rcases mem_walk.mp innerMem with rfl | ⟨child, childMem, isBelow⟩
      · exact .inl isAround
      · rcases ih child childMem isBelow with further | ⟨outer, outerMem, sameTree, isInner⟩
        · rw [around_of_mem_children childMem] at further
          rcases List.mem_cons.mp further with rfl | further
          · refine .inr ⟨site, self_mem_walk site, rfl, ?_, ?_⟩
            · exact List.ne_nil_of_mem (tree_mem_children childMem)
            · exact (liesIn_of_mem_walk isBelow).trans (liesIn_of_mem_children childMem)
          · exact .inl further
        · exact .inr ⟨outer, mem_walk.mpr (.inr ⟨child, childMem, outerMem⟩), sameTree, isInner⟩

/-- The text up to the end of a site in a walk stands before each later site that is not below
it. -/
theorem pairwise_upTo_walk (site : Site) : site.walk.Pairwise fun first second =>
    first.upTo.reverse <:+ second.before ∨ ∃ child ∈ first.children, second ∈ child.walk := by
  induction site using Site.induction with
  | step site ih =>
      rw [walk_eq, List.pairwise_cons, List.pairwise_flatMap]
      refine ⟨fun inner innerMem => .inr (List.mem_flatMap.mp innerMem), ih, ?_⟩
      apply (pairwise_upTo_neighbours _ _ _).imp
      intro left right isBefore first firstMem second secondMem
      have firstEnds := List.reverse_suffix.mpr (liesIn_of_mem_walk firstMem).upTo
      have secondStarts := (liesIn_of_mem_walk secondMem).before
      exact .inl (firstEnds.trans (isBefore.trans secondStarts))

/-- How the first of two sites in a walk is related to the second. -/
def Precedes (first second : Site) : Prop :=
  first.stop ≤ second.start ∨ first.tree ∈ second.around ∧ second.LiesIn first

/-- Of two sites in a walk, the second starts after the end of the first or lies within it. -/
theorem pairwise_walk (site : Site) : site.walk.Pairwise Precedes := by
  apply (pairwise_upTo_walk site).imp
  rintro first second (isBefore | ⟨child, childMem, isBelow⟩)
  · exact .inl (stop_le_start_of_upTo isBefore)
  · exact .inr ⟨tree_mem_around childMem isBelow,
      (liesIn_of_mem_walk isBelow).trans (liesIn_of_mem_children childMem)⟩

theorem precedes_or_precedes {first second : Site} (firstMem : first ∈ site.walk)
    (secondMem : second ∈ site.walk) (different : first ≠ second) :
    Precedes first second ∨ Precedes second first := by
  have symmetric : Std.Symm fun left right : Site => Precedes left right ∨ Precedes right left :=
    ⟨fun _ _ => Or.symm⟩
  have related : site.walk.Pairwise fun left right => Precedes left right ∨ Precedes right left :=
    (pairwise_walk site).imp .inl
  exact related.forall firstMem secondMem different

end Walk

/-! ## Walks from the root -/

section Root

variable {script : Tree} {site : Site}

theorem text_eq_of_mem_walk_root (siteMem : site ∈ (root script).walk) :
    ∃ back, script.text = site.before.reverse ++ site.text ++ back := by
  obtain ⟨back, whole⟩ := (liesIn_of_mem_walk siteMem).upTo
  exact ⟨back, by simpa [root, upTo, text] using whole.symm⟩

/-- Every tree around a site of a script is that of a site around it. -/
theorem exists_of_mem_around_root {tree : Tree} (siteMem : site ∈ (root script).walk)
    (isAround : tree ∈ site.around) :
    ∃ outer ∈ (root script).walk, outer.tree = tree ∧ tree.children ≠ [] ∧ site.LiesIn outer :=
  (exists_of_mem_around siteMem isAround).resolve_left (List.not_mem_nil)

end Root

end Site

end Phrasebook.Markup
