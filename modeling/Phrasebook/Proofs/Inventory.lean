import Phrasebook.Proofs.Migration
import Phrasebook.Proofs.Substitution

/-!
# All phrases of a source

Every marked element of a source is one phrase.  The phrases follow each other
in the order of the text and have no byte in common, because no marked element
stands within another one, whether among its children or in its attributes.
Which elements these are, and what is read of them, does not depend on the
version of the normal form.
-/

namespace Phrasebook

namespace Markup.Site

theorem mem_walk_trans {site inner farther : Site} (innerMem : inner ∈ site.walk)
    (fartherMem : farther ∈ inner.walk) : farther ∈ site.walk := by
  induction site using Site.induction with
  | step site ih =>
      rcases mem_walk.mp innerMem with rfl | ⟨child, childMem, isBelow⟩
      · exact fartherMem
      · exact mem_walk.mpr (.inr ⟨child, childMem, ih child childMem isBelow⟩)

end Markup.Site

namespace Phrase

open Markup

section Marked

variable {tag : String} {script : Tree}

/-- Marked elements follow each other if none is around another one. -/
theorem pairwise_marked
    (outer : ∀ element ∈ marked tag script,
      ∀ tree ∈ element.around, tree.isTagged tag.toList = false) :
    (marked tag script).Pairwise fun first second => first.stop ≤ second.start := by
  apply ((Site.pairwise_walk (Site.root script)).filter _).imp_of_mem
  intro first second firstMem secondMem precedes
  rcases precedes with before | ⟨isAround, -⟩
  · exact before
  · have tagged := (List.mem_filter.mp firstMem).2
    rw [outer second secondMem first.tree isAround] at tagged
    contradiction

/-- What is below a marked element is not marked if no marked element is around another one. -/
theorem isTagged_below_marked
    (outer : ∀ element ∈ marked tag script,
      ∀ tree ∈ element.around, tree.isTagged tag.toList = false)
    {element child inner : Site} (elementMem : element ∈ marked tag script)
    (childMem : child ∈ element.children) (innerMem : inner ∈ child.walk) :
    inner.tree.isTagged tag.toList = false := by
  by_contra isTagged
  obtain ⟨inWalk, elementTagged⟩ := List.mem_filter.mp elementMem
  have innerInWalk : inner ∈ (Site.root script).walk :=
    Site.mem_walk_trans (Site.mem_walk_of_mem_children inWalk childMem) innerMem
  have innerMarked : inner ∈ marked tag script :=
    List.mem_filter.mpr ⟨innerInWalk, by simpa using isTagged⟩
  have notTagged := outer inner innerMarked element.tree (Site.tree_mem_around childMem innerMem)
  rw [notTagged] at elementTagged
  contradiction

end Marked

/-- The phrases of a source: one for each marked element of its script. -/
structure IsInventory (origin : Origin) (tag : String) (script : Tree) (phrases : List Phrase) :
    Prop where
  isScript : Markup.Script.read origin.source.characters = .ok script
  each : List.Forall₂ (IsPhraseOf origin tag) (marked tag script) phrases
  /-- A phrase takes the bytes of a piece of the source that is not empty. -/
  spans : ∀ phrase ∈ phrases, ∃ front element back,
    origin.source.characters = front ++ element ++ back ∧ element ≠ [] ∧
      phrase.start = byteCount front ∧ phrase.stop = phrase.start + byteCount element
  inOrder : phrases.Pairwise fun first second =>
    first.start < second.start ∧ first.stop ≤ second.start
  /-- The attributes of an element are below its opening tag, which is one of its children. -/
  unnested : ∀ element ∈ marked tag script, ∀ child ∈ element.children,
    ∀ inner ∈ child.walk, inner.tree.isTagged tag.toList = false

section Inventory

variable {origin : Origin} {tag : String} {phrases : List Phrase}

theorem exists_isInventory {number : Int} (done : origin.phrases tag number = .ok phrases) :
    ∃ script, IsInventory origin tag script phrases := by
  obtain ⟨script, isRead, done⟩ := bind_eq_ok_iff.mp done
  have each := forall₂_isPhraseOf done
  have whole := Build.isScriptOf_of_script isRead
  have outer : ∀ element ∈ marked tag script,
      ∀ tree ∈ element.around, tree.isTagged tag.toList = false := by
    intro element elementMem
    obtain ⟨phrase, -, -, isPhrase⟩ := exists_mem_zip_left each elementMem
    exact isPhrase.isOuter
  have solid (element : Site) (elementMem : element ∈ marked tag script) : element.tree.Solid :=
    (isPart_of_mem_marked isRead elementMem).solid
  refine ⟨script, Origin.script_eq_ok isRead, each, ?_, ?_, ?_⟩
  · intro phrase phraseMem
    obtain ⟨element, elementMem, -, isPhrase⟩ := exists_mem_zip_right each phraseMem
    obtain ⟨back, split⟩ := Site.text_eq_of_mem_walk_root (List.mem_filter.mp elementMem).1
    refine ⟨element.before.reverse, element.text, back, whole.text ▸ split,
      (solid element elementMem).text_ne_nil, ?_, ?_⟩
    · rw [isPhrase.start, byteCount_reverse]
      rfl
    · rw [isPhrase.stop, isPhrase.start]
      rfl
  · have sameSpans : (marked tag script).map (fun element => (element.start, element.stop)) =
        phrases.map fun phrase => (phrase.start, phrase.stop) :=
      map_eq_map_of_forall₂ (each.imp fun _ _ isPhrase => by rw [isPhrase.start, isPhrase.stop])
    have inOrder : ((marked tag script).map fun element => (element.start, element.stop)).Pairwise
        fun first second => first.1 < second.1 ∧ first.2 ≤ second.1 := by
      rw [List.pairwise_map]
      apply (pairwise_marked outer).imp_of_mem
      intro first second firstMem _ before
      have positive := Build.start_lt_stop (solid first firstMem)
      exact ⟨by dsimp only; omega, before⟩
    rw [sameSpans] at inOrder
    exact List.pairwise_map.mp inOrder
  · intro element elementMem child childMem inner innerMem
    exact isTagged_below_marked outer elementMem childMem innerMem

end Inventory

/-- Two phrases agree in all but what the version of the normal form decides. -/
def AgreeButForKey (phrase other : Phrase) : Prop :=
  { phrase with key := other.key, signature := other.signature } = other

theorem agreeButForKey_under (version : Version) (phrase : Phrase) :
    AgreeButForKey phrase (phrase.under version) := by
  rw [AgreeButForKey, under]

/-- The phrases of a source are those of its marked elements, each once and in the order of the
text. Another known version finds phrases in the same sources, and the same ones but for their keys
and signatures. -/
theorem isInventory_phrases (origin : Origin) (tag : String) :
    (∀ number phrases, origin.phrases tag number = .ok phrases →
      ∃ script, IsInventory origin tag script phrases) ∧
    ∀ old new, (∃ version, Version.ofNumber old = .ok version) →
      (∃ version, Version.ofNumber new = .ok version) →
        ((∃ phrases, origin.phrases tag old = .ok phrases) ↔
          ∃ phrases, origin.phrases tag new = .ok phrases) ∧
        ∀ before after, origin.phrases tag old = .ok before → origin.phrases tag new = .ok after →
          List.Forall₂ AgreeButForKey before after := by
  refine ⟨fun number phrases => exists_isInventory, ?_⟩
  rintro old new ⟨oldVersion, isOld⟩ ⟨newVersion, isNew⟩
  refine ⟨⟨?_, ?_⟩, ?_⟩
  · rintro ⟨phrases, done⟩
    exact ⟨_, phrases_under isNew done⟩
  · rintro ⟨phrases, done⟩
    exact ⟨_, phrases_under isOld done⟩
  · intro before after isBefore isAfter
    obtain rfl : before.map (under newVersion) = after :=
      Except.ok.inj ((phrases_under isNew isBefore).symm.trans isAfter)
    rw [List.forall₂_map_right_iff, List.forall₂_same]
    intro phrase _
    exact agreeButForKey_under newVersion phrase

/-- A marked element in an attribute of an element and one among its children. -/
theorem isInventory_attribute_and_child :
    let origin : Origin := ⟨"f", Text.Source.ofString "é = <p id={<T>è</T>}><T>b\nc</T></p>;"⟩
    ∃ before after script, origin.phrases "T" 0 = .ok before ∧ origin.phrases "T" 1 = .ok after ∧
      before.map (fun phrase => (phrase.start, phrase.stop)) = [(12, 21), (23, 33)] ∧
      IsInventory origin "T" script before ∧ List.Forall₂ AgreeButForKey before after := by
  intro origin
  have run : ((origin.phrases "T" 0).toOption.map
      (·.map fun phrase => (phrase.start, phrase.stop))) = some [(12, 21), (23, 33)] := by
    decide +kernel
  obtain ⟨before, isBefore, spans⟩ := Option.map_eq_some_iff.mp run
  have done := toOption_eq_some_iff.mp isBefore
  obtain ⟨script, isInventory⟩ := (isInventory_phrases origin "T").1 0 before done
  obtain ⟨sameSuccess, agree⟩ := (isInventory_phrases origin "T").2 0 1 ⟨_, rfl⟩ ⟨_, rfl⟩
  obtain ⟨after, again⟩ := sameSuccess.mp ⟨before, done⟩
  exact ⟨before, after, script, done, again, spans, isInventory, agree before after done again⟩

end Phrase

end Phrasebook
