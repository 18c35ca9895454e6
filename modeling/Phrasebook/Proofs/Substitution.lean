import Phrasebook.Proofs.Edits
import Phrasebook.Proofs.Encoding
import Phrasebook.Proofs.Reading
import Phrasebook.Proofs.Replacement

/-!
# Building is a substitution

The edits that build a source stand at its marked elements and at the text
literals outside of them.  None of these sites lies within another, so that all
edits can be made at once, each to the bytes that its site takes.
-/

namespace Phrasebook.Build

open Markup
open Phrase (IsPhraseOf marked)
open Text (encoded length_encoded)

/-! ## Sites of edits -/

section Sites

variable {text : List Char} {script : Tree} {tag : List Char} {site literal element : Site}

theorem isElement_of_isTagged {tree : Tree} (tagged : tree.isTagged tag = true) :
    tree.kind.isElement = true := by
  unfold Tree.isTagged Tree.elementName? at tagged
  split at tagged
  · assumption
  · contradiction

theorem solid_of_mem_walk (solid : site.tree.Solid) :
    ∀ inner ∈ site.walk, inner.tree.Solid :=
  Site.forall_mem_walk Tree.Solid.of_mem_children solid

/-- Every site of a script but the whole of it covers some text. -/
theorem solid_of_mem_walk_root (isScript : Script.IsScriptOf text script)
    (siteMem : site ∈ (Site.root script).walk) (notProgram : site.tree.kind ≠ .program) :
    site.tree.Solid := by
  rcases Site.mem_walk.mp siteMem with rfl | ⟨child, childMem, isBelow⟩
  · exact absurd isScript.kind notProgram
  · exact solid_of_mem_walk (isScript.solid _ (Site.tree_mem_children childMem)) site isBelow

theorem start_lt_stop (solid : site.tree.Solid) : site.start < site.stop := by
  have positive := byteCount_pos solid.text_ne_nil
  unfold Site.stop
  omega

/-- Nothing stands within a text literal. -/
theorem notMem_around_of_string (isScript : Script.IsScriptOf text script)
    (literalMem : literal ∈ (Site.root script).walk) (isString : literal.tree.kind = .string)
    (siteMem : site ∈ (Site.root script).walk) : literal.tree ∉ site.around := by
  intro isAround
  obtain ⟨_, _, _, hasChildren, _⟩ := Site.exists_of_mem_around_root siteMem isAround
  have solid := solid_of_mem_walk_root isScript literalMem (by rw [isString]; nofun)
  cases treeIs : literal.tree with
  | leaf => exact hasChildren (by rw [treeIs]; rfl)
  | node =>
      rw [treeIs] at solid isString
      exact (Tree.solid_node_iff.mp solid).1 isString

/-- Two sites are apart if neither is around the other. -/
theorem apart_of_notMem_around (siteMem : site ∈ (Site.root script).walk)
    (elementMem : element ∈ (Site.root script).walk) (different : site ≠ element)
    (notOutside : site.tree ∉ element.around) (notInside : element.tree ∉ site.around) :
    site.stop ≤ element.start ∨ element.stop ≤ site.start := by
  rcases Site.precedes_or_precedes siteMem elementMem different with
    (before | inside) | (after | inside)
  · exact .inl before
  · exact absurd inside.1 notOutside
  · exact .inr after
  · exact absurd inside.1 notInside

/-- A text literal that lies within the span of a marked element has a marked element around
itself, and the other way round. -/
theorem isWithin_marked_iff (isScript : Script.IsScriptOf text script) {tag : String}
    (literalMem : literal ∈ (Site.root script).walk) (isString : literal.tree.kind = .string) :
    (∃ element ∈ marked tag script, element.start ≤ literal.start ∧ literal.stop ≤ element.stop) ↔
      ∃ tree ∈ literal.around, tree.isTagged tag.toList = true := by
  constructor
  · rintro ⟨element, elementMem, startsBefore, stopsAfter⟩
    obtain ⟨elementMem, tagged⟩ := List.mem_filter.mp elementMem
    by_contra untagged
    have different : element ≠ literal := by
      rintro rfl
      have isElement := isElement_of_isTagged tagged
      rw [isString] at isElement
      contradiction
    have apart := apart_of_notMem_around elementMem literalMem different
      (fun isAround => untagged ⟨element.tree, isAround, tagged⟩)
      (notMem_around_of_string isScript literalMem isString elementMem)
    have literalSpan := start_lt_stop
      (solid_of_mem_walk_root isScript literalMem (by rw [isString]; nofun))
    omega
  · rintro ⟨tree, isAround, tagged⟩
    obtain ⟨outer, outerMem, rfl, _, inside⟩ := Site.exists_of_mem_around_root literalMem isAround
    exact ⟨outer, List.mem_filter.mpr ⟨outerMem, tagged⟩, inside.start_le, inside.stop_le⟩

end Sites

/-! ## Edits of a source -/

section Edits

variable {text : List Char} {origin : Phrase.Origin} {options : BuildOptions} {script : Tree}

/-- Where the phrases of a script are, its marked elements are. -/
theorem isWithin_iff {phrases : List Phrase} {literal : Site}
    (isPhrases : List.Forall₂ (IsPhraseOf origin options.tag) (marked options.tag script) phrases) :
    isWithin (phrases.map fun phrase => (phrase.start, phrase.stop)) literal = true ↔
      ∃ element ∈ marked options.tag script,
        element.start ≤ literal.start ∧ literal.stop ≤ element.stop := by
  have sameSpans : ((marked options.tag script).map fun element => (element.start, element.stop)) =
      phrases.map fun phrase => (phrase.start, phrase.stop) :=
    map_eq_map_of_forall₂ (isPhrases.imp fun _ _ isPhrase => by rw [isPhrase.start, isPhrase.stop])
  rw [isWithin, ← sameSpans, List.any_map, List.any_eq_true]
  simp

/-- There is one edit for each literal that stands for a constant outside all marked elements. -/
theorem replacesConstant_of_constantEdits {phrases : List Phrase} {constants : List Edit}
    (isScript : Script.IsScriptOf text script)
    (isPhrases : List.Forall₂ (IsPhraseOf origin options.tag) (marked options.tag script) phrases)
    (done : constantEdits options phrases script = .ok constants) :
    List.Forall₂ (ReplacesConstant options) (constantSites options script) constants := by
  obtain ⟨edits, each, done⟩ := bind_eq_ok_iff.mp done
  obtain rfl := Except.ok.inj done
  have free : ((Site.root script).walk.filter fun site => site.tree.kind == .string &&
        !isWithin (phrases.map fun phrase => (phrase.start, phrase.stop)) site) =
      (Site.root script).walk.filter (isFreeLiteral options.tag) := by
    refine List.filter_congr fun site siteMem => ?_
    unfold isFreeLiteral
    by_cases isString : site.tree.kind = .string
    · have same : isWithin (phrases.map fun phrase => (phrase.start, phrase.stop)) site =
          site.around.any (Tree.isTagged options.tag.toList) := by
        rw [Bool.eq_iff_iff, isWithin_iff isPhrases, isWithin_marked_iff isScript siteMem isString,
          List.any_eq_true]
      rw [same]
    · rw [beq_false_of_ne isString, Bool.false_and, Bool.false_and]
  have sites : constantSites options script =
      ((Site.root script).walk.filter (isFreeLiteral options.tag)).filter fun literal =>
        (constantOf? options.language? literal).isSome := by
    rw [List.filter_filter]
    refine List.filter_congr fun literal _ => ?_
    rw [isSome_constantOf?, Bool.and_comm]
  rw [sites, ← free]
  exact replacesConstant_of_constantEdit (mapM_eq_ok_iff.mp each)

end Edits

/-! ## The built source -/

section Built

variable {text : List Char} {script : Tree} {origin : Phrase.Origin} {options : BuildOptions}

/-- Edits that stand at sites of a script make a substitution if the sites are apart. -/
theorem isSubstitution_of_sites (isScript : Script.IsScriptOf text script) {edits : List Edit}
    {sites : List Site}
    (sameSpans : sites.map (fun site => (site.start, site.stop)) =
      edits.map fun edit => (edit.start, edit.stop))
    (siteMem : ∀ site ∈ sites, site ∈ (Site.root script).walk)
    (solid : ∀ site ∈ sites, site.tree.Solid)
    (apart : sites.Pairwise fun first second =>
      first.stop ≤ second.start ∨ second.stop ≤ first.start) :
    IsSubstitution edits (encoded text) (applyEdits edits (encoded text)) := by
  have exists_site (edit : Edit) (editMem : edit ∈ edits) :
      ∃ site ∈ sites, site.start = edit.start ∧ site.stop = edit.stop := by
    have spanMem : (edit.start, edit.stop) ∈ sites.map fun site => (site.start, site.stop) := by
      rw [sameSpans]
      exact List.mem_map_of_mem editMem
    obtain ⟨site, isSite, sameSpan⟩ := List.mem_map.mp spanMem
    exact ⟨site, isSite, Prod.mk.inj sameSpan⟩
  refine isSubstitution_applyEdits (fun edit editMem => ?_) ?_ fun edit editMem => ?_
  · obtain ⟨site, isSite, start, stop⟩ := exists_site edit editMem
    rw [← start, ← stop]
    exact start_lt_stop (solid site isSite)
  · have spansApart : (sites.map fun site => (site.start, site.stop)).Pairwise
        fun first second => first.2 ≤ second.1 ∨ second.2 ≤ first.1 :=
      List.pairwise_map.mpr apart
    rw [sameSpans] at spansApart
    exact List.pairwise_map.mp spansApart
  · obtain ⟨site, isSite, start, stop⟩ := exists_site edit editMem
    obtain ⟨back, whole⟩ := Site.text_eq_of_mem_walk_root (siteMem site isSite)
    rw [length_encoded, ← isScript.text, whole, byteCount_append, byteCount_append,
      byteCount_reverse, ← stop]
    exact Nat.le_add_right _ _

/-- The sites at which a source is edited. -/
def editedSites (options : BuildOptions) (script : Tree) : List Site :=
  marked options.tag script ++ constantSites options script

theorem constantSites_facts {literal : Site} (literalMem : literal ∈ constantSites options script) :
    literal ∈ (Site.root script).walk ∧ literal.tree.kind = .string ∧
      ∀ tree ∈ literal.around, tree.isTagged options.tag.toList = false := by
  obtain ⟨inWalk, isConstant⟩ := List.mem_filter.mp literalMem
  obtain ⟨isString, isFree⟩ := Bool.and_eq_true_iff.mp (Bool.and_eq_true_iff.mp isConstant).1
  exact ⟨inWalk, beq_iff_eq.mp isString, by simpa using isFree⟩

theorem mem_walk_of_mem_editedSites {site : Site} (siteMem : site ∈ editedSites options script) :
    site ∈ (Site.root script).walk := by
  rcases List.mem_append.mp siteMem with isMarked | isConstant
  · exact (List.mem_filter.mp isMarked).1
  · exact (constantSites_facts isConstant).1

theorem solid_of_mem_editedSites (isScript : Script.IsScriptOf text script) {site : Site}
    (siteMem : site ∈ editedSites options script) : site.tree.Solid := by
  refine solid_of_mem_walk_root isScript (mem_walk_of_mem_editedSites siteMem) fun isProgram => ?_
  rcases List.mem_append.mp siteMem with isMarked | isConstant
  · have isElement := isElement_of_isTagged (List.mem_filter.mp isMarked).2
    rw [isProgram] at isElement
    contradiction
  · rw [(constantSites_facts isConstant).2.1] at isProgram
    contradiction

/-- No edited site stands within another one, as long as no marked element does. -/
theorem notMem_around_editedSites (isScript : Script.IsScriptOf text script)
    (outer : ∀ element ∈ marked options.tag script,
      ∀ tree ∈ element.around, tree.isTagged options.tag.toList = false)
    {site other : Site} (siteMem : site ∈ editedSites options script)
    (otherMem : other ∈ editedSites options script) : site.tree ∉ other.around := by
  rcases List.mem_append.mp siteMem with isMarked | isConstant
  · have untagged : ∀ tree ∈ other.around, tree.isTagged options.tag.toList = false := by
      rcases List.mem_append.mp otherMem with otherMarked | otherConstant
      · exact outer other otherMarked
      · exact (constantSites_facts otherConstant).2.2
    intro isAround
    have tagged := (List.mem_filter.mp isMarked).2
    rw [untagged site.tree isAround] at tagged
    contradiction
  · obtain ⟨literalMem, isString, _⟩ := constantSites_facts isConstant
    exact notMem_around_of_string isScript literalMem isString
      (mem_walk_of_mem_editedSites otherMem)

theorem pairwise_editedSites (isScript : Script.IsScriptOf text script)
    (outer : ∀ element ∈ marked options.tag script,
      ∀ tree ∈ element.around, tree.isTagged options.tag.toList = false) :
    (editedSites options script).Pairwise fun first second =>
      first.stop ≤ second.start ∨ second.stop ≤ first.start := by
  have apart {first second : Site} (firstMem : first ∈ editedSites options script)
      (secondMem : second ∈ editedSites options script) : first.tree ∉ second.around :=
    notMem_around_editedSites isScript outer firstMem secondMem
  refine List.pairwise_append.mpr ⟨?_, ?_, fun element elementMem literal literalMem => ?_⟩
  · refine ((Site.pairwise_walk _).filter _).imp_of_mem fun {first second} firstMem secondMem
      precedes => .inl (precedes.resolve_right fun inside => ?_)
    exact apart (List.mem_append_left _ firstMem) (List.mem_append_left _ secondMem) inside.1
  · refine ((Site.pairwise_walk _).filter _).imp_of_mem fun {first second} firstMem secondMem
      precedes => .inl (precedes.resolve_right fun inside => ?_)
    exact apart (List.mem_append_right _ firstMem) (List.mem_append_right _ secondMem) inside.1
  · have elementEdited : element ∈ editedSites options script := List.mem_append_left _ elementMem
    have literalEdited : literal ∈ editedSites options script := List.mem_append_right _ literalMem
    have different : element ≠ literal := by
      rintro rfl
      have isElement := isElement_of_isTagged (List.mem_filter.mp elementMem).2
      rw [(constantSites_facts literalMem).2.1] at isElement
      contradiction
    exact apart_of_notMem_around (mem_walk_of_mem_editedSites elementEdited)
      (mem_walk_of_mem_editedSites literalEdited) different (apart elementEdited literalEdited)
      (apart literalEdited elementEdited)

/-- What building a source does: every marked element is replaced by an element and every constant
outside of them by its value, all at once. -/
structure IsBuilt (origin : Phrase.Origin) (options : BuildOptions) (script : Tree)
    (replaced constants : List Edit) (output : String) : Prop where
  elements : List.Forall₂ (ReplacesElement origin options) (marked options.tag script) replaced
  literals : List.Forall₂ (ReplacesConstant options) (constantSites options script) constants
  substitution : IsSubstitution (replaced ++ constants) origin.source.bytes
    (Text.Source.ofString output).bytes

theorem isScriptOf_of_script (done : origin.script = .ok script) :
    Script.IsScriptOf origin.source.characters script :=
  Script.isScriptOf_of_read (Phrase.Origin.script_eq_ok done)

theorem bytes_of_edited {edits : List Edit} {output : String}
    (done : edited origin edits = .ok output) :
    (Text.Source.ofString output).bytes = applyEdits edits origin.source.bytes := by
  unfold edited at done
  split at done
  · rename_i text isText
    obtain rfl := Except.ok.inj done
    exact Text.Source.bytes_of_text? isText
  · contradiction

/-- Building a source that is text is one simultaneous substitution. -/
theorem isBuilt_source {output : String} (isText : origin.source.stray = [])
    (done : source origin options = .ok output) :
    ∃ script replaced constants, origin.script = .ok script ∧
      editsOf origin options = .ok (replaced ++ constants) ∧
      IsBuilt origin options script replaced constants output := by
  obtain ⟨edits, isEdits, done⟩ := bind_eq_ok_iff.mp done
  obtain ⟨script, isRead, rest⟩ := bind_eq_ok_iff.mp isEdits
  obtain ⟨phrases, isPhrases, rest⟩ := bind_eq_ok_iff.mp rest
  obtain ⟨replaced, isReplaced, rest⟩ := bind_eq_ok_iff.mp rest
  obtain ⟨constants, isConstants, rest⟩ := bind_eq_ok_iff.mp rest
  obtain rfl := Except.ok.inj rest
  have isScript := mapError_eq_ok_iff.mp isRead
  have whole := isScriptOf_of_script isScript
  have found := mapError_eq_ok_iff.mp isPhrases
  have elements : List.Forall₂ (ReplacesElement origin options) (marked options.tag script)
      replaced := by
    refine forall₂_of_common ?_ (List.Forall₂.flip (mapM_eq_ok_iff.mp found))
      (mapM_eq_ok_iff.mp isReplaced)
    exact fun phrase element edit isPhrase made => replacesElement_of_phraseEdit isPhrase made
  have literals := replacesConstant_of_constantEdits whole (Phrase.forall₂_isPhraseOf found)
    isConstants
  have outer : ∀ element ∈ marked options.tag script,
      ∀ tree ∈ element.around, tree.isTagged options.tag.toList = false := by
    intro element elementMem
    obtain ⟨phrase, _, _, isPhrase⟩ :=
      exists_mem_zip_left (Phrase.forall₂_isPhraseOf found) elementMem
    exact isPhrase.isOuter
  have sameSpans : (editedSites options script).map (fun site => (site.start, site.stop)) =
      (replaced ++ constants).map fun edit => (edit.start, edit.stop) := by
    rw [editedSites, List.map_append, List.map_append,
      map_eq_map_of_forall₂ (elements.imp fun _ _ => ReplacesElement.span_eq),
      map_eq_map_of_forall₂ (literals.imp fun _ _ => ReplacesConstant.span_eq)]
  refine ⟨script, replaced, constants, isScript, isEdits, elements, literals, ?_⟩
  rw [bytes_of_edited done, Text.Source.bytes_eq_encoded isText]
  exact isSubstitution_of_sites whole sameSpans (fun _ => mem_walk_of_mem_editedSites)
    (fun _ => solid_of_mem_editedSites whole) (pairwise_editedSites whole outer)

/-- An element and a constant behind characters of two bytes each. -/
theorem isBuilt_element_and_constant :
    let origin : Phrase.Origin := ⟨"f", Text.Source.ofString
      "const é = <T key=\"x\">è</T>, b = \"JSXLATE_IS_BAKED\";"⟩
    let output := "const é = <T k=\"13d6ace9747e\" deps=\x7b[]\x7d key=\"x\">è</T>, b = false;"
    origin.source.stray = [] ∧ source origin {} = .ok output ∧
      ∃ script replaced constants, editsOf origin {} = .ok (replaced ++ constants) ∧
        (replaced ++ constants).map (fun edit => (edit.start, edit.stop)) = [(11, 28), (34, 52)] ∧
        IsBuilt origin {} script replaced constants output := by
  intro origin output
  have isText : origin.source.stray = [] := rfl
  let edits : List Edit := [
    ⟨11, 28, "<T k=\"13d6ace9747e\" deps=\x7b[]\x7d key=\"x\">è</T>".toList⟩,
    ⟨34, 52, "false".toList⟩]
  have areEdits : (editsOf origin {}).toOption = some edits := by decide +kernel
  have areEdits := toOption_eq_some_iff.mp areEdits
  have inOrder : edits.Pairwise fun left right => left.start < right.start := by decide
  have isOutput : (Text.Source.ofBytes (edits.foldr (fun edit bytes => splice bytes edit)
      origin.source.bytes)).text? = some output := by decide +kernel
  have done : source origin {} = .ok output := by
    unfold source edited
    rw [areEdits]
    simp only [bind, Except.bind]
    rw [applyEdits_of_pairwise inOrder, isOutput]
  obtain ⟨script, replaced, constants, _, isEdits, isBuilt⟩ := isBuilt_source isText done
  have sameEdits := Except.ok.inj (areEdits.symm.trans isEdits)
  exact ⟨isText, done, script, replaced, constants, isEdits, sameEdits ▸ rfl, isBuilt⟩

/-- The word in the place of a constant that is the value of an attribute leaves no script. -/
example : (editsOf ⟨"f", Text.Source.ofString "a = <p b=\"JSXLATE_IS_BAKED\"/>;"⟩ {}).toOption =
    some [⟨9, 27, "false".toList⟩] ∧
      (Script.read "a = <p b=false/>;".toList).toOption.isNone = true := by
  decide +kernel

end Built

end Phrasebook.Build
