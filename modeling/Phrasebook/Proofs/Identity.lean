import Phrasebook.Proofs.Signature

/-!
# What identifies a phrase

A signature tells the normal form, the context and the dependencies that it is
made of.  The dependencies of a phrase are the set of the names that its
element mentions, so phrases are the same if they agree in their normal forms,
their contexts and these sets, in whatever order the names are mentioned.
-/

namespace Phrasebook.Phrase

open Markup

/-! ## Signatures with any context -/

section Parts

/-- A separator that is in neither of the first parts tells the parts. -/
theorem append_cons_inj_of_fronts {α : Type} {separator : α} {fronts others backs lasts : List α}
    (inFronts : separator ∉ fronts) (inOthers : separator ∉ others)
    (same : fronts ++ [separator] ++ backs = others ++ [separator] ++ lasts) :
    fronts = others ∧ backs = lasts := by
  have reversed : backs.reverse ++ [separator] ++ fronts.reverse =
      lasts.reverse ++ [separator] ++ others.reverse := by
    simpa using congrArg List.reverse same
  obtain ⟨sameBacks, sameFronts⟩ := append_cons_inj (by simpa using inFronts)
    (by simpa using inOthers) reversed
  exact ⟨List.reverse_inj.mp sameFronts, List.reverse_inj.mp sameBacks⟩

/-- The parts of a signature, provided that the normal form holds no null character and all
dependencies can be listed.  The context may be any text. -/
theorem signatureOf_eq_iff {normal other context otherContext : String}
    {dependencies others : List String} (present : '\u0000' ∉ normal.toList)
    (otherPresent : '\u0000' ∉ other.toList)
    (areListable : ∀ name ∈ dependencies, IsListable name)
    (areOthers : ∀ name ∈ others, IsListable name) :
    signatureOf normal context dependencies = signatureOf other otherContext others ↔
      normal = other ∧ context = otherContext ∧ dependencies = others := by
  constructor
  · intro same
    -- the dependencies are told from the back, and then the normal form from the front
    obtain ⟨sameFront, sameNames⟩ := signatureOf_back_inj areListable areOthers same
    obtain ⟨sameNormal, sameContext⟩ := append_cons_inj_of_fronts present otherPresent sameFront
    exact ⟨String.toList_inj.mp sameNormal, String.toList_inj.mp sameContext, sameNames⟩
  · rintro ⟨rfl, rfl, rfl⟩
    rfl

end Parts

/-! ## Names that an element mentions -/

/-- Whether an attribute lists dependencies. -/
def isListing (member : Site) : Bool :=
  member.tree.kind == .attribute && String.ofList member.attributeName == "deps"

/-- The items of the list that an attribute holds. -/
def listedItems (member : Site) : List Site :=
  ((member.attributeValue?.bind Site.expression?).map Site.contents).getD []

/-- The names that an element mentions, as they occur: those that its attributes list and those that
its children need. -/
def mentions (tag : String) (element : Site) : List String :=
  let listed := (element.attributes.filter isListing).flatMap fun member =>
    (listedItems member).map fun item => String.ofList item.text
  let opening := element.opening
  let line := opening.line + lineFeeds opening.text
  listed ++ foundNames (childFindings tag line element.tree.elementChildren)

section Mentions

variable {origin : Origin} {tag : String} {element member : Site} {remarks next : Remarks}
  {names : List String}

theorem map_listedItems (done : origin.listedDependencies member = .ok names) :
    (listedItems member).map (fun item => String.ofList item.text) = names := by
  obtain ⟨value, array, isValue, isArray, done⟩ := Origin.listedDependencies_eq_ok done
  have isListed : listedItems member = array.contents := by
    simp [listedItems, isValue, isArray]
  have texts : array.contents.map (fun item => String.ofList item.text) = names.map id :=
    map_eq_map_of_forall₂
      ((mapM_eq_ok_iff.mp done).imp fun _ _ listed => (Origin.listedName_eq_ok listed).2.symm)
  rw [isListed, texts, List.map_id]

/-- One attribute adds the names that it lists. -/
theorem remark_dependencies (done : origin.remark element remarks member = .ok next) :
    next.dependencies = remarks.dependencies ++
      if isListing member then (listedItems member).map fun item => String.ofList item.text
      else [] := by
  obtain ⟨isAttribute, isMeant⟩ := Origin.remark_eq_ok done
  unfold isListing
  simp only [isAttribute, BEq.rfl, Bool.true_and]
  rcases isMeant with ⟨named, names, listed, rfl⟩ | ⟨named, _, _, rfl⟩ | ⟨named, rfl⟩ | ⟨named, rfl⟩
  · rw [if_pos (beq_iff_eq.mpr named), map_listedItems listed]
  · rw [named]
    exact (List.append_nil _).symm
  · rw [named]
    exact (List.append_nil _).symm
  · have notListing : String.ofList member.attributeName ≠ "deps" := by
      intro isListing
      rw [isListing] at named
      exact absurd named (by decide)
    rw [if_neg (beq_iff_eq.not.mpr notListing), List.append_nil]

/-- Attributes add the names that they list, in their order. -/
theorem foldlM_remark_dependencies {members : List Site}
    (done : members.foldlM (origin.remark element) remarks = .ok next) :
    next.dependencies = remarks.dependencies ++
      (members.filter isListing).flatMap fun member =>
        (listedItems member).map fun item => String.ofList item.text := by
  induction members generalizing remarks with
  | nil =>
      obtain rfl := Except.ok.inj done
      simp
  | cons member members ih =>
      obtain ⟨between, first, rest⟩ := bind_eq_ok_iff.mp done
      rw [ih rest, remark_dependencies first]
      by_cases isListed : isListing member = true
      · rw [List.filter_cons_of_pos isListed, List.flatMap_cons, if_pos isListed,
          List.append_assoc]
      · rw [List.filter_cons_of_neg isListed, if_neg isListed, List.append_nil]

theorem eq_of_childDependencies (done : origin.childDependencies tag element = .ok names) :
    names = sortedTexts (foundNames (childFindings tag
      (element.opening.line + lineFeeds element.opening.text) element.tree.elementChildren)) := by
  have needed := Origin.childDependencies_eq_ok done
  unfold namesNeeded at needed
  dsimp only at needed
  split at needed
  · contradiction
  · exact (Except.ok.inj needed).symm

/-- The dependencies of a phrase are the names that its element mentions, sorted and each once. -/
theorem dependencies_of_phrase {version : Version} {phrase : Phrase}
    (done : origin.phrase tag version element = .ok phrase) :
    phrase.dependencies = sortedTexts (mentions tag element) := by
  obtain ⟨_, _, _, _, _, _, remarked, isFound, rfl⟩ := Origin.phrase_eq_ok_iff.mp done
  refine sortedSet_eq_of_mem_iff isLinear_lt_text fun name => ?_
  rw [mentions, foldlM_remark_dependencies remarked, eq_of_childDependencies isFound,
    List.nil_append, List.mem_append, List.mem_append, mem_sortedTexts]

end Mentions

/-! ## Extracted phrases -/

/-- A phrase that was made of a marked element of a source. -/
structure Extracted where
  origin : Origin
  tag : String
  version : Version
  script : Tree
  element : Site
  phrase : Phrase
  isRead : origin.script = .ok script
  isMarked : element ∈ marked tag script
  isMade : origin.phrase tag version element = .ok phrase

namespace Extracted

/-- The normal form that the phrase has. -/
def normal (extracted : Extracted) : List Char :=
  extracted.version.normalize extracted.phrase.body.toList

/-- The names that the element of the phrase mentions, as they occur. -/
def mentioned (extracted : Extracted) : List String :=
  mentions extracted.tag extracted.element

theorem isSigned (extracted : Extracted) : IsSigned extracted.version extracted.phrase :=
  isSigned_of_phrase (isPart_of_mem_marked extracted.isRead extracted.isMarked) extracted.isMade

theorem dependencies_eq (extracted : Extracted) :
    extracted.phrase.dependencies = sortedTexts extracted.mentioned :=
  dependencies_of_phrase extracted.isMade

end Extracted

/-- Every phrase of a source is one that was made of a marked element. -/
theorem exists_extracted {origin : Origin} {tag : String} {number : Int} {phrases : List Phrase}
    {phrase : Phrase} (done : origin.phrases tag number = .ok phrases)
    (phraseMem : phrase ∈ phrases) :
    ∃ extracted : Extracted, extracted.origin = origin ∧ extracted.tag = tag ∧
      Version.ofNumber number = .ok extracted.version ∧ extracted.phrase = phrase := by
  obtain ⟨script, isRead, done⟩ := bind_eq_ok_iff.mp done
  obtain ⟨element, isMarked, _, made⟩ := exists_mem_zip_right (mapM_eq_ok_iff.mp done) phraseMem
  obtain ⟨version, isVersion, _, isMade⟩ := Origin.phraseOf_eq_ok_iff.mp made
  exact ⟨⟨origin, tag, version, script, element, phrase, isRead, isMarked, isMade⟩, rfl, rfl,
    isVersion, rfl⟩

/-- Equal signatures have equal parts.  So phrases have the same signature exactly if they have the
same normal form and context and their elements mention the same names, in whatever order. -/
theorem signature_identifies :
    (∀ {normal other context otherContext : String} {dependencies others : List String},
      '\u0000' ∉ normal.toList → '\u0000' ∉ other.toList →
      (∀ name ∈ dependencies, IsListable name) → (∀ name ∈ others, IsListable name) →
      (signatureOf normal context dependencies = signatureOf other otherContext others ↔
        normal = other ∧ context = otherContext ∧ dependencies = others)) ∧
    ∀ left right : Extracted,
      (left.phrase.signature = right.phrase.signature ↔
        left.normal = right.normal ∧ left.phrase.context = right.phrase.context ∧
          left.phrase.dependencies = right.phrase.dependencies) ∧
      (left.phrase.dependencies = right.phrase.dependencies ↔
        ∀ name, name ∈ left.mentioned ↔ name ∈ right.mentioned) := by
  refine ⟨signatureOf_eq_iff, fun left right => ⟨?_, ?_⟩⟩
  · have isLeft := left.isSigned
    have isRight := right.isSigned
    rw [isLeft.signature, isRight.signature]
    constructor
    · intro same
      obtain ⟨sameNormal, sameContext, sameNames⟩ := signatureOf_inj isLeft.context
        isRight.context isLeft.dependencies isRight.dependencies same
      exact ⟨String.ofList_injective sameNormal, sameContext, sameNames⟩
    · rintro ⟨sameNormal, sameContext, sameNames⟩
      rw [sameContext, sameNames]
      exact congrArg (signatureOf · _ _) (congrArg String.ofList sameNormal)
  · rw [left.dependencies_eq, right.dependencies_eq]
    constructor
    · intro same name
      rw [← mem_sortedTexts, same, mem_sortedTexts]
    · exact sortedSet_eq_of_mem_iff isLinear_lt_text

/-- The first phrase of a source, by one run. -/
theorem exists_extracted_of_run (origin : Origin) (tag : String) (version : Version)
    {body context : String} {normal : List Char} {mentioned : List String}
    (run : (do
      let script ← origin.script.toOption
      let element ← (marked tag script).head?
      let phrase ← (origin.phrase tag version element).toOption
      return (phrase.body, phrase.context, version.normalize phrase.body.toList,
        mentions tag element)) = some (body, context, normal, mentioned)) :
    ∃ extracted : Extracted, extracted.phrase.body = body ∧ extracted.phrase.context = context ∧
      extracted.normal = normal ∧ extracted.mentioned = mentioned := by
  obtain ⟨script, isRead, run⟩ := Option.bind_eq_some_iff.mp run
  obtain ⟨element, isFirst, run⟩ := Option.bind_eq_some_iff.mp run
  obtain ⟨phrase, isMade, run⟩ := Option.bind_eq_some_iff.mp run
  simp only [Option.pure_def, Option.some.injEq, Prod.mk.injEq] at run
  exact ⟨⟨origin, tag, version, script, element, phrase, toOption_eq_some_iff.mp isRead,
    List.mem_of_head? isFirst, toOption_eq_some_iff.mp isMade⟩, run⟩

/-- A context that looks like more than one part, and two phrases of the same signature that are
laid out differently and mention their names in different orders. -/
theorem signature_identifies_mixed_order :
    ('\u0000' ∉ "a".toList ∧ IsListable "e" ∧ IsListable "d" ∧
      signatureOf "a" "\x00c\x00d" ["e"] ≠ signatureOf "a" "\x00c" ["d", "e"]) ∧
    ∃ left right : Extracted,
      left.phrase.body = "hi {a}" ∧ right.phrase.body = " hi  {a} " ∧
      left.mentioned = ["b", "a"] ∧ right.mentioned = ["a", "b", "a", "a"] ∧
      left.phrase.signature = right.phrase.signature := by
  have noNull : '\u0000' ∉ "a".toList := by decide
  have isFirst : IsListable "e" := ⟨by decide, by decide, by decide⟩
  have isSecond : IsListable "d" := ⟨by decide, by decide, by decide⟩
  refine ⟨⟨noNull, isFirst, isSecond, fun same => ?_⟩, ?_⟩
  · have areFirst : ∀ name ∈ ["e"], IsListable name := List.forall_mem_singleton.mpr isFirst
    have areBoth : ∀ name ∈ ["d", "e"], IsListable name :=
      List.forall_mem_cons.mpr ⟨isSecond, areFirst⟩
    have parts := (signature_identifies.1 noNull noNull areFirst areBoth).mp same
    exact absurd parts.2.1 (by decide)
  · obtain ⟨left, leftBody, leftContext, leftNormal, leftNames⟩ :
        ∃ left : Extracted, left.phrase.body = "hi {a}" ∧ left.phrase.context = "" ∧
          left.normal = "hi {a}".toList ∧ left.mentioned = ["b", "a"] :=
      exists_extracted_of_run ⟨"f", Text.Source.ofString "<T deps={[b]}>hi {a}</T>"⟩ "T" .byLine
        (by decide +kernel)
    obtain ⟨right, rightBody, rightContext, rightNormal, rightNames⟩ :
        ∃ right : Extracted, right.phrase.body = " hi  {a} " ∧ right.phrase.context = "" ∧
          right.normal = "hi {a}".toList ∧ right.mentioned = ["a", "b", "a", "a"] :=
      exists_extracted_of_run
        ⟨"f", Text.Source.ofString "<T deps={[a, b, a]}> hi  {a} </T>"⟩ "T" .byLine
        (by decide +kernel)
    have sameNames : left.phrase.dependencies = right.phrase.dependencies := by
      refine (signature_identifies.2 left right).2.mpr fun name => ?_
      rw [leftNames, rightNames]
      simp only [List.mem_cons, List.not_mem_nil, or_false]
      tauto
    exact ⟨left, right, leftBody, rightBody, leftNames, rightNames,
      (signature_identifies.2 left right).1.mpr
        ⟨leftNormal.trans rightNormal.symm, leftContext.trans rightContext.symm, sameNames⟩⟩

end Phrasebook.Phrase
