import Phrasebook.Phrase.Extraction
import Phrasebook.Proofs.Outcome

/-!
# What is extracted

The phrases of a source are those of its marked elements, one for each and in
the order of the text.  `IsPhraseOf` says what a phrase takes from its element
whatever the version of the normal form is.
-/

namespace Phrasebook.Phrase

open Markup

/-- Whether an attribute keys its element among its neighbours. -/
def isKeyAttribute (member : Site) : Bool :=
  member.tree.kind == .attribute && String.ofList member.attributeName == "key"

/-- The source text of the attribute that keys an element among its neighbours; the last one
counts. -/
def keyAttributeOf? (element : Site) : Option String :=
  (element.attributes.filter isKeyAttribute).getLast?.map fun member => String.ofList member.text

/-- What a phrase takes from the element that it is made of. -/
structure IsPhraseOf (origin : Origin) (tag : String) (element : Site) (phrase : Phrase) :
    Prop where
  /-- No marked element is around the element. -/
  isOuter : ∀ tree ∈ element.around, tree.isTagged tag.toList = false
  isElement : element.tree.kind = .element
  place : phrase.place = ⟨origin.path, element.line⟩
  start : phrase.start = element.start
  stop : phrase.stop = element.stop
  body : phrase.body = String.ofList element.tree.body
  keyAttribute? : phrase.keyAttribute? = keyAttributeOf? element

section Remarks

variable {origin : Origin} {element member : Site} {remarks next : Remarks}

theorem Origin.text_eq_ok {text : String} (done : origin.text member = .ok text) :
    text = String.ofList member.text := by
  unfold Origin.text at done
  split at done
  · exact (Except.ok.inj done).symm
  · contradiction

theorem Origin.refuse_ne_ok {α : Type} {fault : UsageFault} {value : α} :
    origin.refuse element fault ≠ .ok value :=
  nofun

theorem Origin.listedName_eq_ok {name : String} (done : origin.listedName member = .ok name) :
    member.tree.kind = .identifier ∧ name = String.ofList member.text := by
  unfold Origin.listedName at done
  split at done
  · rename_i isIdentifier
    exact ⟨isIdentifier, (Except.ok.inj done).symm⟩
  · exact absurd done Origin.refuse_ne_ok

/-- An attribute lists dependencies if its value is a list of names in braces. -/
theorem Origin.listedDependencies_eq_ok {names : List String}
    (done : origin.listedDependencies member = .ok names) :
    ∃ value array, member.attributeValue? = some value ∧ value.expression? = some array ∧
      array.contents.mapM origin.listedName = .ok names := by
  unfold Origin.listedDependencies at done
  split at done
  · exact absurd done Origin.refuse_ne_ok
  · rename_i value isValue
    split at done
    · split at done
      · exact absurd done Origin.refuse_ne_ok
      · rename_i array isArray
        split at done
        · exact ⟨value, array, isValue, isArray, done⟩
        · exact absurd done Origin.refuse_ne_ok
    · exact absurd done Origin.refuse_ne_ok

/-- What one attribute can do: it lists dependencies, gives the context, keys the element or says
nothing. -/
theorem Origin.remark_eq_ok (done : origin.remark element remarks member = .ok next) :
    member.tree.kind = .attribute ∧
      ((String.ofList member.attributeName = "deps" ∧
          ∃ names, origin.listedDependencies member = .ok names ∧
            next = { remarks with dependencies := remarks.dependencies ++ names }) ∨
        (String.ofList member.attributeName = "context" ∧
          ∃ context, origin.givenContext member = .ok context ∧
            next = { remarks with context }) ∨
        (String.ofList member.attributeName = "key" ∧
          next = { remarks with keyAttribute? := some (String.ofList member.text) }) ∨
        (String.ofList member.attributeName ∈ silentAttributes ∧ next = remarks)) := by
  unfold Origin.remark at done
  split at done
  · rename_i isAttribute
    refine ⟨isAttribute, ?_⟩
    dsimp only at done
    split_ifs at done with isListing isContext isKey isSilent
    · obtain ⟨names, listed, rfl⟩ := map_eq_ok_iff.mp done
      exact .inl ⟨beq_iff_eq.mp isListing, names, listed, rfl⟩
    · obtain ⟨context, given, rfl⟩ := map_eq_ok_iff.mp done
      exact .inr (.inl ⟨beq_iff_eq.mp isContext, context, given, rfl⟩)
    · obtain ⟨text, isText, rfl⟩ := map_eq_ok_iff.mp done
      rw [Origin.text_eq_ok isText]
      exact .inr (.inr (.inl ⟨beq_iff_eq.mp isKey, rfl⟩))
    · exact .inr (.inr (.inr ⟨List.contains_iff_mem.mp isSilent, (Except.ok.inj done).symm⟩))
    · exact absurd done Origin.refuse_ne_ok
  · exact absurd done Origin.refuse_ne_ok

/-- One attribute replaces the key attribute if it is one itself, and leaves it alone otherwise. -/
theorem Origin.remark_keyAttribute? (done : origin.remark element remarks member = .ok next) :
    next.keyAttribute? =
      if isKeyAttribute member then some (String.ofList member.text)
      else remarks.keyAttribute? := by
  obtain ⟨isAttribute, isMeant⟩ := Origin.remark_eq_ok done
  unfold isKeyAttribute
  simp only [isAttribute, BEq.rfl, Bool.true_and]
  rcases isMeant with ⟨named, _, _, rfl⟩ | ⟨named, _, _, rfl⟩ | ⟨named, rfl⟩ | ⟨named, rfl⟩
  · rw [named]
    rfl
  · rw [named]
    rfl
  · rw [named]
    rfl
  · have notKey : String.ofList member.attributeName ≠ "key" := by
      intro isKey
      rw [isKey] at named
      exact absurd named (by decide)
    rw [if_neg (beq_iff_eq.not.mpr notKey)]

/-- The last key attribute among several counts, and a former one if there is none. -/
theorem foldlM_remark_keyAttribute? {members : List Site}
    (done : members.foldlM (origin.remark element) remarks = .ok next) :
    next.keyAttribute? =
      ((members.filter isKeyAttribute).getLast?.map fun member => String.ofList member.text).or
        remarks.keyAttribute? := by
  induction members generalizing remarks with
  | nil =>
      obtain rfl := Except.ok.inj done
      rfl
  | cons member members ih =>
      obtain ⟨between, first, rest⟩ := bind_eq_ok_iff.mp done
      rw [ih rest, Origin.remark_keyAttribute? first]
      by_cases isKey : isKeyAttribute member = true
      · rw [List.filter_cons_of_pos isKey, List.getLast?_cons, if_pos isKey]
        cases (members.filter isKeyAttribute).getLast? <;> rfl
      · rw [List.filter_cons_of_neg isKey, if_neg isKey]

theorem Origin.remarks_keyAttribute? (done : origin.remarks element = .ok remarks) :
    remarks.keyAttribute? = keyAttributeOf? element := by
  rw [foldlM_remark_keyAttribute? done, Option.or_none]
  rfl

end Remarks

section Phrases

variable {origin : Origin} {tag : String} {element : Site} {phrase : Phrase}

theorem Origin.script_eq_ok {script : Tree} (done : origin.script = .ok script) :
    Script.read origin.source.characters = .ok script := by
  unfold Origin.script at done
  split at done
  · rename_i isRead
    rw [isRead, Except.ok.inj done]
  · contradiction

theorem Origin.childDependencies_eq_ok {names : List String}
    (done : origin.childDependencies tag element = .ok names) :
    namesNeeded tag (element.opening.line + lineFeeds element.opening.text)
      element.tree.elementChildren = .ok names := by
  unfold Origin.childDependencies at done
  dsimp only at done
  split at done
  · rename_i needed
    rw [needed, Except.ok.inj done]
  · contradiction

/-- The phrase that an element is, given what was read of it. -/
def Origin.phraseWith (origin : Origin) (version : Version) (element : Site) (body : String)
    (remarks : Remarks) (found : List String) : Phrase :=
  let dependencies := sortedTexts (remarks.dependencies ++ found)
  let normal := String.ofList (version.normalize body.toList)
  let signature := signatureOf normal remarks.context dependencies
  let isMultiline := lineFeeds element.text != 0
  let indentation := element.lineStart.takeWhile isGap
  let lines := (linesOf body.toList).map fun line =>
    String.ofList (dropIndentation indentation line)
  { key := keyOf signature
    signature, body
    context := remarks.context
    dependencies, isMultiline
    lines := if isMultiline then lines else [body]
    place := ⟨origin.path, element.line⟩
    start := element.start
    stop := element.stop
    keyAttribute? := remarks.keyAttribute? }

/-- An element is a phrase exactly if no marked element is around it, it has a closing tag, and its
body, its attributes and its children can be read. -/
theorem Origin.phrase_eq_ok_iff {version : Version} :
    origin.phrase tag version element = .ok phrase ↔
      (∀ tree ∈ element.around, tree.isTagged tag.toList = false) ∧
        element.tree.kind = .element ∧
        ∃ body remarks found, origin.body element = .ok body ∧
          origin.remarks element = .ok remarks ∧
          origin.childDependencies tag element = .ok found ∧
          phrase = origin.phraseWith version element body remarks found := by
  unfold Origin.phrase
  dsimp only
  constructor
  · intro done
    split at done
    · obtain ⟨_, refused, _⟩ := bind_eq_ok_iff.mp done
      exact absurd refused Origin.refuse_ne_ok
    · rename_i isOuter
      split at done
      · obtain ⟨_, refused, _⟩ := bind_eq_ok_iff.mp done
        exact absurd refused Origin.refuse_ne_ok
      · rename_i isElement
        obtain ⟨body, isBody, done⟩ := bind_eq_ok_iff.mp done
        obtain ⟨remarks, remarked, done⟩ := bind_eq_ok_iff.mp done
        obtain ⟨found, isFound, done⟩ := bind_eq_ok_iff.mp done
        exact ⟨by simpa using isOuter, by simpa using isElement, body, remarks, found, isBody,
          remarked, isFound, (Except.ok.inj done).symm⟩
  · rintro ⟨isOuter, isElement, body, remarks, found, isBody, remarked, isFound, rfl⟩
    rw [if_neg (by simpa using isOuter), if_neg (by simpa using isElement)]
    exact bind_eq_ok_iff.mpr ⟨body, isBody, bind_eq_ok_iff.mpr ⟨remarks, remarked,
      bind_eq_ok_iff.mpr ⟨found, isFound, rfl⟩⟩⟩

theorem Origin.phraseOf_eq_ok_iff {number : Int} :
    origin.phraseOf tag number element = .ok phrase ↔
      ∃ version, Version.ofNumber number = .ok version ∧
        element.tree.isTagged tag.toList = true ∧
        origin.phrase tag version element = .ok phrase := by
  unfold Origin.phraseOf
  split
  · rename_i notKnown
    simp [notKnown]
  · rename_i version isKnown
    simp only [isKnown, Except.ok.injEq, exists_eq_left']
    split
    · rename_i isTagged
      simp [isTagged]
    · rename_i notTagged
      simp [notTagged, Origin.refuse_ne_ok]

theorem Origin.body_eq_ok {body : String} (done : origin.body element = .ok body) :
    body = String.ofList element.tree.body := by
  unfold Origin.body at done
  dsimp only at done
  split at done
  · exact (Except.ok.inj done).symm
  · contradiction

theorem isPhraseOf_of_phrase {version : Version}
    (done : origin.phrase tag version element = .ok phrase) :
    IsPhraseOf origin tag element phrase := by
  obtain ⟨isOuter, isElement, _, _, _, isBody, remarked, _, rfl⟩ :=
    Origin.phrase_eq_ok_iff.mp done
  exact {
    isOuter
    isElement
    place := rfl
    start := rfl
    stop := rfl
    body := Origin.body_eq_ok isBody
    keyAttribute? := Origin.remarks_keyAttribute? remarked }

theorem isPhraseOf_of_phraseOf {number : Int}
    (done : origin.phraseOf tag number element = .ok phrase) :
    IsPhraseOf origin tag element phrase := by
  obtain ⟨_, _, _, done⟩ := Origin.phraseOf_eq_ok_iff.mp done
  exact isPhraseOf_of_phrase done

/-- The phrases of a script are those of its marked elements, in the order of the text. -/
theorem forall₂_isPhraseOf {version : Int} {script : Tree} {phrases : List Phrase}
    (done : origin.phrasesIn tag version script = .ok phrases) :
    List.Forall₂ (IsPhraseOf origin tag) (marked tag script) phrases :=
  (mapM_eq_ok_iff.mp done).imp fun _ _ => isPhraseOf_of_phraseOf

end Phrases

end Phrasebook.Phrase
