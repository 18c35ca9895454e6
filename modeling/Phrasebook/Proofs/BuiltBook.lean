import Phrasebook.Build.Basic
import Phrasebook.Proofs.Outcome
import Phrasebook.Proofs.UpdateEffect

/-!
# Built books and built sources

A built source refers to a phrase exactly where the built book keeps a function
for its key, and then that function is the rendering that was chosen for the
phrase.  Building a source and building a book choose a language and decide on
markup each on its own, so this is what makes their results fit together.
-/

namespace Phrasebook.Build

/-- A function in a built book. -/
structure Member where
  key : String
  dependencies : List String
  body : String
deriving DecidableEq, Repr

/-- A function as it is written into a book.  Its key is a literal by the rules of JSON, if nothing
in the book stands for a half of a surrogate pair. -/
def Member.text (holdsHalves : Bool) (indent : String) (member : Member) : String :=
  let key := if holdsHalves then keyLiteral true member.key else Json.literal true member.key
  indent ++ String.ofList key ++ ": (" ++ ", ".intercalate member.dependencies ++ ") => " ++
    member.body ++ ",\n"

/-- The function that a built book keeps of an entry: none where markup takes its place. -/
def member? (languages : List String) (entry : Entry) : Option Member :=
  (entry.firstRendering? languages).bind fun rendering =>
    if rendering.markup?.isSome then none
    else some ⟨entry.key, entry.dependencies, rendering.body⟩

/-- The functions of a built book. -/
def members (languages : List String) (book : Book) : List Member :=
  book.entries.filterMap (member? languages)

/-- A built book with given functions. -/
def bookText (holdsHalves : Bool) (indent preamble : String) (members : List Member) : String :=
  preamble ++ "export default \x7b\n" ++
    String.join (members.map (Member.text holdsHalves indent)) ++ "\x7d\n"

/-- The rendering that takes the place of the phrases with a key. -/
def chosen? (book : Book) (languages : List String) (key : String) : Option Rendering :=
  languages.findSome? fun language => book.rendering? key language

/-- An element refers to a phrase by its key and hands over what it depends on. -/
def Element.RefersTo (element : Element) (phrase : Phrase) : Prop :=
  reference phrase <+: element.attributes

/-! ## Built books -/

section Book

variable {book : Book} {languages : List String} {indent : String} {entry : Entry}

theorem member?_eq_some_iff {member : Member} :
    member? languages entry = some member ↔
      ∃ rendering, entry.firstRendering? languages = some rendering ∧
        rendering.markup? = none ∧ member = ⟨entry.key, entry.dependencies, rendering.body⟩ := by
  unfold member?
  rw [Option.bind_eq_some_iff]
  refine exists_congr fun rendering => and_congr_right fun _ => ?_
  cases rendering.markup? with
  | none => simp [eq_comm]
  | some markup => simp

theorem bookMember_eq_ok_iff {holdsHalves : Bool} {text? : Option String} :
    bookMember holdsHalves languages indent entry = .ok text? ↔
      (entry.firstRendering? languages).isSome = true ∧
        (member? languages entry).map (Member.text holdsHalves indent) = text? := by
  have isKey : keyLiteral holdsHalves entry.key =
      if holdsHalves then keyLiteral true entry.key else Json.literal true entry.key := by
    cases holdsHalves <;> rfl
  unfold bookMember member?
  cases entry.firstRendering? languages with
  | none => simp
  | some rendering =>
      dsimp only [Option.bind]
      cases rendering.markup? <;> simp [Member.text, isKey]

/-- A book is built if every entry has a rendering in one of the languages, and it then holds the
functions that no markup takes the place of. -/
theorem book_eq_ok_iff {text : String} :
    Build.book book languages indent = .ok text ↔
      (∀ entry ∈ book.entries, (entry.firstRendering? languages).isSome = true) ∧
        text = bookText book.holdsHalves indent book.preamble (members languages book) := by
  have texts : (book.entries.map fun entry =>
      (member? languages entry).map (Member.text book.holdsHalves indent)).filterMap id =
        (members languages book).map (Member.text book.holdsHalves indent) := by
    rw [members, List.filterMap_map, List.map_filterMap]
    rfl
  unfold Build.book
  rw [bind_eq_ok_iff]
  constructor
  · rintro ⟨written, isWritten, isText⟩
    have each := mapM_eq_ok_iff.mp isWritten
    have hasRendering : ∀ entry ∈ book.entries,
        (entry.firstRendering? languages).isSome = true := by
      intro entry entryMem
      obtain ⟨_, _, _, done⟩ := exists_mem_zip_left each entryMem
      exact (bookMember_eq_ok_iff.mp done).1
    have isMap : written = book.entries.map fun entry =>
        (member? languages entry).map (Member.text book.holdsHalves indent) := by
      rw [← List.map_id written]
      refine (map_eq_map_of_forall₂ (each.imp fun entry text? done => ?_)).symm
      exact (bookMember_eq_ok_iff.mp done).2
    refine ⟨hasRendering, ?_⟩
    rw [← Except.ok.inj isText, isMap, texts]
    rfl
  · rintro ⟨hasRendering, rfl⟩
    refine ⟨book.entries.map fun entry =>
      (member? languages entry).map (Member.text book.holdsHalves indent), ?_, ?_⟩
    · refine mapM_eq_ok_iff.mpr (List.forall₂_map_right_iff.mpr (List.forall₂_same.mpr ?_))
      exact fun entry entryMem => bookMember_eq_ok_iff.mpr ⟨hasRendering entry entryMem, rfl⟩
    · rw [texts]
      rfl

/-- The functions of a built book have the keys of their entries, in the order of the entries. -/
theorem sublist_map_key_members : ((members languages book).map (·.key)).Sublist book.keys := by
  unfold members Book.keys
  induction book.entries with
  | nil => exact .refl _
  | cons entry entries ih =>
      rw [List.filterMap_cons]
      cases isMember : member? languages entry with
      | none => exact ih.cons _
      | some member =>
          obtain ⟨_, _, _, rfl⟩ := member?_eq_some_iff.mp isMember
          exact ih.cons_cons _

end Book

/-! ## The same choice -/

section Choice

variable {book : Book} {languages : List String} {entry : Entry}

/-- A key leads to the choice that its entry makes. -/
theorem chosen?_eq_firstRendering? (distinct : book.keys.Nodup) (entryMem : entry ∈ book.entries) :
    chosen? book languages entry.key = entry.firstRendering? languages := by
  have sameRendering : book.rendering? entry.key = entry.rendering? := by
    funext language
    rw [Book.rendering?, Book.entry?_of_mem distinct entryMem]
    rfl
  rw [chosen?, sameRendering]
  rfl

/-- A built book keeps the function of a key exactly where the chosen rendering has no markup. -/
theorem mem_members_iff (distinct : book.keys.Nodup) (entryMem : entry ∈ book.entries)
    {member : Member} :
    member ∈ members languages book ∧ member.key = entry.key ↔
      ∃ rendering, chosen? book languages entry.key = some rendering ∧ rendering.markup? = none ∧
        member = ⟨entry.key, entry.dependencies, rendering.body⟩ := by
  rw [chosen?_eq_firstRendering? distinct entryMem, ← member?_eq_some_iff]
  constructor
  · rintro ⟨memberMem, sameKey⟩
    obtain ⟨other, otherMem, isMember⟩ := List.mem_filterMap.mp memberMem
    obtain ⟨_, _, _, isOther⟩ := member?_eq_some_iff.mp isMember
    have otherKey : other.key = entry.key := by
      rw [← sameKey, isOther]
    have same : other = entry :=
      List.inj_on_of_nodup_map distinct otherMem entryMem otherKey
    rwa [same] at isMember
  · intro isMember
    obtain ⟨_, _, _, isEntry⟩ := member?_eq_some_iff.mp isMember
    exact ⟨List.mem_filterMap.mpr ⟨entry, entryMem, isMember⟩, by rw [isEntry]⟩

end Choice

/-! ## Elements for phrases -/

section Rendered

variable {tag : String} {book : Book} {languages : List String} {phrase : Phrase}

/-- The element that shows a phrase in a rendering. -/
def elementOf (tag : String) (phrase : Phrase) (rendering : Rendering) : Element :=
  match rendering.markup? with
  | some markup => ⟨tag, phrase.keyAttribute?.toList, some markup⟩
  | none => ⟨tag, reference phrase ++ phrase.keyAttribute?.toList, some ""⟩

theorem rendered_of_chosen? {rendering : Rendering}
    (isChosen : chosen? book languages phrase.key = some rendering) :
    rendered tag book languages phrase = .ok (elementOf tag phrase rendering) := by
  unfold chosen? at isChosen
  unfold rendered elementOf
  rw [isChosen]
  dsimp only
  cases rendering.markup? <;> rfl

/-- A phrase cannot be built only if no rendering can be chosen for it. -/
theorem chosen?_of_rendered_eq_error {miss : Miss}
    (missed : rendered tag book languages phrase = .error miss) :
    chosen? book languages phrase.key = none := by
  cases isChosen : chosen? book languages phrase.key with
  | none => rfl
  | some rendering =>
      rw [rendered_of_chosen? isChosen] at missed
      contradiction

theorem not_reference_isPrefix_keyAttribute :
    ¬ reference phrase <+: phrase.keyAttribute?.toList := by
  intro isReference
  -- a reference takes two attributes, the key and the dependencies
  have tooLong : (reference phrase).length ≤ phrase.keyAttribute?.toList.length :=
    isReference.length_le
  have isTwo : (reference phrase).length = 2 := rfl
  have atMostOne : phrase.keyAttribute?.toList.length ≤ 1 := by
    cases phrase.keyAttribute? <;> simp
  omega

end Rendered

/-- The element for a phrase and the functions of the built book fit together. -/
structure FitsTogether (book : Book) (languages : List String) (phrase : Phrase)
    (element : Element) : Prop where
  refersTo_iff : element.RefersTo phrase ↔
    ∃ member ∈ members languages book, member.key = phrase.key
  /-- The function that a reference leads to is the rendering that was chosen. -/
  isChosen : ∀ member ∈ members languages book, member.key = phrase.key →
    ∃ rendering, chosen? book languages phrase.key = some rendering ∧
      member.body = rendering.body
  /-- Markup that takes the place of a phrase leaves no function behind. -/
  isInlined : ∀ rendering markup, chosen? book languages phrase.key = some rendering →
    rendering.markup? = some markup →
      element.children? = some markup ∧ phrase.key ∉ (members languages book).map (·.key)

section Built

variable {book : Book} {languages : List String} {phrase : Phrase}

/-- If a rendering can be chosen for a phrase, its element fits together with the built book. -/
theorem fitsTogether_of_chosen? (tag : String) (distinct : book.keys.Nodup) {entry : Entry}
    (entryMem : entry ∈ book.entries) (sameKey : entry.key = phrase.key) {rendering : Rendering}
    (isChosen : chosen? book languages phrase.key = some rendering) :
    ∃ element, rendered tag book languages phrase = .ok element ∧
      FitsTogether book languages phrase element := by
  -- the functions under the key of the phrase, by the one rendering that was chosen
  have memIff (member : Member) : member ∈ members languages book ∧ member.key = phrase.key ↔
      rendering.markup? = none ∧
        member = ⟨phrase.key, entry.dependencies, rendering.body⟩ := by
    rw [← sameKey, mem_members_iff distinct entryMem, sameKey, isChosen]
    constructor
    · rintro ⟨other, isOther, noMarkup, isMember⟩
      obtain rfl := Option.some.inj isOther
      exact ⟨noMarkup, isMember⟩
    · exact fun ⟨noMarkup, isMember⟩ => ⟨rendering, rfl, noMarkup, isMember⟩
  have bodies : ∀ member ∈ members languages book, member.key = phrase.key →
      ∃ other, chosen? book languages phrase.key = some other ∧ member.body = other.body := by
    intro member memberMem isSame
    obtain ⟨_, rfl⟩ := (memIff member).mp ⟨memberMem, isSame⟩
    exact ⟨rendering, isChosen, rfl⟩
  refine ⟨_, rendered_of_chosen? isChosen, ?_⟩
  unfold elementOf
  cases hasMarkup : rendering.markup? with
  | none =>
      refine ⟨⟨fun _ => ?_, fun _ => List.prefix_append _ _⟩, bodies, ?_⟩
      · obtain ⟨memberMem, isSame⟩ := (memIff _).mpr ⟨hasMarkup, rfl⟩
        exact ⟨_, memberMem, isSame⟩
      · intro other markup isOther otherMarkup
        obtain rfl := Option.some.inj (isChosen.symm.trans isOther)
        rw [hasMarkup] at otherMarkup
        contradiction
  | some markup =>
      have absent : ∀ member ∈ members languages book, member.key ≠ phrase.key := by
        intro member memberMem isSame
        have noMarkup := ((memIff member).mp ⟨memberMem, isSame⟩).1
        rw [hasMarkup] at noMarkup
        contradiction
      refine ⟨⟨fun refers => absurd refers not_reference_isPrefix_keyAttribute, ?_⟩, bodies, ?_⟩
      · rintro ⟨member, memberMem, isSame⟩
        exact absurd isSame (absent member memberMem)
      · intro other otherMarkup isOther isMarkup
        obtain rfl := Option.some.inj (isChosen.symm.trans isOther)
        rw [hasMarkup] at isMarkup
        refine ⟨isMarkup, fun keyMem => ?_⟩
        obtain ⟨member, memberMem, isSame⟩ := List.mem_map.mp keyMem
        exact absent member memberMem isSame

/-- Where a book can be built, so can every phrase that it lists, and the two fit together; where a
phrase that it lists cannot be built, the book cannot be built either. -/
theorem fitsTogether_of_book (tag indent : String) (distinct : book.keys.Nodup)
    (keyMem : phrase.key ∈ book.keys) :
    (∀ text, Build.book book languages indent = .ok text →
      text = bookText book.holdsHalves indent book.preamble (members languages book) ∧
        ((members languages book).map (·.key)).Nodup ∧
        ∃ element, rendered tag book languages phrase = .ok element ∧
          FitsTogether book languages phrase element) ∧
      ∀ miss, rendered tag book languages phrase = .error miss →
        ∃ other, Build.book book languages indent = .error other := by
  obtain ⟨entry, entryMem, sameKey⟩ := List.mem_map.mp keyMem
  have choice : chosen? book languages phrase.key = entry.firstRendering? languages :=
    sameKey ▸ chosen?_eq_firstRendering? distinct entryMem
  constructor
  · intro text built
    obtain ⟨hasRendering, isText⟩ := book_eq_ok_iff.mp built
    obtain ⟨rendering, isFirst⟩ := Option.isSome_iff_exists.mp (hasRendering entry entryMem)
    exact ⟨isText, distinct.sublist sublist_map_key_members,
      fitsTogether_of_chosen? tag distinct entryMem sameKey (choice.trans isFirst)⟩
  · intro miss missed
    have noRendering : entry.firstRendering? languages = none :=
      choice.symm.trans (chosen?_of_rendered_eq_error missed)
    cases built : Build.book book languages indent with
    | error other => exact ⟨other, rfl⟩
    | ok text =>
        have hasRendering := (book_eq_ok_iff.mp built).1 entry entryMem
        rw [noRendering] at hasRendering
        contradiction

end Built

/-- One phrase is only in the second language, where markup takes its place; another one has markup
in the second language, but the first one has a function for it. -/
theorem fitsTogether_two_languages :
    let book : Book := {
      preamble := ""
      entries := [
        { key := "a", renderings := [
          { language := "sv", body := "<O>a</O>", markup? := some "a" }] },
        { key := "b", renderings := [
          { language := "sv", body := "<O>b</O>", markup? := some "b" },
          { language := "de", form := .block, body := "\x7b return 1; \x7d" }] }] }
    let phrase : Phrase := { (default : Phrase) with key := "b" }
    book.keys.Nodup ∧ phrase.key ∈ book.keys ∧
      Build.book book ["de", "sv"] "\t" =
        .ok "export default \x7b\n\t\"b\": () => \x7b return 1; \x7d,\n\x7d\n" ∧
      ∃ element, rendered "T" book ["de", "sv"] phrase = .ok element ∧ element.RefersTo phrase ∧
        FitsTogether book ["de", "sv"] phrase element := by
  intro book phrase
  have distinct : book.keys.Nodup := by decide
  have keyMem : phrase.key ∈ book.keys := by decide
  have built : Build.book book ["de", "sv"] "\t" =
      .ok "export default \x7b\n\t\"b\": () => \x7b return 1; \x7d,\n\x7d\n" := by decide +kernel
  obtain ⟨_, _, element, isElement, fits⟩ :=
    (fitsTogether_of_book "T" "\t" distinct keyMem).1 _ built
  have keeps : (⟨"b", [], "\x7b return 1; \x7d"⟩ : Member) ∈ members ["de", "sv"] book := by
    decide +kernel
  exact ⟨distinct, keyMem, built, element, isElement, fits.refersTo_iff.mpr ⟨_, keeps, rfl⟩, fits⟩

end Phrasebook.Build
