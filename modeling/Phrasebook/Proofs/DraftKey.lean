import Phrasebook.Book.Update
import Phrasebook.Proofs.Identity
import Phrasebook.Proofs.Runs

/-!
# Drafts keep the key

A draft shows a phrase that takes several lines with another indentation in
front of each of its lines.  Neither normal form depends on the gaps that a line
starts with, so what stands between the marks of a draft has the normal form,
the signature and the key of the phrase.
-/

namespace Phrasebook.Phrase

/-! ## Lines -/

section Lines

variable {version : Version} {lines others : List (List Char)}

theorem linesOf_ne_nil (text : List Char) : linesOf text ≠ [] := by
  cases text with
  | nil => exact List.cons_ne_nil _ _
  | cons character text =>
      rw [linesOf]
      split
      · exact List.cons_ne_nil _ _
      · split <;> exact List.cons_ne_nil _ _

theorem intercalate_linesOf (text : List Char) : ['\n'].intercalate (linesOf text) = text := by
  induction text with
  | nil => rfl
  | cons character text ih =>
      obtain ⟨line, lines, areLines⟩ := List.exists_cons_of_ne_nil (linesOf_ne_nil text)
      rw [linesOf]
      rw [areLines] at ih ⊢
      split
      · rename_i isFeed
        rw [List.intercalate_cons_cons, ih, beq_iff_eq.mp isFeed]
        rfl
      · cases lines <;> simp_all

theorem length_linesOf (text : List Char) : (linesOf text).length = text.count '\n' + 1 := by
  induction text with
  | nil => rfl
  | cons character text ih =>
      obtain ⟨line, lines, areLines⟩ := List.exists_cons_of_ne_nil (linesOf_ne_nil text)
      rw [linesOf, List.count_cons]
      rw [areLines] at ih ⊢
      split <;> simp_all

/-- A text with a line feed has a first line and a last one. -/
theorem exists_first_last {text : List Char} (hasFeed : '\n' ∈ text) :
    ∃ first middle last, linesOf text = first :: (middle ++ [last]) := by
  obtain ⟨first, rest, areLines⟩ := List.exists_cons_of_ne_nil (linesOf_ne_nil text)
  obtain rfl | ⟨middle, last, rfl⟩ := List.eq_nil_or_concat rest
  · have isSingle := length_linesOf text
    rw [areLines, List.length_singleton] at isSingle
    have isThere := List.count_pos_iff.mpr hasFeed
    omega
  · exact ⟨first, middle, last, by rw [areLines, List.concat_eq_append]⟩

theorem normalizeFrom_lineStart {gaps : List Char}
    (areGaps : ∀ character ∈ gaps, isGap character = true) (isOwed : Bool) (text : List Char) :
    normalizeFrom version (.lineStart isOwed) (gaps ++ text) =
      normalizeFrom version (.lineStart isOwed) text := by
  induction gaps with
  | nil => rfl
  | cons character gaps ih =>
      obtain ⟨isBlank, others⟩ := List.forall_mem_cons.mp areGaps
      rw [List.cons_append, normalizeFrom, spacingOf_eq_gap isBlank, Stand.writes,
        List.nil_append, Stand.next, ih others]

theorem normalizeFrom_dropWhile (isOwed : Bool) (line text : List Char) :
    normalizeFrom version (.lineStart isOwed) (line.dropWhile isGap ++ text) =
      normalizeFrom version (.lineStart isOwed) (line ++ text) := by
  conv_rhs => rw [← List.takeWhile_append_dropWhile (p := isGap) (l := line), List.append_assoc]
  have areGaps := List.all_eq_true.mp (List.all_takeWhile (p := isGap) (l := line))
  exact (normalizeFrom_lineStart areGaps isOwed _).symm

theorem normalizeFrom_intercalate (lines : List (List Char)) (isOwed : Bool) :
    normalizeFrom version (.lineStart isOwed)
        (['\n'].intercalate (lines.map (·.dropWhile isGap))) =
      normalizeFrom version (.lineStart isOwed) (['\n'].intercalate lines) := by
  induction lines generalizing isOwed with
  | nil => rfl
  | cons line lines ih =>
      cases lines with
      | nil => simpa using normalizeFrom_dropWhile isOwed line []
      | cons next lines =>
          have isFresh (stand : Stand) : stand.after (line ++ ['\n']) = .lineStart true := by
            have behindFeed (stand : Stand) : stand.next .feed = .lineStart true := by
              cases stand <;> rfl
            rw [Stand.after, List.foldl_append]
            exact behindFeed _
          rw [List.map_cons, List.map_cons, List.intercalate_cons_cons,
            List.intercalate_cons_cons, List.append_assoc, normalizeFrom_dropWhile,
            ← List.append_assoc]
          refine normalizeFrom_append_congr _ ?_
          rw [isFresh]
          exact ih true

theorem normalize_intercalate_congr
    (same : lines.map (·.dropWhile isGap) = others.map (·.dropWhile isGap)) (version : Version) :
    version.normalize (['\n'].intercalate lines) =
      version.normalize (['\n'].intercalate others) := by
  rw [normalize_eq_normalizeFrom, normalize_eq_normalizeFrom, ← normalizeFrom_intercalate, same,
    normalizeFrom_intercalate]

theorem dropWhile_dropIndentation {indentation : List Char}
    (areGaps : ∀ character ∈ indentation, isGap character = true) (line : List Char) :
    (dropIndentation indentation line).dropWhile isGap = line.dropWhile isGap := by
  unfold dropIndentation
  split
  · rename_i isPrefix
    obtain ⟨rest, rfl⟩ := List.isPrefixOf_iff_prefix.mp isPrefix
    rw [List.drop_left, List.dropWhile_append_of_pos areGaps]
  · rfl

end Lines

end Phrasebook.Phrase

namespace Phrasebook.Book

open Phrase (Version dropIndentation isGap linesOf)

/-! ## What a draft shows -/

/-- A text stands between the first mark in another one and the last. -/
def IsMarked (marker : String) (content text : List Char) : Prop :=
  ∃ front back, '<' ∉ front ∧ '>' ∉ back ∧
    text = front ++ ['<'] ++ (marker.toList ++ '>' :: content ++ '<' :: '/' :: marker.toList ++
      ['>'] ++ back)

section Marked

variable {marker : String} {content other text : List Char}

theorem IsMarked.unique (isContent : IsMarked marker content text)
    (isOther : IsMarked marker other text) : content = other := by
  obtain ⟨front, back, noOpening, noClosing, rfl⟩ := isContent
  obtain ⟨_, _, noOtherOpening, noOtherClosing, same⟩ := isOther
  obtain ⟨_, sameRest⟩ := Phrase.append_cons_inj_of_fronts noOpening noOtherOpening same
  obtain ⟨sameFront, _⟩ := Phrase.append_cons_inj noClosing noOtherClosing sameRest
  simpa using sameFront

/-- Lines after the first one, each with a line feed in front, or each but the last with one
behind. -/
theorem intercalate_first_last (first last : List Char) (middle : List (List Char)) :
    ['\n'].intercalate (first :: (middle ++ [last])) =
      first ++ '\n' :: (middle.flatMap (· ++ ['\n']) ++ last) := by
  induction middle generalizing first with
  | nil => simp [List.intercalate_cons_cons]
  | cons line middle ih => simp [List.intercalate_cons_cons, ih]

/-- The lines of a draft stand between its marks, all but the first one indented. -/
theorem isMarked_blockBody {indent : String}
    (isBlank : ∀ character ∈ indent.toList, isGap character = true)
    (marker : String) (first last : List Char) (middle : List (List Char)) :
    ∃ outer : List Char, (∀ character ∈ outer, isGap character = true) ∧
      IsMarked marker (['\n'].intercalate (first :: (middle ++ [last]).map (outer ++ ·)))
        (blockBody indent marker ((first :: (middle ++ [last])).map String.ofList)).toList := by
  have noOpening : '<' ∉ indent.toList := fun isSign => absurd (isBlank _ isSign) (by decide)
  have noClosing : '>' ∉ indent.toList := fun isSign => absurd (isBlank _ isSign) (by decide)
  refine ⟨(indent ++ indent ++ indent ++ indent).toList, ?_,
    ('\x7b' :: '\n' :: (indent ++ indent ++ indent).toList ++ "return (\n".toList ++
      (indent ++ indent ++ indent ++ indent).toList),
    '\n' :: (indent ++ indent ++ indent).toList ++ ");\n".toList ++
      (indent ++ indent).toList ++ ['\x7d'], ?_, ?_, ?_⟩
  · simpa using isBlank
  · simp [noOpening]
  · simp [noClosing]
  · have areStrings : (first :: (middle ++ [last])).map String.ofList =
        String.ofList first :: (middle.map String.ofList ++ [String.ofList last]) := by
      rw [List.map_cons, List.map_append, List.map_singleton]
    have isLast : (String.ofList first :: (middle.map String.ofList ++
        [String.ofList last])).getLast? = some (String.ofList last) := by
      rw [← List.cons_append, List.getLast?_concat]
    have areOthers : (String.ofList first :: (middle.map String.ofList ++
        [String.ofList last])).dropLast = String.ofList first :: middle.map String.ofList := by
      rw [← List.cons_append, List.dropLast_concat]
    rw [areStrings, List.map_append, List.map_singleton, intercalate_first_last]
    unfold blockBody
    rw [isLast, areOthers]
    dsimp only [Option.getD_some, List.head?_cons, List.drop_succ_cons, List.drop_zero]
    generalize indent ++ indent ++ indent ++ indent = tab4
    generalize indent ++ indent ++ indent = tab3
    generalize indent ++ indent = tab2
    simp [List.flatMap_map]

end Marked

/-! ## Keys of drafts -/

/-- Between the marks of a text there is the phrase but for its layout, so its key can be told from
the text. -/
structure KeepsKey (version : Version) (marker : String) (phrase : Phrase)
    (content text : List Char) : Prop where
  isContent : ∀ other, IsMarked marker other text ↔ other = content
  normal : ∀ version : Version,
    version.normalize content = version.normalize phrase.body.toList
  signature : Phrase.signatureOf (String.ofList (version.normalize content)) phrase.context
    phrase.dependencies = phrase.signature
  key : Phrase.keyOf (Phrase.signatureOf (String.ofList (version.normalize content))
    phrase.context phrase.dependencies) = phrase.key

section Drafts

variable {options : UpdateOptions} {origin : Phrase.Origin} {tag : String} {number : Int}

theorem lines_of_phrase {version : Version} {element : Markup.Site} {phrase : Phrase}
    (made : origin.phrase tag version element = .ok phrase)
    (isMultiline : phrase.isMultiline = true) :
    phrase.lines = (linesOf phrase.body.toList).map fun line =>
      String.ofList (dropIndentation (element.lineStart.takeWhile isGap) line) := by
  obtain ⟨_, _, _, _, _, _, _, _, rfl⟩ := Phrase.Origin.phrase_eq_ok_iff.mp made
  exact if_pos isMultiline

/-- What stands between the marks of a draft has the normal forms of the phrase. -/
theorem exists_content (isBlank : ∀ character ∈ options.indent.toList, isGap character = true)
    (extracted : Phrase.Extracted)
    (hasFeed : extracted.phrase.isMultiline = true → '\n' ∈ extracted.phrase.body.toList)
    (language : String) :
    ∃ content, IsMarked options.marker content
        (draftRendering options extracted.phrase language).body.toList ∧
      ∀ version : Version,
        version.normalize content = version.normalize extracted.phrase.body.toList := by
  unfold draftRendering
  split
  · rename_i isMultiline
    obtain ⟨first, middle, last, areLines⟩ := Phrase.exists_first_last (hasFeed isMultiline)
    have areGaps : ∀ character ∈ extracted.element.lineStart.takeWhile isGap,
        isGap character = true := List.all_eq_true.mp List.all_takeWhile
    generalize isShorter :
      dropIndentation (extracted.element.lineStart.takeWhile isGap) = shorter
    have areShorter : extracted.phrase.lines =
        (shorter first :: (middle.map shorter ++ [shorter last])).map String.ofList := by
      rw [lines_of_phrase extracted.isMade isMultiline, isShorter, areLines]
      simp
    obtain ⟨outer, areOuter, isMarked⟩ := isMarked_blockBody isBlank options.marker
      (shorter first) (shorter last) (middle.map shorter)
    refine ⟨_, areShorter ▸ isMarked, fun version => ?_⟩
    rw [← Phrase.intercalate_linesOf extracted.phrase.body.toList, areLines]
    refine Phrase.normalize_intercalate_congr ?_ version
    simp [← isShorter, List.dropWhile_append_of_pos areOuter,
      Phrase.dropWhile_dropIndentation areGaps, Function.comp_def]
  · rename_i isSingle
    refine ⟨extracted.phrase.body.toList, ⟨[], [], List.not_mem_nil, List.not_mem_nil, ?_⟩,
      fun _ => rfl⟩
    simp

/-- A new entry has one rendering for each language, which keeps the key of the phrase, unless the
element takes several lines with none of its line feeds between the tags. -/
theorem keepsKey_newEntry
    (isBlank : ∀ character ∈ options.indent.toList, isGap character = true)
    {phrases : List Phrase} (done : origin.phrases tag number = .ok phrases)
    {phrase : Phrase} (phraseMem : phrase ∈ phrases)
    (hasFeed : phrase.isMultiline = true → '\n' ∈ phrase.body.toList) (places : List Place) :
    ∃ version, Version.ofNumber number = .ok version ∧
      List.Forall₂ (fun language rendering => rendering.language = language ∧ ∃ content,
          KeepsKey version options.marker phrase content rendering.body.toList)
        options.languages (newEntry options phrase places).renderings := by
  obtain ⟨extracted, _, _, isVersion, rfl⟩ := Phrase.exists_extracted done phraseMem
  refine ⟨extracted.version, isVersion,
    List.forall₂_map_right_iff.mpr (List.forall₂_same.mpr fun language _ => ⟨?_, ?_⟩)⟩
  · unfold draftRendering
    split <;> rfl
  obtain ⟨content, isContent, sameNormal⟩ := exists_content isBlank extracted hasFeed language
  have isSigned := extracted.isSigned
  have sameSignature : Phrase.signatureOf (String.ofList (extracted.version.normalize content))
      extracted.phrase.context extracted.phrase.dependencies = extracted.phrase.signature := by
    rw [sameNormal, isSigned.signature]
  exact ⟨content, {
    isContent other := ⟨fun isOther => isOther.unique isContent, fun same => same ▸ isContent⟩
    normal := sameNormal
    signature := sameSignature
    key := by rw [sameSignature, isSigned.key] }⟩

/-- Lines that are shorter than the indentation of the element, or indented by other gaps. -/
theorem keepsKey_newEntry_three_lines :
    let options : UpdateOptions := { languages := ["en", "sv"], indent := " \t" }
    let origin : Phrase.Origin :=
      ⟨"f", Text.Source.ofString "  <T>Hi\r\n\t you \n   all</T>"⟩
    let body := "\x7b\n \t \t \treturn (\n \t \t \t \t<O>Hi\r\n \t \t \t \t\t you \n" ++
      " \t \t \t \t all</O>\n \t \t \t);\n \t \t\x7d"
    ∃ phrases phrase, origin.phrases "T" 1 = .ok phrases ∧ phrase ∈ phrases ∧
      phrase.isMultiline = true ∧ phrase.body = "Hi\r\n\t you \n   all" ∧
      phrase.lines = ["Hi\r", "\t you ", " all"] ∧
      (newEntry options phrase []).renderings.map (fun rendering =>
        (rendering.language, rendering.body)) = [("en", body), ("sv", body)] ∧
      ∃ version, Version.ofNumber 1 = .ok version ∧
        List.Forall₂ (fun language rendering => rendering.language = language ∧ ∃ content,
            KeepsKey version options.marker phrase content rendering.body.toList)
          options.languages (newEntry options phrase []).renderings := by
  intro options origin body
  have run : (origin.phrases "T" 1).toOption.map (·.map fun phrase =>
        (phrase.isMultiline, phrase.body, phrase.lines)) =
      some [(true, "Hi\r\n\t you \n   all", ["Hi\r", "\t you ", " all"])] := by
    decide +kernel
  obtain ⟨phrases, isRead, isSingle⟩ := Option.map_eq_some_iff.mp run
  obtain ⟨phrase, rfl, isPhrase⟩ := List.map_eq_singleton_iff.mp isSingle
  simp only [Prod.mk.injEq] at isPhrase
  obtain ⟨isMultiline, isBody, areLines⟩ := isPhrase
  have areWritten : (newEntry options phrase []).renderings.map (fun rendering =>
      (rendering.language, rendering.body)) = [("en", body), ("sv", body)] := by
    have isBlock : blockBody " \t" "O" ["Hi\r", "\t you ", " all"] = body := by decide +kernel
    simp only [newEntry, options, List.map_cons, List.map_nil, draftRendering, isMultiline,
      areLines, if_true, isBlock]
  have done := toOption_eq_some_iff.mp isRead
  have isBlank : ∀ character ∈ options.indent.toList, isGap character = true :=
    List.all_eq_true.mp (by decide)
  have hasFeed : phrase.isMultiline = true → '\n' ∈ phrase.body.toList := by
    intro _
    rw [isBody]
    decide
  exact ⟨_, phrase, done, List.mem_singleton_self phrase, isMultiline, isBody, areLines,
    areWritten, keepsKey_newEntry isBlank done (List.mem_singleton_self phrase) hasFeed []⟩

end Drafts

end Phrasebook.Book
