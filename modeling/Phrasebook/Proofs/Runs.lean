import Phrasebook.Proofs.NormalForm
import Mathlib.Data.List.Chain

/-!
# Normal forms run by run

Either normal form replaces the runs of certain characters and keeps all other
characters in their order.  What stands in for a run follows from the run and
the two characters beside it, so neither form depends on how the space in a
text is written.
-/

namespace Phrasebook.Phrase

/-! ## Texts with their runs replaced -/

/-- The characters that end a line in every version. -/
def separatesLines (character : Char) : Bool :=
  character == '\u2028' || character == '\u2029'

namespace Version

/-- The characters whose runs a version replaces. -/
def isLoose : Version → Char → Bool
  | byLine, character => isGap character
  | joined, character => isGap character || character == '\r' || character == '\n'

/-- What a version puts in the place of a run, given the characters before and behind it.  At an end
of the text there is no such character. -/
def standIn : Version → Option Char → List Char → Option Char → List Char
  | byLine, before?, _, after? =>
    if before?.all endsLine || after?.all endsLine then [] else [' ']
  | joined, before?, run, after? =>
    if run.contains '\n' then [' ']
    else if run.all (· == '\r') || before?.all separatesLines || after?.all separatesLines then []
    else [' ']

/-- What a version makes of the loose characters between two others, of which there may be none. -/
def between (version : Version) (before? : Option Char) (run : List Char) (after? : Option Char) :
    List Char :=
  if run.isEmpty then [] else version.standIn before? run after?

/-- A text with its runs replaced, behind the loose characters that have come since the last other
character. -/
def replaceRunsFrom (version : Version) (before? : Option Char) (run : List Char) :
    List Char → List Char
  | [] => version.between before? run none
  | character :: text =>
    if version.isLoose character then
      version.replaceRunsFrom before? (run ++ [character]) text
    else
      version.between before? run (some character) ++
        character :: version.replaceRunsFrom (some character) [] text

/-- A text with every maximal run of loose characters replaced. -/
def replaceRuns (version : Version) (text : List Char) : List Char :=
  version.replaceRunsFrom none [] text

end Version

/-! ## Runs in one pass -/

section Pass

variable {version : Version} {character : Char} {before? : Option Char} {run text : List Char}

theorem separatesLines_eq :
    separatesLines character = decide (spacingOf character = .separator) := by
  by_cases isSeparator : separatesLines character = true
  · have isEither : character = '\u2028' ∨ character = '\u2029' := by
      simpa [separatesLines] using isSeparator
    rcases isEither with rfl | rfl <;> rfl
  · have neither : character ≠ '\u2028' ∧ character ≠ '\u2029' := by
      simpa [separatesLines] using isSeparator
    unfold spacingOf
    split_ifs <;> simp_all [endsLine]

/-- What a text changes about where one has come to. -/
def Stand.after (stand : Stand) (text : List Char) : Stand :=
  text.foldl (fun stand character => stand.next (spacingOf character)) stand

/-- Where one has come to behind a character that is not loose, or at the start of a text. -/
def Stand.behind (before? : Option Char) : Stand :=
  if before?.all endsLine then lineStart false else behindWord false false

theorem spacingOf_eq_gap (isBlank : isGap character = true) : spacingOf character = .gap := by
  simpa [isGap_eq] using isBlank

theorem loose_cases (isLoose : Version.joined.isLoose character = true) :
    (isGap character = true ∧ character ≠ '\r' ∧ character ≠ '\n') ∨ character = '\r' ∨
      character = '\n' := by
  simp only [Version.isLoose, Bool.or_eq_true, beq_iff_eq, or_assoc] at isLoose
  refine isLoose.imp_left fun isBlank => ⟨isBlank, ?_, ?_⟩
  · rintro rfl
    contradiction
  · rintro rfl
    contradiction

/-- At the start of a line a run counts by whether it holds a line feed. -/
theorem Stand.after_lineStart
    (areLoose : ∀ character ∈ run, Version.joined.isLoose character = true) (isOwed : Bool) :
    (lineStart isOwed).after run = lineStart (isOwed || run.contains '\n') := by
  induction run generalizing isOwed with
  | nil => simp [after]
  | cons character run ih =>
      obtain ⟨isLoose, others⟩ := List.forall_mem_cons.mp areLoose
      rw [after, List.foldl_cons, ← after]
      rcases loose_cases isLoose with ⟨isBlank, _, notFeed⟩ | rfl | rfl
      · rw [spacingOf_eq_gap isBlank, next, ih others]
        simp [notFeed.symm]
      · exact (ih others isOwed).trans (by simp)
      · exact (ih others true).trans (by simp)

/-- Behind a word a run counts by whether it holds a line feed, a carriage return and a gap. -/
theorem Stand.after_behindWord
    (areLoose : ∀ character ∈ run, Version.joined.isLoose character = true)
    (hasReturn hasGap : Bool) :
    (behindWord hasReturn hasGap).after run =
      if run.contains '\n' then lineStart true
      else behindWord (hasReturn || run.contains '\r') (hasGap || run.any isGap) := by
  induction run generalizing hasReturn hasGap with
  | nil => simp [after]
  | cons character run ih =>
      obtain ⟨isLoose, others⟩ := List.forall_mem_cons.mp areLoose
      rw [after, List.foldl_cons, ← after]
      rcases loose_cases isLoose with ⟨isBlank, notReturn, notFeed⟩ | rfl | rfl
      · rw [spacingOf_eq_gap isBlank, next, ih others]
        simp [notReturn.symm, notFeed.symm, isBlank]
      · exact (ih others true hasGap).trans (by simp [isGap])
      · exact (after_lineStart others true).trans (by simp)

/-- Gaps are loose in both versions. -/
theorem isLoose_joined (isLoose : version.isLoose character = true) :
    Version.joined.isLoose character = true := by
  cases version with
  | byLine => simp [Version.isLoose, show isGap character = true from isLoose]
  | joined => exact isLoose

/-- In lines that stay apart it does not matter how one has come to the start of a line. -/
theorem normalizeFrom_of_startsLine {stand : Stand} (starts : stand.startsLine .byLine = true)
    (text : List Char) :
    normalizeFrom .byLine stand text = normalizeFrom .byLine (.lineStart false) text := by
  rw [← collapseGaps_left, left_byLine starts, collapseGaps_left]

/-- Nothing before a character that is not loose matters behind it. -/
theorem normalizeFrom_next (notLoose : version.isLoose character = false) (stand : Stand) :
    normalizeFrom version (stand.next (spacingOf character)) text =
      normalizeFrom version (.behind (some character)) text := by
  rw [Stand.behind, Option.all_some, endsLine_eq]
  cases isSpacing : spacingOf character with
  | gap =>
      have isBlank : isGap character = true := by simp [isGap_eq, isSpacing]
      cases version <;> simp [Version.isLoose, isBlank] at notLoose
  | carriage =>
      cases version with
      | byLine => exact normalizeFrom_of_startsLine (by cases stand <;> rfl) text
      | joined => simp [Version.isLoose, spacingOf_eq_carriage_iff.mp isSpacing] at notLoose
  | feed =>
      cases version with
      | byLine => exact normalizeFrom_of_startsLine (by cases stand <;> rfl) text
      | joined => simp [Version.isLoose, spacingOf_eq_feed_iff.mp isSpacing] at notLoose
  | separator => cases stand <;> rfl
  | word => cases stand <;> rfl

/-- Of characters that are not loose when lines are joined, the same ones end a line. -/
theorem endsLine_eq_separatesLines (notLoose : Version.joined.isLoose character = false) :
    endsLine character = separatesLines character := by
  simp only [Version.isLoose, Bool.or_eq_false_iff] at notLoose
  rw [endsLine, notLoose.1.2, notLoose.2]
  rfl

section After

variable (before? : Option Char) {run : List Char}

theorem owed_byLine (stand : Stand) : stand.owed .byLine = [] := by
  cases stand <;> rfl

theorem gap_after_byLine (areGaps : ∀ character ∈ run, isGap character = true) :
    ((Stand.behind before?).after run).gap .byLine =
      if run.isEmpty || before?.all endsLine then [] else [' '] := by
  have areLoose (character : Char) (isThere : character ∈ run) :
      Version.joined.isLoose character = true :=
    isLoose_joined (show Version.byLine.isLoose character = true from areGaps character isThere)
  have noReturn : '\r' ∉ run := fun isThere => absurd (areGaps _ isThere) (by decide)
  have noFeed : '\n' ∉ run := fun isThere => absurd (areGaps _ isThere) (by decide)
  have hasGap : run.any isGap = !run.isEmpty := by
    cases run with
    | nil => rfl
    | cons first run => simp [areGaps first List.mem_cons_self]
  rw [Stand.behind]
  split
  · rename_i atStart
    rw [Stand.after_lineStart areLoose, atStart, Bool.or_true]
    rfl
  · rename_i inLine
    rw [Stand.after_behindWord areLoose, hasGap]
    cases run.isEmpty <;> simp [noReturn, noFeed, inLine]

theorem owed_after_joined
    (areLoose : ∀ character ∈ run, Version.joined.isLoose character = true) :
    ((Stand.behind before?).after run).owed .joined =
      if run.contains '\n' then [' '] else [] := by
  rw [Stand.behind]
  split
  · rw [Stand.after_lineStart areLoose]
    rfl
  · rw [Stand.after_behindWord areLoose]
    split <;> rfl

theorem gap_after_joined
    (areLoose : ∀ character ∈ run, Version.joined.isLoose character = true) :
    ((Stand.behind before?).after run).gap .joined =
      if run.contains '\n' || before?.all endsLine || !run.any isGap then [] else [' '] := by
  rw [Stand.behind]
  split
  · rename_i atStart
    rw [Stand.after_lineStart areLoose, atStart, Bool.or_true, Bool.true_or]
    rfl
  · rename_i inLine
    rw [Stand.after_behindWord areLoose, (Bool.not_eq_true _).mp inLine, Bool.or_false,
      Bool.false_or]
    cases run.contains '\n' <;> cases run.any isGap <;> rfl

end After

/-- A run that holds neither a line feed nor a gap consists of carriage returns. -/
theorem all_return (areLoose : ∀ character ∈ run, Version.joined.isLoose character = true)
    (noFeed : '\n' ∉ run) : run.all (· == '\r') = !run.any isGap := by
  rw [List.not_any_eq_all_not, Bool.eq_iff_iff, List.all_eq_true, List.all_eq_true]
  refine forall₂_congr fun character isThere => ?_
  rcases loose_cases (areLoose character isThere) with ⟨isBlank, notReturn, _⟩ | rfl | rfl
  · simp [isBlank, notReturn]
  · decide
  · exact absurd isThere noFeed

/-- What stands in for a run at the end of a text is what is owed there. -/
theorem between_none (areLoose : ∀ character ∈ run, version.isLoose character = true) :
    version.between before? run none = ((Stand.behind before?).after run).owed version := by
  cases version with
  | byLine => simp [Version.between, Version.standIn]
  | joined =>
      rw [owed_after_joined before? areLoose]
      cases run <;> simp [Version.between, Version.standIn]

theorem writes_byLine (stand : Stand) (notGap : isGap character = false) :
    stand.writes .byLine character (spacingOf character) =
      (if endsLine character then [] else stand.gap .byLine) ++ [character] := by
  rw [isGap_eq] at notGap
  rw [endsLine_eq]
  cases isSpacing : spacingOf character with
  | gap => simp [isSpacing] at notGap
  | carriage | feed | separator | word => simp

theorem writes_joined (stand : Stand) (notLoose : Version.joined.isLoose character = false) :
    stand.writes .joined character (spacingOf character) =
      stand.owed .joined ++ (if separatesLines character then [] else stand.gap .joined) ++
        [character] := by
  rw [separatesLines_eq]
  cases isSpacing : spacingOf character with
  | gap => simp [Version.isLoose, isGap_eq, isSpacing] at notLoose
  | carriage => simp [Version.isLoose, spacingOf_eq_carriage_iff.mp isSpacing] at notLoose
  | feed => simp [Version.isLoose, spacingOf_eq_feed_iff.mp isSpacing] at notLoose
  | separator | word => simp

/-- What stands in for a run in front of another character is written before this character. -/
theorem between_some (outside : before?.all (!version.isLoose ·) = true)
    (areLoose : ∀ character ∈ run, version.isLoose character = true)
    (notLoose : version.isLoose character = false) :
    version.between before? run (some character) ++ [character] =
      ((Stand.behind before?).after run).writes version character (spacingOf character) := by
  cases version with
  | byLine =>
      rw [writes_byLine _ notLoose, gap_after_byLine before? areLoose, Version.between,
        Version.standIn, Option.all_some]
      cases run.isEmpty <;> cases before?.all endsLine <;> cases endsLine character <;> rfl
  | joined =>
      have atEdge : before?.all endsLine = before?.all separatesLines := by
        cases before? with
        | none => rfl
        | some before => exact endsLine_eq_separatesLines (by simpa using outside)
      rw [writes_joined _ notLoose, owed_after_joined before? areLoose,
        gap_after_joined before? areLoose, atEdge, Version.between, Version.standIn,
        Option.all_some]
      by_cases hasFeed : '\n' ∈ run
      · have notEmpty : run.isEmpty = false := by simpa using List.ne_nil_of_mem hasFeed
        simp [hasFeed, notEmpty]
      · rw [all_return areLoose hasFeed, show run.contains '\n' = false by simpa using hasFeed]
        cases run with
        | nil => simp
        | cons first run =>
            rw [List.isEmpty_cons]
            cases (first :: run).any isGap <;> cases before?.all separatesLines <;>
              cases separatesLines character <;> rfl

theorem writes_of_isLoose (isLoose : version.isLoose character = true) (stand : Stand) :
    stand.writes version character (spacingOf character) = [] := by
  cases version with
  | byLine => rw [spacingOf_eq_gap isLoose, Stand.writes]
  | joined =>
      rcases loose_cases isLoose with ⟨isBlank, _⟩ | rfl | rfl
      · rw [spacingOf_eq_gap isBlank, Stand.writes]
      · rfl
      · rfl

theorem normalizeFrom_after (outside : before?.all (!version.isLoose ·) = true)
    (areLoose : ∀ character ∈ run, version.isLoose character = true) :
    normalizeFrom version ((Stand.behind before?).after run) text =
      version.replaceRunsFrom before? run text := by
  -- the run grows with the text until a character comes that is not loose
  induction text generalizing before? run with
  | nil => rw [normalizeFrom, Version.replaceRunsFrom, between_none areLoose]
  | cons character text ih =>
      rw [normalizeFrom, Version.replaceRunsFrom]
      cases isLoose : version.isLoose character with
      | true =>
          have longer : ∀ other ∈ run ++ [character], version.isLoose other = true :=
            List.forall_mem_append.mpr ⟨areLoose, List.forall_mem_singleton.mpr isLoose⟩
          rw [if_pos rfl, ← ih outside longer, writes_of_isLoose isLoose, Stand.after, Stand.after,
            List.foldl_append]
          rfl
      | false =>
          have isOther : (some character).all (!version.isLoose ·) = true := by simp [isLoose]
          rw [if_neg Bool.false_ne_true, ← between_some outside areLoose isLoose,
            normalizeFrom_next isLoose, List.append_assoc,
            ← ih isOther (List.forall_mem_nil _)]
          rfl

theorem normalize_eq_replaceRuns (version : Version) (text : List Char) :
    version.normalize text = version.replaceRuns text := by
  rw [normalize_eq_normalizeFrom, Version.replaceRuns,
    ← normalizeFrom_after rfl (List.forall_mem_nil _)]
  rfl

end Pass

/-! ## Lines that stay apart -/

/-- Whether gaps beside a character, or at an end of the text, say nothing. -/
def absorbsGaps (beside? : Option Char) : Bool :=
  beside?.all fun character => isGap character || endsLine character

section ByLine

variable {stand : Stand} {front gaps back : List Char}

/-- A normal form is one already. -/
theorem normalizeFrom_seen (stand : Stand) (text : List Char) :
    normalizeFrom .byLine stand.seen (normalizeFrom .byLine stand text) =
      normalizeFrom .byLine stand text := by
  induction text generalizing stand with
  | nil => cases stand <;> rfl
  | cons character text ih =>
      have rest := ih (stand.next (spacingOf character))
      rw [normalizeFrom]
      cases isSpacing : spacingOf character with
      | gap | carriage | feed | separator =>
          rw [isSpacing] at rest
          cases stand <;> simpa [normalizeFrom, isSpacing] using rest
      | word =>
          rw [isSpacing] at rest
          cases stand with
          | lineStart isOwed => simpa [normalizeFrom, isSpacing] using rest
          | behindWord hasReturn hasGap =>
              cases hasReturn <;> cases hasGap <;> simpa [normalizeFrom, isSpacing] using rest

theorem normalizeFrom_append_congr {version : Version} (front : List Char) {stand : Stand}
    {left right : List Char}
    (same : normalizeFrom version (stand.after front) left =
      normalizeFrom version (stand.after front) right) :
    normalizeFrom version stand (front ++ left) = normalizeFrom version stand (front ++ right) := by
  induction front generalizing stand with
  | nil => exact same
  | cons character front ih =>
      rw [List.cons_append, List.cons_append, normalizeFrom, normalizeFrom, ih same]

@[simp]
theorem Stand.next_gap_gap (stand : Stand) : (stand.next .gap).next .gap = stand.next .gap := by
  cases stand <;> rfl

/-- A line starts behind the end of one, wherever one has come from. -/
theorem Stand.startsLine_next {character : Char} (isEnd : endsLine character = true)
    (stand : Stand) : (stand.next (spacingOf character)).startsLine .byLine = true := by
  rw [endsLine_eq] at isEnd
  cases isSpacing : spacingOf character with
  | gap | word => simp [isSpacing] at isEnd
  | carriage | feed | separator => cases stand <;> rfl

theorem Stand.startsLine_gap {stand : Stand} (starts : stand.startsLine .byLine = true) :
    (stand.next .gap).startsLine .byLine = true := by
  cases stand with
  | lineStart isOwed => rfl
  | behindWord hasReturn hasGap => exact starts

/-- Behind a gap or at the start of a line one more gap says nothing. -/
theorem normalizeFrom_gap_of_front (absorbs : absorbsGaps front.getLast? = true) :
    normalizeFrom .byLine (((Stand.lineStart false).after front).next .gap) back =
      normalizeFrom .byLine ((Stand.lineStart false).after front) back := by
  rcases List.eq_nil_or_concat front with rfl | ⟨init, last, rfl⟩
  · rfl
  · rw [List.concat_eq_append, Stand.after, List.foldl_append, List.foldl_cons, List.foldl_nil]
    rw [List.concat_eq_append, absorbsGaps, List.getLast?_concat, Option.all_some,
      Bool.or_eq_true] at absorbs
    rcases absorbs with isBlank | isEnd
    · rw [spacingOf_eq_gap isBlank, Stand.next_gap_gap]
    · have starts := Stand.startsLine_next isEnd ((Stand.lineStart false).after init)
      rw [Stand.after] at starts
      rw [normalizeFrom_of_startsLine (Stand.startsLine_gap starts),
        normalizeFrom_of_startsLine starts]

/-- In front of a gap or of the end of a line one more gap says nothing. -/
theorem normalizeFrom_gap_of_back (absorbs : absorbsGaps back.head? = true) (stand : Stand) :
    normalizeFrom .byLine (stand.next .gap) back = normalizeFrom .byLine stand back := by
  cases back with
  | nil => rw [normalizeFrom, normalizeFrom, owed_byLine, owed_byLine]
  | cons character back =>
      rw [normalizeFrom, normalizeFrom]
      rcases Bool.or_eq_true_iff.mp absorbs with isBlank | isEnd
      · rw [spacingOf_eq_gap isBlank, Stand.next_gap_gap, Stand.writes, Stand.writes]
      · have notGap : isGap character = false := by
          cases isBlank : isGap character with
          | false => rfl
          | true => rw [endsLine_eq_false_of_isGap isBlank] at isEnd; contradiction
        rw [writes_byLine _ notGap, writes_byLine _ notGap, isEnd,
          normalizeFrom_of_startsLine (Stand.startsLine_next isEnd _),
          normalizeFrom_of_startsLine (Stand.startsLine_next isEnd stand)]
        rfl

theorem normalizeFrom_gaps (areGaps : ∀ character ∈ gaps, isGap character = true)
    (same : normalizeFrom .byLine (stand.next .gap) back = normalizeFrom .byLine stand back) :
    normalizeFrom .byLine stand (gaps ++ back) = normalizeFrom .byLine stand back := by
  induction gaps generalizing stand with
  | nil => rfl
  | cons character gaps ih =>
      obtain ⟨isBlank, others⟩ := List.forall_mem_cons.mp areGaps
      rw [List.cons_append, normalizeFrom, spacingOf_eq_gap isBlank, Stand.writes, List.nil_append,
        ih others (by rw [Stand.next_gap_gap]), same]

/-- The first normal form drops the gaps at the ends of lines and makes a space of every other one,
so it is its own normal form and does not tell how gaps are written. -/
theorem replaceRuns_byLine (text : List Char) :
    Version.byLine.normalize text = Version.byLine.replaceRuns text ∧
      Version.byLine.normalize (Version.byLine.normalize text) = Version.byLine.normalize text ∧
      ∀ front gaps back : List Char, (∀ character ∈ gaps, isGap character = true) →
        (absorbsGaps front.getLast? || absorbsGaps back.head?) = true →
        Version.byLine.normalize (front ++ gaps ++ back) =
          Version.byLine.normalize (front ++ back) := by
  refine ⟨normalize_eq_replaceRuns .byLine text, ?_, ?_⟩
  · rw [normalize_eq_normalizeFrom, normalize_eq_normalizeFrom]
    exact normalizeFrom_seen (.lineStart false) text
  · intro front gaps back areGaps absorbs
    rw [normalize_eq_normalizeFrom, normalize_eq_normalizeFrom, List.append_assoc]
    refine normalizeFrom_append_congr front (normalizeFrom_gaps areGaps ?_)
    rcases Bool.or_eq_true_iff.mp absorbs with inFront | behind
    · exact normalizeFrom_gap_of_front inFront
    · exact normalizeFrom_gap_of_back behind _

/-- Two gaps in front of a line feed, where the text has none. -/
theorem replaceRuns_byLine_trailing :
    let front := " a\t b".toList
    let gaps := " \t".toList
    let back := "\n\tc ".toList
    (∀ character ∈ gaps, isGap character = true) ∧
      (absorbsGaps front.getLast? || absorbsGaps back.head?) = true ∧
      Version.byLine.normalize (front ++ gaps ++ back) =
        Version.byLine.normalize (front ++ back) ∧
      Version.byLine.normalize (front ++ back) = "a b\nc".toList := by
  intro front gaps back
  have areGaps : ∀ character ∈ gaps, isGap character = true :=
    List.all_eq_true.mp (show gaps.all isGap = true by decide)
  have absorbs : (absorbsGaps front.getLast? || absorbsGaps back.head?) = true := by decide
  exact ⟨areGaps, absorbs, (replaceRuns_byLine []).2.2 front gaps back areGaps absorbs,
    by decide⟩

end ByLine

/-! ## Lines that are joined -/

section Joined

variable {version : Version} {character : Char} {before? : Option Char} {run text : List Char}

theorem between_cases (version : Version) (before? : Option Char) (run : List Char)
    (after? : Option Char) :
    version.between before? run after? = [] ∨ version.between before? run after? = [' '] := by
  rw [Version.between]
  split
  · exact .inl rfl
  · cases version <;> rw [Version.standIn] <;> split_ifs <;> simp

/-- What a normal form consists of. -/
theorem mem_replaceRunsFrom (isThere : character ∈ version.replaceRunsFrom before? run text) :
    character = ' ' ∨ character ∈ text ∧ version.isLoose character = false := by
  have space {before? : Option Char} {run : List Char} {after? : Option Char}
      (isStandIn : character ∈ version.between before? run after?) : character = ' ' := by
    rcases between_cases version before? run after? with nothing | isSpace
    · rw [nothing] at isStandIn
      cases isStandIn
    · rw [isSpace] at isStandIn
      exact List.mem_singleton.mp isStandIn
  induction text generalizing before? run with
  | nil => exact .inl (space isThere)
  | cons first text ih =>
      rw [Version.replaceRunsFrom] at isThere
      split at isThere
      · exact (ih isThere).imp_right (.imp_left (List.mem_cons_of_mem first))
      · rename_i notLoose
        rcases List.mem_append.mp isThere with isStandIn | isHere
        · exact .inl (space isStandIn)
        · rcases List.mem_cons.mp isHere with rfl | isLater
          · exact .inr ⟨List.mem_cons_self, by simpa using notLoose⟩
          · exact (ih isLater).imp_right (.imp_left (List.mem_cons_of_mem first))

/-- Of two neighbours in a normal form one is no space. -/
theorem isChain_replaceRunsFrom (version : Version) (before? : Option Char) (run text : List Char) :
    (version.replaceRunsFrom before? run text).IsChain fun left right =>
      left ≠ ' ' ∨ right ≠ ' ' := by
  induction text generalizing before? run with
  | nil =>
      rw [Version.replaceRunsFrom]
      rcases between_cases version before? run none with nothing | isSpace
      · rw [nothing]
        exact .nil
      · rw [isSpace]
        exact .singleton ' '
  | cons first text ih =>
      rw [Version.replaceRunsFrom]
      split
      · exact ih before? _
      · rename_i notLoose
        have notSpace : first ≠ ' ' := by
          rintro rfl
          cases version <;> exact notLoose rfl
        have behind := List.isChain_cons.mpr
          ⟨fun next _ => (Or.inl notSpace : first ≠ ' ' ∨ next ≠ ' '), ih (some first) []⟩
        rcases between_cases version before? run (some first) with nothing | isSpace
        · rw [nothing]
          exact behind
        · rw [isSpace]
          exact List.isChain_cons_cons.mpr ⟨.inr notSpace, behind⟩

/-- The second normal form makes a space of the runs that hold a line feed and of those that hold a
gap within a line, and drops the others. -/
theorem replaceRuns_joined (text : List Char) :
    Version.joined.normalize text = Version.joined.replaceRuns text ∧
      '\t' ∉ Version.joined.normalize text ∧ '\r' ∉ Version.joined.normalize text ∧
      '\n' ∉ Version.joined.normalize text ∧
      ¬ [' ', ' '] <:+: Version.joined.normalize text := by
  have absent (character : Char) (isLoose : Version.joined.isLoose character = true)
      (notSpace : character ≠ ' ') : character ∉ Version.joined.replaceRuns text := fun isThere =>
    (mem_replaceRunsFrom isThere).elim notSpace fun ⟨_, notLoose⟩ => by simp [isLoose] at notLoose
  rw [normalize_eq_replaceRuns]
  refine ⟨rfl, absent _ rfl (by decide), absent _ rfl (by decide), absent _ rfl (by decide), ?_⟩
  rintro ⟨front, back, adjacent⟩
  have apart := isChain_replaceRunsFrom .joined none [] text
  rw [← Version.replaceRuns, ← adjacent] at apart
  simpa using apart.left_of_append.right_of_append

/-- A run of each sort: at the start, with carriage returns alone, with a gap as well, with a line
feed, and beside another end of a line. -/
example :
    Version.joined.replaceRuns "\t\ra\rb\r c \r\n d \u2028\te".toList =
      "ab c d\u2028e".toList := by
  decide

end Joined

end Phrasebook.Phrase
