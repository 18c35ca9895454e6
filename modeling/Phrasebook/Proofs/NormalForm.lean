import Phrasebook.Phrase.Normal
import Mathlib.Tactic.SplitIfs
import Mathlib.Order.Basic

/-!
# What the two normal forms tell apart

A text can be brought to either normal form in one pass that remembers what has
come since the last word.  The pass shows how the forms are related: lines that
are apart determine those that are joined, except where a carriage return stands
within a line.  There the first form keeps the carriage return and drops the gap
beside it, and the second form does the opposite.
-/

namespace Phrasebook.Phrase

/-! ## One pass -/

/-- What a character does to the space in a text. -/
inductive Spacing where
  | gap
  /-- A carriage return, which ends a line unless it is dropped. -/
  | carriage
  /-- A line feed, which ends a line even if it counts as a gap afterwards. -/
  | feed
  /-- One of the other characters that end a line. -/
  | separator
  | word
deriving DecidableEq, Repr

def spacingOf (character : Char) : Spacing :=
  if isGap character then .gap
  else if character = '\r' then .carriage
  else if character = '\n' then .feed
  else if endsLine character then .separator
  else .word

section Spacing

variable {character : Char}

theorem isGap_eq : isGap character = decide (spacingOf character = .gap) := by
  unfold spacingOf
  split_ifs <;> simp_all

theorem isGap_eq_false (notGap : spacingOf character ≠ .gap) : isGap character = false := by
  rw [isGap_eq]
  exact decide_eq_false notGap

theorem endsLine_eq_false_of_isGap (isBlank : isGap character = true) :
    endsLine character = false := by
  have isEither : character = ' ' ∨ character = '\t' := by simpa [isGap] using isBlank
  rcases isEither with rfl | rfl <;> rfl

theorem spacingOf_eq_carriage_iff : spacingOf character = .carriage ↔ character = '\r' := by
  constructor
  · unfold spacingOf
    split_ifs <;> simp_all
  · rintro rfl
    rfl

theorem spacingOf_eq_feed_iff : spacingOf character = .feed ↔ character = '\n' := by
  constructor
  · unfold spacingOf
    split_ifs <;> simp_all
  · rintro rfl
    rfl

theorem endsLine_eq :
    endsLine character =
      decide (spacingOf character ≠ .gap ∧ spacingOf character ≠ .word) := by
  by_cases isBlank : isGap character = true
  · rw [endsLine_eq_false_of_isGap isBlank]
    simp [spacingOf, isBlank]
  · by_cases isReturn : character = '\r'
    · subst isReturn
      rfl
    · by_cases isFeed : character = '\n'
      · subst isFeed
        rfl
      · unfold spacingOf
        split_ifs <;> simp_all

end Spacing

/-- Where a text has come to. -/
inductive Stand where
  /-- No word has come in this line; the flag says whether a line feed has come since the last
  character that shows. -/
  | lineStart (isOwed : Bool)
  /-- A word has come in this line, and since then carriage returns and gaps or none. -/
  | behindWord (hasReturn hasGap : Bool)
deriving DecidableEq, Repr

namespace Stand

@[simp]
def next : Stand → Spacing → Stand
  | lineStart isOwed, .gap => lineStart isOwed
  | lineStart isOwed, .carriage => lineStart isOwed
  | behindWord hasReturn _, .gap => behindWord hasReturn true
  | behindWord _ hasGap, .carriage => behindWord true hasGap
  | _, .feed => lineStart true
  | _, .separator => lineStart false
  | _, .word => behindWord false false

/-- Whether a version begins a line here. -/
def startsLine : Version → Stand → Bool
  | _, lineStart _ => true
  | .byLine, behindWord hasReturn _ => hasReturn
  | .joined, behindWord _ _ => false

/-- The gap that a version keeps in front of a word. -/
@[simp]
def gap : Version → Stand → List Char
  | _, lineStart _ => []
  | .byLine, behindWord hasReturn hasGap => if !hasReturn && hasGap then [' '] else []
  | .joined, behindWord _ hasGap => if hasGap then [' '] else []

/-- The gap that a version keeps for line feeds. -/
@[simp]
def owed : Version → Stand → List Char
  | .joined, lineStart isOwed => if isOwed then [' '] else []
  | _, _ => []

theorem gap_cases (version : Version) (stand : Stand) :
    stand.gap version = [] ∨ stand.gap version = [' '] := by
  unfold gap
  split
  · exact .inl rfl
  · exact (ite_eq_or_eq ..).symm
  · exact (ite_eq_or_eq ..).symm

theorem owed_cases (version : Version) (stand : Stand) :
    stand.owed version = [] ∨ stand.owed version = [' '] := by
  unfold owed
  split
  · exact (ite_eq_or_eq ..).symm
  · exact .inl rfl

/-- There is at most one gap in front of a word. -/
theorem owed_append_gap_cases (version : Version) (stand : Stand) :
    stand.owed version ++ stand.gap version = [] ∨
      stand.owed version ++ stand.gap version = [' '] := by
  cases stand with
  | lineStart isOwed =>
      have noGap : (lineStart isOwed).gap version = [] := by cases version <;> rfl
      rw [noGap, List.append_nil]
      exact owed_cases version _
  | behindWord hasReturn hasGap =>
      have noneOwed : (behindWord hasReturn hasGap).owed version = [] := by cases version <;> rfl
      rw [noneOwed, List.nil_append]
      exact gap_cases version _

/-- What a version writes when it comes to a character. -/
@[simp]
def writes (version : Version) (stand : Stand) (character : Char) : Spacing → List Char
  | .gap => []
  | .word => stand.owed version ++ stand.gap version ++ [character]
  | .separator => stand.owed version ++ [character]
  | .carriage | .feed =>
    match version with
    | .byLine => [character]
    | .joined => []

end Stand

/-- The normal form of a text, from where it has come to. -/
def normalizeFrom (version : Version) : Stand → List Char → List Char
  | stand, [] => stand.owed version
  | stand, character :: text =>
    stand.writes version character (spacingOf character) ++
      normalizeFrom version (stand.next (spacingOf character)) text

/-! ## Trimmed lines -/

section Trim

/-- Whether a line starts behind a text. -/
def startsAfter (atStart : Bool) (text : List Char) : Bool :=
  text.foldl (fun atStart character => atStart && isGap character || endsLine character) atStart

theorem dropIndent_append (atStart : Bool) (text others : List Char) :
    dropIndent atStart (text ++ others) =
      dropIndent atStart text ++ dropIndent (startsAfter atStart text) others := by
  induction text generalizing atStart with
  | nil => rfl
  | cons character text ih =>
      rw [List.cons_append, dropIndent, dropIndent, startsAfter, List.foldl_cons]
      by_cases isDropped : (atStart && isGap character) = true
      · rw [if_pos isDropped, if_pos isDropped, isDropped, Bool.true_or, ih]
        rfl
      · rw [if_neg isDropped, if_neg isDropped, (Bool.not_eq_true _).mp isDropped,
          Bool.false_or, ih]
        rfl

/-- Drop the gaps at the end of every line. -/
def trimEnds (text : List Char) : List Char :=
  (dropIndent true text.reverse).reverse

/-- Whether nothing but a gap comes before the end of the line. -/
def leavesLine (text : List Char) : Bool :=
  startsAfter true text.reverse

variable {character : Char} {text : List Char}

theorem leavesLine_cons :
    leavesLine (character :: text) =
      (leavesLine text && isGap character || endsLine character) := by
  rw [leavesLine, List.reverse_cons, startsAfter, List.foldl_append]
  rfl

theorem trimEnds_cons :
    trimEnds (character :: text) =
      if leavesLine text && isGap character then trimEnds text
      else character :: trimEnds text := by
  rw [trimEnds, List.reverse_cons, dropIndent_append, List.reverse_append]
  change (dropIndent (leavesLine text) [character]).reverse ++ trimEnds text = _
  rw [dropIndent]
  split <;> rfl

/-- A gap is dropped in front of the end of a line. -/
theorem trimEnds_end (version : Version) (stand : Stand) (isEnd : endsLine character = true)
    (notGap : isGap character = false) :
    trimEnds (stand.gap version ++ character :: text) = character :: trimEnds text := by
  have alone : trimEnds (character :: text) = character :: trimEnds text := by
    simp [trimEnds_cons, notGap]
  have behindGap : trimEnds (' ' :: character :: text) = character :: trimEnds text := by
    rw [trimEnds_cons, leavesLine_cons, isEnd, Bool.or_true, alone]
    rfl
  rcases stand.gap_cases version with noGap | isGap
  · rw [noGap]
    exact alone
  · rw [isGap]
    exact behindGap

/-- A gap is kept in front of a word. -/
theorem trimEnds_word (version : Version) (stand : Stand) (notEnd : endsLine character = false)
    (notGap : isGap character = false) :
    trimEnds (stand.gap version ++ character :: text) =
      stand.gap version ++ character :: trimEnds text := by
  have alone : trimEnds (character :: text) = character :: trimEnds text := by
    simp [trimEnds_cons, notGap]
  have behindGap : trimEnds (' ' :: character :: text) = ' ' :: character :: trimEnds text := by
    rw [trimEnds_cons, leavesLine_cons, notEnd, notGap, alone]
    simp
  rcases stand.gap_cases version with noGap | isGap
  · rw [noGap]
    exact alone
  · rw [isGap]
    exact behindGap

end Trim

/-! ## Collapsed gaps -/

section Collapse

variable {character other : Char} {text : List Char}

theorem collapseGaps_cons (notGap : isGap character = false) :
    collapseGaps (character :: text) = character :: collapseGaps text := by
  rw [collapseGaps.eq_def]
  simp only [notGap, Bool.false_eq_true, if_false]

theorem collapseGaps_gap_gap (isFirst : isGap other = true) (isSecond : isGap character = true) :
    collapseGaps (other :: character :: text) = collapseGaps (character :: text) := by
  rw [collapseGaps.eq_def]
  simp only [isFirst, isSecond, if_true]

/-- It does not matter which gap stands in front. -/
theorem collapseGaps_gap (isFirst : isGap other = true) (isSecond : isGap character = true) :
    collapseGaps (other :: text) = collapseGaps (character :: text) := by
  rw [collapseGaps.eq_def, collapseGaps.eq_def (character :: text)]
  simp only [isFirst, isSecond, if_true]

theorem collapseGaps_space (notGap : isGap character = false) :
    collapseGaps (' ' :: character :: text) = ' ' :: character :: collapseGaps text := by
  have isSpace : isGap ' ' = true := rfl
  rw [collapseGaps.eq_def]
  simp only [isSpace, notGap, collapseGaps_cons notGap, Bool.false_eq_true, if_true, if_false]

end Collapse

/-! ## The normal form in one pass -/

/-- Whether a version keeps a character at all. -/
def Version.keeps : Version → Char → Bool
  | byLine, _ => true
  | joined, character => character != '\r'

/-- The character that a version shows for one that it keeps. -/
def Version.shown : Version → Char → Char
  | byLine, character => character
  | joined, character => if character == '\n' then ' ' else character

theorem normalize_eq (version : Version) (text : List Char) :
    version.normalize text = collapseGaps
      ((trimEnds (dropIndent true (text.filter version.keeps))).map version.shown) := by
  cases version with
  | byLine =>
      have all : text.filter Version.byLine.keeps = text :=
        List.filter_eq_self.mpr fun _ _ => rfl
      rw [all]
      exact congrArg collapseGaps (List.map_id _).symm
  | joined => rfl

section OnePass

variable {version : Version} {stand : Stand} {character : Char} {text : List Char}

/-- What is left of a text to be collapsed, with what it owes to what came before. -/
def Stand.left (version : Version) (stand : Stand) (text : List Char) : List Char :=
  stand.owed version ++
    (trimEnds (stand.gap version ++
      dropIndent (stand.startsLine version) (text.filter version.keeps))).map version.shown

theorem keeps_of_spacingOf (notReturn : spacingOf character ≠ .carriage) :
    version.keeps character = true := by
  cases version with
  | byLine => rfl
  | joined => exact bne_iff_ne.mpr (mt spacingOf_eq_carriage_iff.mpr notReturn)

theorem keeps_of_isGap (isBlank : isGap character = true) : version.keeps character = true :=
  keeps_of_spacingOf fun isReturn => by simp [isGap_eq, isReturn] at isBlank

theorem shown_of_spacingOf (notFeed : spacingOf character ≠ .feed) :
    version.shown character = character := by
  cases version with
  | byLine => rfl
  | joined =>
      refine if_neg fun isFeed => notFeed ?_
      exact spacingOf_eq_feed_iff.mpr (beq_iff_eq.mp isFeed)

theorem shown_of_isGap (isBlank : isGap character = true) : version.shown character = character :=
  shown_of_spacingOf fun isFeed => by simp [isGap_eq, isFeed] at isBlank

/-- A word is written behind the gap in front of it. -/
theorem collapseGaps_left_word (notEnd : endsLine character = false)
    (notGap : isGap character = false) (isKept : version.keeps character = true)
    (isShown : version.shown character = character) :
    collapseGaps (stand.left version (character :: text)) =
      stand.owed version ++ stand.gap version ++
        character :: collapseGaps ((Stand.behindWord false false).left version text) := by
  have kept : (stand.gap version).map version.shown = stand.gap version := by
    rcases stand.gap_cases version with noGap | isSpace
    · rw [noGap]
      rfl
    · rw [isSpace, List.map_singleton, shown_of_isGap rfl]
  have collapsed (others : List Char) :
      collapseGaps (stand.owed version ++ stand.gap version ++ character :: others) =
        stand.owed version ++ stand.gap version ++ character :: collapseGaps others := by
    rcases stand.owed_append_gap_cases version with noSpace | isSpace
    · rw [noSpace]
      exact collapseGaps_cons notGap
    · rw [isSpace]
      exact collapseGaps_space notGap
  have plain : (Stand.behindWord false false).left version text =
      (trimEnds (dropIndent false (text.filter version.keeps))).map version.shown := by
    cases version <;> rfl
  rw [plain, Stand.left, List.filter_cons_of_pos isKept, dropIndent, notGap, Bool.and_false,
    if_neg Bool.false_ne_true, notEnd, trimEnds_word version stand notEnd notGap, List.map_append,
    kept, List.map_cons, isShown, ← List.append_assoc, collapsed]

theorem left_end (version : Version) (stand : Stand) (text : List Char)
    (isEnd : endsLine character = true) (notGap : isGap character = false)
    (isKept : version.keeps character = true) :
    stand.left version (character :: text) =
      stand.owed version ++ version.shown character ::
        (trimEnds (dropIndent true (text.filter version.keeps))).map version.shown := by
  rw [Stand.left, List.filter_cons_of_pos isKept, dropIndent, notGap, Bool.and_false,
    if_neg Bool.false_ne_true, isEnd, trimEnds_end version stand isEnd notGap, List.map_cons]

/-- Of two gaps one is dropped, whichever kind they are. -/
theorem collapseGaps_trimEnds_gap (isBlank : isGap character = true) (stand : Stand) :
    collapseGaps ((trimEnds (stand.gap version ++ character :: text)).map version.shown) =
      collapseGaps ((trimEnds (' ' :: text)).map version.shown) := by
  have isSpace : version.shown ' ' = ' ' := shown_of_isGap rfl
  have alone : collapseGaps ((trimEnds (character :: text)).map version.shown) =
      collapseGaps ((trimEnds (' ' :: text)).map version.shown) := by
    rw [trimEnds_cons, trimEnds_cons, isBlank]
    cases leavesLine text with
    | true => rfl
    | false =>
        simp only [Bool.false_and, Bool.false_eq_true, if_false, List.map_cons,
          shown_of_isGap isBlank, isSpace]
        exact collapseGaps_gap isBlank rfl
  rcases stand.gap_cases version with noGap | hasGap
  · rw [noGap]
    exact alone
  · rw [hasGap, ← alone, List.singleton_append, trimEnds_cons, leavesLine_cons, isBlank,
      endsLine_eq_false_of_isGap isBlank, trimEnds_cons, isBlank]
    cases leavesLine text with
    | true => rfl
    | false =>
        simp only [Bool.false_and, Bool.or_self, Bool.false_eq_true, if_false, List.map_cons,
          shown_of_isGap isBlank, isSpace]
        exact collapseGaps_gap_gap rfl isBlank

/-- A gap is dropped at the start of a line and remembered behind a word. -/
theorem collapseGaps_left_gap (isBlank : isGap character = true) :
    collapseGaps (stand.left version (character :: text)) =
      collapseGaps ((stand.next .gap).left version text) := by
  rw [Stand.left, List.filter_cons_of_pos (keeps_of_isGap isBlank), dropIndent, isBlank,
    endsLine_eq_false_of_isGap isBlank, Bool.and_true]
  cases starts : stand.startsLine version with
  | true =>
      have unchanged : (stand.next .gap).left version text = stand.left version text := by
        cases stand with
        | lineStart isOwed => rfl
        | behindWord hasReturn hasGap =>
            cases version with
            | byLine =>
                obtain rfl : hasReturn = true := starts
                rfl
            | joined => contradiction
      rw [unchanged, Stand.left, starts]
      rfl
  | false =>
      rw [if_neg Bool.false_ne_true]
      cases stand with
      | lineStart isOwed => cases version <;> contradiction
      | behindWord hasReturn hasGap =>
          have remembered : ((Stand.behindWord hasReturn hasGap).next .gap).left version text =
              (trimEnds (' ' :: dropIndent false (text.filter version.keeps))).map
                version.shown := by
            cases version with
            | byLine =>
                obtain rfl : hasReturn = false := starts
                rfl
            | joined => rfl
          have noneOwed : (Stand.behindWord hasReturn hasGap).owed version = [] := by
            cases version <;> rfl
          rw [remembered, noneOwed, List.nil_append]
          exact collapseGaps_trimEnds_gap isBlank _

theorem left_lineStart :
    (Stand.lineStart false).left version text =
      (trimEnds (dropIndent true (text.filter version.keeps))).map version.shown := by
  cases version <;> rfl

theorem left_byLine (starts : stand.startsLine .byLine = true) :
    stand.left .byLine text = (Stand.lineStart false).left .byLine text := by
  cases stand with
  | lineStart isOwed => rfl
  | behindWord hasReturn hasGap =>
      obtain rfl : hasReturn = true := starts
      rfl

/-- The end of a line that shows is written behind the gap for the line feeds before it. -/
theorem collapseGaps_left_end (version : Version) (stand : Stand) (text : List Char)
    (isEnd : endsLine character = true) (notGap : isGap character = false)
    (isKept : version.keeps character = true) (isShown : version.shown character = character) :
    collapseGaps (stand.left version (character :: text)) =
      stand.owed version ++
        character :: collapseGaps ((Stand.lineStart false).left version text) := by
  rw [left_end version stand text isEnd notGap isKept, isShown, ← left_lineStart]
  rcases stand.owed_cases version with noneOwed | isOwed
  · rw [noneOwed]
    exact collapseGaps_cons notGap
  · rw [isOwed]
    exact collapseGaps_space notGap

/-- To bring a text to a normal form takes one pass. -/
theorem collapseGaps_left (version : Version) (stand : Stand) (text : List Char) :
    collapseGaps (stand.left version text) = normalizeFrom version stand text := by
  -- one character at a time: what is left before it and behind it differ by what is written
  induction text generalizing stand with
  | nil =>
      have nothing : trimEnds (stand.gap version) = [] := by
        rcases stand.gap_cases version with noGap | hasGap
        · rw [noGap]
          rfl
        · rw [hasGap]
          rfl
      rw [normalizeFrom, Stand.left, List.filter_nil, dropIndent, List.append_nil, nothing,
        List.map_nil, List.append_nil]
      rcases stand.owed_cases version with noneOwed | isOwed
      · rw [noneOwed]
        rfl
      · rw [isOwed]
        rfl
  | cons character text ih =>
      rw [normalizeFrom, ← ih]
      cases isSpacing : spacingOf character with
      | gap =>
          have isBlank : isGap character = true := by
            rw [isGap_eq, isSpacing]
            rfl
          exact collapseGaps_left_gap isBlank
      | carriage =>
          obtain rfl := spacingOf_eq_carriage_iff.mp isSpacing
          cases version with
          | byLine =>
              have starts : (stand.next .carriage).startsLine .byLine = true := by
                cases stand <;> rfl
              rw [left_byLine starts]
              exact collapseGaps_left_end .byLine stand text rfl rfl rfl rfl
          | joined => cases stand <;> rfl
      | feed =>
          obtain rfl := spacingOf_eq_feed_iff.mp isSpacing
          have nextLine : stand.next .feed = .lineStart true := by cases stand <;> rfl
          rw [nextLine]
          cases version with
          | byLine => exact collapseGaps_left_end .byLine stand text rfl rfl rfl rfl
          | joined =>
              rw [left_end .joined stand text rfl rfl rfl]
              rcases stand.owed_cases .joined with noneOwed | isOwed
              · rw [noneOwed]
                rfl
              · rw [isOwed]
                exact collapseGaps_gap_gap rfl rfl
      | separator =>
          have isEnd : endsLine character = true := by
            rw [endsLine_eq, isSpacing]
            rfl
          have notGap : isGap character = false := isGap_eq_false (by simp [isSpacing])
          have nextLine : stand.next .separator = .lineStart false := by cases stand <;> rfl
          rw [nextLine, collapseGaps_left_end version stand text isEnd notGap
            (keeps_of_spacingOf (by simp [isSpacing])) (shown_of_spacingOf (by simp [isSpacing]))]
          exact List.append_cons ..
      | word =>
          have notEnd : endsLine character = false := by
            rw [endsLine_eq, isSpacing]
            rfl
          have notGap : isGap character = false := isGap_eq_false (by simp [isSpacing])
          have nextWord : stand.next .word = .behindWord false false := by cases stand <;> rfl
          rw [nextWord, collapseGaps_left_word notEnd notGap
            (keeps_of_spacingOf (by simp [isSpacing])) (shown_of_spacingOf (by simp [isSpacing]))]
          exact List.append_cons ..

theorem normalize_eq_normalizeFrom (version : Version) (text : List Char) :
    version.normalize text = normalizeFrom version (.lineStart false) text := by
  rw [normalize_eq, ← collapseGaps_left, left_lineStart]

end OnePass

/-! ## Carriage returns within a line -/

/-- What a word reports of a carriage return in front of it: whether there is a gap as well. -/
@[simp]
def Stand.reports : Stand → Spacing → List Bool
  | behindWord hasReturn hasGap, .word => if hasReturn then [hasGap] else []
  | _, _ => []

/-- The reports in a text, from where it has come to. -/
def returnGapsFrom : Stand → List Char → List Bool
  | _, [] => []
  | stand, character :: text =>
    stand.reports (spacingOf character) ++ returnGapsFrom (stand.next (spacingOf character)) text

/-- For every stretch of gaps and carriage returns that stands between two words of a line and holds
a carriage return, whether it holds a gap as well. Carriage returns end no lines here. -/
def returnGaps (text : List Char) : List Bool :=
  returnGapsFrom (.lineStart false) text

/-- Where a text has come to as far as its first normal form shows. -/
@[simp]
def Stand.seen : Stand → Stand
  | lineStart isOwed => lineStart isOwed
  | behindWord hasReturn _ => behindWord hasReturn false

/-- The second normal form of a text, by the first one and the reports. -/
def joinedWith : Stand → List Bool → List Char → List Char
  | stand, _, [] => stand.owed .joined
  | stand, reports, character :: text =>
    match spacingOf character, stand with
    | .word, .behindWord true _ =>
      (Stand.behindWord true (reports.headD false)).writes .joined character .word ++
        joinedWith (.behindWord false false) reports.tail text
    | spacing, stand =>
      stand.writes .joined character spacing ++ joinedWith (stand.next spacing) reports text

/-- The reports in a text, by its two normal forms. -/
def reportsOf : Stand → List Char → List Char → List Bool
  | _, [], _ => []
  | stand, character :: text, joined =>
    match spacingOf character, stand with
    | .word, .behindWord true _ =>
      (joined.head? == some ' ') ::
        reportsOf (.behindWord false false) text (joined.dropWhile isGap).tail
    | .word, _ => reportsOf (.behindWord false false) text (joined.dropWhile isGap).tail
    | .separator, _ => reportsOf (.lineStart false) text (joined.dropWhile isGap).tail
    | spacing, stand => reportsOf (stand.next spacing) text joined

section Returns

@[simp]
theorem isGap_space : isGap ' ' = true :=
  rfl

@[simp]
theorem spacingOf_space : spacingOf ' ' = .gap :=
  rfl

theorem joinedWith_normalizeFrom (stand : Stand) (text : List Char) :
    joinedWith stand.seen (returnGapsFrom stand text) (normalizeFrom .byLine stand text) =
      normalizeFrom .joined stand text := by
  induction text generalizing stand with
  | nil => cases stand <;> rfl
  | cons character text ih =>
      rw [normalizeFrom, normalizeFrom, returnGapsFrom, ← ih]
      cases isSpacing : spacingOf character with
      | gap => cases stand <;> simp
      | carriage => cases stand <;> simp [joinedWith, isSpacing]
      | feed => cases stand <;> simp [joinedWith, isSpacing]
      | separator => cases stand <;> simp [joinedWith, isSpacing]
      | word =>
          cases stand with
          | lineStart isOwed => simp [joinedWith, isSpacing]
          | behindWord hasReturn hasGap =>
              cases hasReturn with
              | true => simp [joinedWith, isSpacing]
              | false => cases hasGap <;> simp [joinedWith, isSpacing]

theorem reportsOf_normalizeFrom (stand : Stand) (text : List Char) :
    reportsOf stand.seen (normalizeFrom .byLine stand text) (normalizeFrom .joined stand text) =
      returnGapsFrom stand text := by
  induction text generalizing stand with
  | nil => cases stand <;> rfl
  | cons character text ih =>
      rw [normalizeFrom, normalizeFrom, returnGapsFrom, ← ih]
      -- what both forms show is found again behind the gap in front of it
      cases isSpacing : spacingOf character with
      | gap => cases stand <;> simp
      | carriage => cases stand <;> simp [reportsOf, isSpacing]
      | feed => cases stand <;> simp [reportsOf, isSpacing]
      | separator =>
          have notGap : isGap character = false := isGap_eq_false (by simp [isSpacing])
          cases stand with
          | lineStart isOwed =>
              cases isOwed <;> simp [reportsOf, isSpacing, List.dropWhile_cons, notGap]
          | behindWord hasReturn hasGap => simp [reportsOf, isSpacing, notGap]
      | word =>
          have notGap : isGap character = false := isGap_eq_false (by simp [isSpacing])
          have notSpace : character ≠ ' ' := by
            rintro rfl
            contradiction
          cases stand with
          | lineStart isOwed =>
              cases isOwed <;> simp [reportsOf, isSpacing, List.dropWhile_cons, notGap]
          | behindWord hasReturn hasGap =>
              cases hasReturn <;> cases hasGap <;>
                simp [reportsOf, isSpacing, List.dropWhile_cons, notGap, notSpace]

/-- Texts with the same first normal form have the same second one exactly if they have gaps at the
same carriage returns. -/
theorem normalize_joined_eq_iff {left right : List Char}
    (same : Version.byLine.normalize left = Version.byLine.normalize right) :
    Version.joined.normalize left = Version.joined.normalize right ↔
      returnGaps left = returnGaps right := by
  simp only [normalize_eq_normalizeFrom] at same ⊢
  have joined (text : List Char) := joinedWith_normalizeFrom (.lineStart false) text
  have reports (text : List Char) := reportsOf_normalizeFrom (.lineStart false) text
  constructor
  · intro sameJoined
    rw [returnGaps, returnGaps, ← reports, ← reports, same, sameJoined]
  · intro sameReports
    rw [← joined left, ← joined right, same]
    exact congrArg (joinedWith _ · _) sameReports

/-- A line with a gap at one of two carriage returns, and a carriage return at its end. -/
example :
    let text := "a \r b\rc \r\nd".toList
    Version.byLine.normalize text = "a\rb\rc\r\nd".toList ∧
      Version.joined.normalize text = "a bc d".toList ∧ returnGaps text = [true, false] := by
  decide +kernel

end Returns

end Phrasebook.Phrase
