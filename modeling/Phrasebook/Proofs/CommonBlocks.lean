import Mathlib.Data.List.Sort
import Phrasebook.Difference.Block

/-!
# Common blocks

The longest block of a span is found row by row: at each line of the first
list, the runs that end there are one longer than the runs that end at the line
before.  So every block is shared, the blocks come one behind the other, and
two equal lists have a single block.
-/

namespace Phrasebook.Difference

/-! ## Runs -/

section Runs

variable {shares : Nat → Nat → Bool} {first second : Nat}

/-- The length of the run of shared lines that ends at two places. -/
def runLength (shares : Nat → Nat → Bool) : Nat → Nat → Nat
  | 0, second => if shares 0 second then 1 else 0
  | first + 1, second =>
    if shares (first + 1) second then
      (match second with
      | 0 => 0
      | previous + 1 => runLength shares first previous) + 1
    else 0

theorem runLength_pos (isShared : shares first second = true) :
    0 < runLength shares first second := by
  cases first <;> simp [runLength, isShared]

theorem runLength_eq_zero (notShared : shares first second = false) :
    runLength shares first second = 0 := by
  cases first <;> simp [runLength, notShared]

theorem shares_of_lt_runLength {index : Nat} (isInside : index < runLength shares first second) :
    index ≤ first ∧ index ≤ second ∧ shares (first - index) (second - index) = true := by
  induction first generalizing second index with
  | zero =>
      cases isShared : shares 0 second with
      | false => simp [runLength, isShared] at isInside
      | true =>
          simp only [runLength, isShared, if_true, Nat.lt_one_iff] at isInside
          simpa [isInside] using isShared
  | succ first ih =>
      cases isShared : shares (first + 1) second with
      | false => simp [runLength_eq_zero isShared] at isInside
      | true =>
          cases index with
          | zero => simpa using isShared
          | succ index =>
              cases second with
              | zero => simp [runLength, isShared] at isInside
              | succ second =>
                  simp only [runLength, isShared, if_true] at isInside
                  simpa using ih (Nat.lt_of_succ_lt_succ isInside)

/-- Where lines that are shared with others are shared with themselves, no run is longer than those
that end at the same place in both lists. -/
theorem runLength_le_self
    (own : ∀ first second, shares first second = true →
      shares first first = true ∧ shares second second = true) :
    runLength shares first second ≤ runLength shares first first ∧
      runLength shares first second ≤ runLength shares second second := by
  induction first generalizing second with
  | zero =>
      cases isShared : shares 0 second with
      | false => simp [runLength_eq_zero isShared]
      | true =>
          obtain ⟨ofFirst, ofSecond⟩ := own 0 second isShared
          have isOne : runLength shares 0 second = 1 := by simp [runLength, isShared]
          rw [isOne]
          exact ⟨runLength_pos ofFirst, runLength_pos ofSecond⟩
  | succ first ih =>
      cases isShared : shares (first + 1) second with
      | false => simp [runLength_eq_zero isShared]
      | true =>
          obtain ⟨ofFirst, ofSecond⟩ := own (first + 1) second isShared
          cases second with
          | zero =>
              have isOne : runLength shares (first + 1) 0 = 1 := by simp [runLength, isShared]
              rw [isOne]
              exact ⟨runLength_pos ofFirst, runLength_pos ofSecond⟩
          | succ second =>
              simp only [runLength, isShared, ofFirst, ofSecond, if_true]
              exact ⟨Nat.succ_le_succ ih.1, Nat.succ_le_succ ih.2⟩

end Runs

/-! ## Rows -/

namespace Comparison

section Rows

variable (comparison : Comparison) (span : Span)

/-- The places of a line within a span. -/
def placesIn (line : Nat) : List Nat :=
  (comparison.places[line]?.getD []).filter fun place =>
    span.second ≤ place && place < span.secondStop

/-- Whether a line is known to be at a place of the second list, both within a span. -/
def shares (line place : Nat) : Bool :=
  span.first ≤ line && line < span.firstStop && (comparison.placesIn span line).contains place

/-- The runs that end at a line. -/
def rowAt (line : Nat) : List (Nat × Nat) :=
  (comparison.placesIn span line).map fun place =>
    (place, runLength (comparison.shares span) line place)

/-- Runs are those that end at the line before a given one. -/
def AreRunsBefore (line : Nat) (runs : List (Nat × Nat)) : Prop :=
  ∀ place, (runs.lookup place).getD 0 =
    match line with
    | 0 => 0
    | previous + 1 => runLength (comparison.shares span) previous place

variable {comparison span}

theorem shares_eq {line place : Nat} (isStart : span.first ≤ line)
    (isStop : line < span.firstStop) :
    comparison.shares span line place = (comparison.placesIn span line).contains place := by
  simp [shares, isStart, isStop]

theorem areRunsBefore_start : comparison.AreRunsBefore span span.first [] := by
  intro place
  cases isStart : span.first with
  | zero => rfl
  | succ previous =>
      have notShared : comparison.shares span previous place = false := by
        simp [shares, isStart]
      exact (runLength_eq_zero notShared).symm

theorem runsAt_eq {line : Nat} {runs : List (Nat × Nat)} (isStart : span.first ≤ line)
    (isStop : line < span.firstStop) (before : comparison.AreRunsBefore span line runs) :
    runsAt (comparison.placesIn span line) runs = comparison.rowAt span line := by
  refine List.map_congr_left fun place placeMem => ?_
  have isShared : comparison.shares span line place = true := by
    rw [shares_eq isStart isStop]
    exact List.contains_iff_mem.mpr placeMem
  cases place with
  | zero => cases line <;> simp [runLength, isShared]
  | succ place =>
      have former := before place
      cases line <;> simp_all [runLength]

theorem areRunsBefore_rowAt {line : Nat} (isStart : span.first ≤ line)
    (isStop : line < span.firstStop) :
    comparison.AreRunsBefore span (line + 1) (comparison.rowAt span line) := by
  intro place
  dsimp only [rowAt]
  by_cases placeMem : place ∈ comparison.placesIn span line
  · rw [List.lookup_graph _ placeMem]
    rfl
  · have notShared : comparison.shares span line place = false := by
      rw [shares_eq isStart isStop]
      simpa using placeMem
    rw [runLength_eq_zero notShared, List.lookup_eq_none_iff.mpr]
    · rfl
    · rintro ⟨other, size⟩ pairMem
      obtain ⟨_, otherMem, same⟩ := List.mem_map.mp pairMem
      cases same
      exact bne_iff_ne.mpr fun (same : place = _) => placeMem (same ▸ otherMem)

/-- The search for the longest run goes through the rows. -/
theorem longestFrom_eq_foldl {count : Nat} {runs : List (Nat × Nat)} {best : Block}
    (isShort : span.first + count ≤ span.firstStop)
    (before : comparison.AreRunsBefore span (span.firstStop - count) runs) :
    longestFrom comparison span count runs best =
      (List.range' (span.firstStop - count) count).foldl
        (fun best line => bestOf line best (comparison.rowAt span line)) best := by
  induction count generalizing runs best with
  | zero => rfl
  | succ count ih =>
      have isStart : span.first ≤ span.firstStop - (count + 1) := by omega
      have isStop : span.firstStop - (count + 1) < span.firstStop := by omega
      have next : span.firstStop - (count + 1) + 1 = span.firstStop - count := by omega
      have row := runsAt_eq isStart isStop before
      rw [longestFrom, List.range'_succ, List.foldl_cons, next, ← row]
      refine ih (by omega) ?_
      rw [← next, ← placesIn, row]
      exact areRunsBefore_rowAt isStart isStop

theorem longestFrom_eq (isShort : span.first ≤ span.firstStop) (best : Block) :
    longestFrom comparison span (span.firstStop - span.first) [] best =
      (List.range' span.first (span.firstStop - span.first)).foldl
        (fun best line => bestOf line best (comparison.rowAt span line)) best := by
  have isFirst : span.firstStop - (span.firstStop - span.first) = span.first := by omega
  rw [longestFrom_eq_foldl (by omega), isFirst]
  rw [isFirst]
  exact areRunsBefore_start

end Rows

/-! ## Blocks are common -/

/-- A block in a span whose lines are the same in both lists. -/
structure IsCommon (comparison : Comparison) (span : Span) (block : Block) : Prop where
  start : span.first ≤ block.first
  stop : block.first + block.size ≤ span.firstStop
  secondStart : span.second ≤ block.second
  secondStop : block.second + block.size ≤ span.secondStop
  agrees : ∀ index < block.size,
    comparison.agrees (block.first + index) (block.second + index) = true

/-- Places are only given for lines that stand there. -/
def IsFaithful (comparison : Comparison) : Prop :=
  ∀ line, ∀ place ∈ comparison.places[line]?.getD [], comparison.agrees line place = true

theorem mem_placesOf {lines : Array String} {line : String} {place : Nat}
    (placeMem : place ∈ placesOf lines line) : lines[place]? = some line := by
  unfold placesOf at placeMem
  dsimp only at placeMem
  split at placeMem
  · simp at placeMem
  · simpa using (List.mem_filter.mp placeMem).2

theorem places_ofLines (first second : List String) (line : Nat) :
    (ofLines first second).places[line]?.getD [] =
      (first[line]?.map (placesOf second.toArray)).getD [] := by
  simp [ofLines]

theorem isFaithful_ofLines (first second : List String) : (ofLines first second).IsFaithful := by
  intro line place placeMem
  rw [places_ofLines] at placeMem
  cases isLine : first[line]? with
  | none => simp [isLine] at placeMem
  | some text =>
      have isThere := mem_placesOf (by simpa [isLine] using placeMem)
      rw [List.getElem?_toArray] at isThere
      simp [agrees, ofLines, isLine, isThere]

section Common

variable {comparison : Comparison} {span : Span} {block : Block}

/-- The block of a run. -/
def blockAt (line : Nat) (run : Nat × Nat) : Block :=
  ⟨line + 1 - run.2, run.1 + 1 - run.2, run.2⟩

theorem isCommon_blockAt (isFaithful : comparison.IsFaithful) {line : Nat}
    (isStart : span.first ≤ line) (isStop : line < span.firstStop) {run : Nat × Nat}
    (runMem : run ∈ comparison.rowAt span line) :
    comparison.IsCommon span (blockAt line run) := by
  obtain ⟨place, placeMem, rfl⟩ := List.mem_map.mp runMem
  have isShared : comparison.shares span line place = true := by
    rw [shares_eq isStart isStop]
    exact List.contains_iff_mem.mpr placeMem
  have inside (index : Nat) (isInside : index < runLength (comparison.shares span) line place) :
      index ≤ line ∧ index ≤ place ∧ span.first ≤ line - index ∧ span.second ≤ place - index ∧
        comparison.agrees (line - index) (place - index) = true := by
    obtain ⟨inFirst, inSecond, isShared⟩ := shares_of_lt_runLength isInside
    simp only [shares, Bool.and_eq_true, decide_eq_true_eq, List.contains_iff_mem, placesIn,
      List.mem_filter] at isShared
    obtain ⟨⟨start, _⟩, there, secondStart, _⟩ := isShared
    exact ⟨inFirst, inSecond, start, secondStart, isFaithful _ _ there⟩
  have isPlace : place < span.secondStop := by
    simp only [placesIn, List.mem_filter, Bool.and_eq_true, decide_eq_true_eq] at placeMem
    exact placeMem.2.2
  have pos := runLength_pos isShared
  obtain ⟨inFirst, inSecond, start, secondStart, _⟩ :=
    inside (runLength (comparison.shares span) line place - 1) (by omega)
  refine ⟨?_, ?_, ?_, ?_, fun index isInside => ?_⟩
  · dsimp only [blockAt]
    omega
  · dsimp only [blockAt]
    omega
  · dsimp only [blockAt]
    omega
  · dsimp only [blockAt]
    omega
  · dsimp only [blockAt] at isInside ⊢
    obtain ⟨_, _, _, _, isSame⟩ :=
      inside (runLength (comparison.shares span) line place - 1 - index) (by omega)
    have atFirst : line + 1 - runLength (comparison.shares span) line place + index =
        line - (runLength (comparison.shares span) line place - 1 - index) := by omega
    have atSecond : place + 1 - runLength (comparison.shares span) line place + index =
        place - (runLength (comparison.shares span) line place - 1 - index) := by omega
    rw [atFirst, atSecond]
    exact isSame

theorem bestOf_preserves {holds : Block → Prop} {line : Nat} {best : Block}
    {runs : List (Nat × Nat)} (start : holds best)
    (each : ∀ run ∈ runs, holds (blockAt line run)) : holds (bestOf line best runs) := by
  refine List.foldlRecOn runs _ start fun best isBest run runMem => ?_
  dsimp only
  split
  · exact each run runMem
  · exact isBest

theorem isCommon_longestFrom (isFaithful : comparison.IsFaithful)
    (isSpan : span.first ≤ span.firstStop) (isOther : span.second ≤ span.secondStop) :
    comparison.IsCommon span
      (longestFrom comparison span (span.firstStop - span.first) []
        ⟨span.first, span.second, 0⟩) := by
  rw [longestFrom_eq isSpan]
  refine List.foldlRecOn _ _ ⟨le_rfl, isSpan, le_rfl, isOther, fun _ isInside => ?_⟩
    fun best isBest line lineMem => ?_
  · exact absurd isInside (Nat.not_lt_zero _)
  · rw [List.mem_range'_1] at lineMem
    exact bestOf_preserves isBest fun run =>
      isCommon_blockAt isFaithful lineMem.1 (by omega)

theorem isCommon_extendBack (fuel : Nat) (isCommon : comparison.IsCommon span block) :
    comparison.IsCommon span (extendBack comparison span fuel block) := by
  induction fuel generalizing block with
  | zero => exact isCommon
  | succ fuel ih =>
      rw [extendBack]
      split
      · rename_i goesOn
        simp only [Bool.and_eq_true, decide_eq_true_eq] at goesOn
        obtain ⟨⟨inFirst, inSecond⟩, isSame⟩ := goesOn
        obtain ⟨start, stop, secondStart, secondStop, agrees⟩ := isCommon
        refine ih ⟨?_, ?_, ?_, ?_, fun index isInside => ?_⟩ <;> dsimp only at *
        · omega
        · omega
        · omega
        · omega
        · cases index with
          | zero => exact isSame
          | succ index =>
              have atFirst : block.first - 1 + (index + 1) = block.first + index := by omega
              have atSecond : block.second - 1 + (index + 1) = block.second + index := by omega
              rw [atFirst, atSecond]
              exact agrees index (by omega)
      · exact isCommon

theorem isCommon_extendForth (fuel : Nat) (isCommon : comparison.IsCommon span block) :
    comparison.IsCommon span (extendForth comparison span fuel block) := by
  induction fuel generalizing block with
  | zero => exact isCommon
  | succ fuel ih =>
      rw [extendForth]
      split
      · rename_i goesOn
        simp only [Bool.and_eq_true, decide_eq_true_eq] at goesOn
        obtain ⟨⟨inFirst, inSecond⟩, isSame⟩ := goesOn
        obtain ⟨start, stop, secondStart, secondStop, agrees⟩ := isCommon
        refine ih ⟨start, by dsimp only; omega, secondStart, by dsimp only; omega,
          fun index isInside => ?_⟩
        dsimp only at isInside ⊢
        rcases Nat.lt_succ_iff_lt_or_eq.mp isInside with isInside | rfl
        · exact agrees index isInside
        · exact isSame
      · exact isCommon

theorem isCommon_longest (isFaithful : comparison.IsFaithful)
    (isSpan : span.first ≤ span.firstStop) (isOther : span.second ≤ span.secondStop) :
    comparison.IsCommon span (comparison.longest span) :=
  isCommon_extendForth _ (isCommon_extendBack _ (isCommon_longestFrom isFaithful isSpan isOther))

end Common

/-! ## Blocks in order -/

/-- Blocks in a span, each of them common and behind the one before it. -/
def AreCommon (comparison : Comparison) : Span → List Block → Prop
  | span, [] => span.first ≤ span.firstStop ∧ span.second ≤ span.secondStop
  | span, block :: blocks =>
    comparison.IsCommon span block ∧
      AreCommon comparison
        { span with first := block.first + block.size, second := block.second + block.size } blocks

section Order

variable {comparison : Comparison}

theorem AreCommon.append {span : Span} {front back : List Block} {first second : Nat}
    (isFront : comparison.AreCommon { span with firstStop := first, secondStop := second } front)
    (isBack : comparison.AreCommon { span with first, second } back)
    (isStop : first ≤ span.firstStop) (isSecondStop : second ≤ span.secondStop) :
    comparison.AreCommon span (front ++ back) := by
  induction front generalizing span with
  | nil =>
      obtain ⟨inFirst, inSecond⟩ := isFront
      dsimp only at inFirst inSecond
      cases back with
      | nil => exact ⟨inFirst.trans isStop, inSecond.trans isSecondStop⟩
      | cons block blocks =>
          obtain ⟨⟨start, stop, secondStart, secondStop, agrees⟩, rest⟩ := isBack
          exact ⟨⟨inFirst.trans start, stop, inSecond.trans secondStart, secondStop, agrees⟩, rest⟩
  | cons block front ih =>
      obtain ⟨⟨start, stop, secondStart, secondStop, agrees⟩, rest⟩ := isFront
      exact ⟨⟨start, stop.trans isStop, secondStart, secondStop.trans isSecondStop, agrees⟩,
        ih rest isBack isStop isSecondStop⟩

theorem areCommon_blocksIn (isFaithful : comparison.IsFaithful) {fuel : Nat} {span : Span}
    (isSpan : span.first ≤ span.firstStop) (isOther : span.second ≤ span.secondStop) :
    comparison.AreCommon span (comparison.blocksIn fuel span) := by
  induction fuel generalizing span with
  | zero => exact ⟨isSpan, isOther⟩
  | succ fuel ih =>
      rw [blocksIn]
      split
      · dsimp only
        split
        · exact ⟨isSpan, isOther⟩
        · have isCommon := isCommon_longest isFaithful isSpan isOther
          obtain ⟨start, stop, secondStart, secondStop, agrees⟩ := isCommon
          exact .append (ih start secondStart)
            ⟨⟨le_rfl, stop, le_rfl, secondStop, agrees⟩, ih stop secondStop⟩
            (Nat.le_of_add_right_le stop) (Nat.le_of_add_right_le secondStop)
      · exact ⟨isSpan, isOther⟩

theorem AreCommon.joined {span : Span} {blocks : List Block}
    (areCommon : comparison.AreCommon span blocks) :
    comparison.AreCommon span (Comparison.joined blocks) := by
  induction blocks generalizing span with
  | nil => exact areCommon
  | cons block blocks ih =>
      obtain ⟨isCommon, rest⟩ := areCommon
      have others := ih rest
      rw [Comparison.joined]
      cases isJoined : Comparison.joined blocks with
      | nil => exact ⟨isCommon, isJoined ▸ others⟩
      | cons next blocks =>
          rw [isJoined] at others
          dsimp only
          split
          · rename_i touches
            simp only [Bool.and_eq_true, beq_iff_eq] at touches
            obtain ⟨isNext, behind⟩ := others
            refine ⟨⟨isCommon.start, ?_, isCommon.secondStart, ?_, fun index isInside => ?_⟩, ?_⟩
            · have := isNext.stop
              dsimp only at this ⊢
              omega
            · have := isNext.secondStop
              dsimp only at this ⊢
              omega
            · dsimp only at isInside ⊢
              by_cases isBefore : index < block.size
              · exact isCommon.agrees index isBefore
              · have isSame := isNext.agrees (index - block.size) (by omega)
                rw [← touches.1, ← touches.2] at isSame
                have atFirst : block.first + block.size + (index - block.size) =
                    block.first + index := by omega
                have atSecond : block.second + block.size + (index - block.size) =
                    block.second + index := by omega
                rwa [atFirst, atSecond] at isSame
            · rw [← touches.1, ← touches.2] at behind
              simpa only [Nat.add_assoc] using behind
          · exact ⟨isCommon, others⟩

theorem areCommon_blocks (isFaithful : comparison.IsFaithful) :
    comparison.AreCommon ⟨0, comparison.first.size, 0, comparison.second.size⟩ comparison.blocks :=
  (areCommon_blocksIn isFaithful (Nat.zero_le _) (Nat.zero_le _)).joined

end Order

/-! ## Equal lists -/

section Same

variable {lines : List String} {line place : Nat}

/-- Both lists as a whole, where they are the same. -/
def wholeSpan (lines : List String) : Span :=
  ⟨0, lines.length, 0, lines.length⟩

theorem mem_placesIn_same :
    place ∈ (ofLines lines lines).placesIn (wholeSpan lines) line ↔
      ∃ text, lines[line]? = some text ∧ place ∈ placesOf lines.toArray text := by
  simp only [placesIn, places_ofLines, wholeSpan, List.mem_filter, Nat.zero_le, decide_true,
    Bool.true_and]
  constructor
  · rintro ⟨placeMem, -⟩
    cases isLine : lines[line]? with
    | none => simp [isLine] at placeMem
    | some text => exact ⟨text, rfl, by simpa [isLine] using placeMem⟩
  · rintro ⟨text, isLine, placeMem⟩
    have isThere := mem_placesOf placeMem
    rw [List.getElem?_toArray] at isThere
    exact ⟨by simpa [isLine] using placeMem,
      decide_eq_true (List.getElem?_eq_some_iff.mp isThere).1⟩

/-- The places of a line are among the places of every line that is the same. -/
theorem mem_placesOf_of_mem {text : String} (placeMem : place ∈ placesOf lines.toArray text)
    (isLine : lines[line]? = some text) : line ∈ placesOf lines.toArray text := by
  unfold placesOf at placeMem ⊢
  dsimp only at placeMem ⊢
  split at placeMem
  · simp at placeMem
  · rename_i notFrequent
    rw [if_neg notFrequent]
    simpa [isLine] using (List.getElem?_eq_some_iff.mp isLine).1

theorem shares_same (isShared : (ofLines lines lines).shares (wholeSpan lines) line place = true) :
    (ofLines lines lines).shares (wholeSpan lines) line line = true ∧
      (ofLines lines lines).shares (wholeSpan lines) place place = true := by
  simp only [shares, Bool.and_eq_true, decide_eq_true_eq, List.contains_iff_mem,
    mem_placesIn_same] at isShared ⊢
  obtain ⟨⟨start, stop⟩, text, isLine, placeMem⟩ := isShared
  have isThere := mem_placesOf placeMem
  rw [List.getElem?_toArray] at isThere
  exact ⟨⟨⟨start, stop⟩, text, isLine, mem_placesOf_of_mem placeMem isLine⟩,
    ⟨Nat.zero_le _, (List.getElem?_eq_some_iff.mp isThere).1⟩, text, isThere, placeMem⟩

theorem pairwise_placesOf (lines : Array String) (text : String) :
    (placesOf lines text).Pairwise (· < ·) := by
  unfold placesOf
  dsimp only
  split
  · exact .nil
  · exact List.pairwise_lt_range.filter _

theorem pairwise_placesIn (first second : List String) (span : Span) (line : Nat) :
    ((ofLines first second).placesIn span line).Pairwise (· < ·) := by
  refine List.Pairwise.filter _ ?_
  rw [places_ofLines]
  cases first[line]? with
  | none => exact .nil
  | some text => exact pairwise_placesOf _ _

/-- A block that starts at the same line of both lists, and is at least as long as the runs that
end before a line there. -/
structure IsBestBefore (shares : Nat → Nat → Bool) (line : Nat) (best : Block) : Prop where
  aligned : best.first = best.second
  longest : ∀ former < line, runLength shares former former ≤ best.size

theorem IsBestBefore.next {shares : Nat → Nat → Bool} {best block : Block}
    (isBest : IsBestBefore shares line best) (aligned : block.first = block.second)
    (grows : best.size ≤ block.size) (isLong : runLength shares line line ≤ block.size) :
    IsBestBefore shares (line + 1) block := by
  refine ⟨aligned, fun former isFormer => ?_⟩
  rcases Nat.lt_succ_iff_lt_or_eq.mp isFormer with isFormer | rfl
  · exact (isBest.longest former isFormer).trans grows
  · exact isLong

theorem bestOf_eq_self {best : Block} {runs : List (Nat × Nat)}
    (areShort : ∀ run ∈ runs, run.2 ≤ best.size) : bestOf line best runs = best := by
  induction runs with
  | nil => rfl
  | cons run runs ih =>
      have isShort := areShort run List.mem_cons_self
      have isSame : bestOf line best (run :: runs) = bestOf line best runs := by
        simp [bestOf, Nat.not_lt.mpr isShort]
      rw [isSame]
      exact ih fun run runMem => areShort run (List.mem_cons_of_mem _ runMem)

/-- The first of the longest runs is one that ends at the same line of both lists. -/
theorem isBestBefore_bestOf {best : Block} (isStop : line < lines.length)
    (isBest : IsBestBefore ((ofLines lines lines).shares (wholeSpan lines)) line best) :
    IsBestBefore ((ofLines lines lines).shares (wholeSpan lines)) (line + 1)
      (bestOf line best ((ofLines lines lines).rowAt (wholeSpan lines) line)) := by
  have shares_line (place : Nat) :
      (ofLines lines lines).shares (wholeSpan lines) line place =
        ((ofLines lines lines).placesIn (wholeSpan lines) line).contains place :=
    shares_eq (Nat.zero_le _) isStop
  have short (place : Nat) :
      runLength ((ofLines lines lines).shares (wholeSpan lines)) line place ≤
          runLength ((ofLines lines lines).shares (wholeSpan lines)) line line ∧
        runLength ((ofLines lines lines).shares (wholeSpan lines)) line place ≤
          runLength ((ofLines lines lines).shares (wholeSpan lines)) place place :=
    runLength_le_self fun _ _ => shares_same
  have sorted := pairwise_placesIn lines lines (wholeSpan lines) line
  unfold rowAt
  generalize (ofLines lines lines).shares (wholeSpan lines) = shares at *
  generalize (ofLines lines lines).placesIn (wholeSpan lines) line = places at *
  by_cases lineMem : line ∈ places
  · obtain ⟨front, back, rfl⟩ := List.append_of_mem lineMem
    rw [List.pairwise_append] at sorted
    -- the runs that end before the line in the second list are no longer than the best one so far
    have isFront : bestOf line best
        (front.map fun place => (place, runLength shares line place)) = best := by
      refine bestOf_eq_self fun run runMem => ?_
      obtain ⟨place, placeMem, rfl⟩ := List.mem_map.mp runMem
      exact (short place).2.trans
        (isBest.longest place (sorted.2.2 place placeMem line List.mem_cons_self))
    have aligned : IsBestBefore shares (line + 1)
        (bestOf line best [(line, runLength shares line line)]) := by
      simp only [bestOf, List.foldl_cons, List.foldl_nil]
      split
      · rename_i isLonger
        exact isBest.next rfl isLonger.le le_rfl
      · rename_i isShort
        exact isBest.next isBest.aligned le_rfl (Nat.le_of_not_lt isShort)
    have isBack : bestOf line (bestOf line best [(line, runLength shares line line)])
        (back.map fun place => (place, runLength shares line place)) =
          bestOf line best [(line, runLength shares line line)] := by
      refine bestOf_eq_self fun run runMem => ?_
      obtain ⟨place, -, rfl⟩ := List.mem_map.mp runMem
      exact (short place).1.trans (aligned.longest line (Nat.lt_succ_self line))
    have isWhole : bestOf line best
        ((front ++ line :: back).map fun place => (place, runLength shares line place)) =
          bestOf line best [(line, runLength shares line line)] := by
      rw [← isBack, List.map_append, List.map_cons]
      nth_rewrite 2 [← isFront]
      simp only [bestOf, List.foldl_append, List.foldl_cons, List.foldl_nil]
    rwa [isWhole]
  · -- a line that is not at its own place is at no place
    have isEmpty : runLength shares line line = 0 :=
      runLength_eq_zero (by simpa [lineMem] using shares_line line)
    have areShort : ∀ run ∈ places.map fun place => (place, runLength shares line place),
        run.2 ≤ best.size := by
      intro run runMem
      obtain ⟨place, -, rfl⟩ := List.mem_map.mp runMem
      exact (short place).1.trans (isEmpty ▸ Nat.zero_le _)
    rw [bestOf_eq_self areShort]
    exact isBest.next isBest.aligned le_rfl (isEmpty ▸ Nat.zero_le _)

theorem aligned_longestFrom (lines : List String) :
    (longestFrom (ofLines lines lines) (wholeSpan lines) lines.length [] ⟨0, 0, 0⟩).first =
      (longestFrom (ofLines lines lines) (wholeSpan lines) lines.length [] ⟨0, 0, 0⟩).second := by
  set row := (ofLines lines lines).rowAt (wholeSpan lines)
  have isBest (count : Nat) (isShort : count ≤ lines.length) :
      IsBestBefore ((ofLines lines lines).shares (wholeSpan lines)) count
        ((List.range' 0 count).foldl (fun best line => bestOf line best (row line))
          ⟨0, 0, 0⟩) := by
    induction count with
    | zero => exact ⟨rfl, fun former isFormer => absurd isFormer (Nat.not_lt_zero former)⟩
    | succ count ih =>
        rw [List.range'_concat, List.foldl_append, Nat.one_mul, Nat.zero_add]
        exact isBestBefore_bestOf isShort (ih (Nat.le_of_succ_le isShort))
  have isLongest : longestFrom (ofLines lines lines) (wholeSpan lines) lines.length [] ⟨0, 0, 0⟩ =
      (List.range' 0 lines.length).foldl (fun best line => bestOf line best (row line))
        ⟨0, 0, 0⟩ :=
    longestFrom_eq (Nat.zero_le _) _
  rw [isLongest]
  exact (isBest lines.length le_rfl).aligned

theorem agrees_same {index : Nat} (isInside : index < lines.length) :
    (ofLines lines lines).agrees index index = true := by
  simp [agrees, ofLines, isInside]

theorem extendBack_same {fuel start size : Nat} (isStart : start ≤ fuel)
    (isInside : start ≤ lines.length) :
    extendBack (ofLines lines lines) (wholeSpan lines) fuel ⟨start, start, size⟩ =
      ⟨0, 0, size + start⟩ := by
  induction fuel generalizing start size with
  | zero =>
      obtain rfl := Nat.le_zero.mp isStart
      rfl
  | succ fuel ih =>
      rw [extendBack]
      cases start with
      | zero => simp [wholeSpan]
      | succ start =>
          have goesOn : (ofLines lines lines).agrees start start = true := agrees_same isInside
          rw [if_pos (by simpa [wholeSpan] using goesOn)]
          dsimp only
          rw [Nat.add_sub_cancel, ih (by omega) (by omega)]
          congr 1
          omega

theorem extendForth_same {fuel size : Nat} (isStop : lines.length ≤ size + fuel)
    (isInside : size ≤ lines.length) :
    extendForth (ofLines lines lines) (wholeSpan lines) fuel ⟨0, 0, size⟩ =
      ⟨0, 0, lines.length⟩ := by
  induction fuel generalizing size with
  | zero =>
      obtain rfl : size = lines.length := by omega
      rfl
  | succ fuel ih =>
      rw [extendForth]
      by_cases isShort : size < lines.length
      · have goesOn := agrees_same isShort
        rw [if_pos (by simpa [wholeSpan, isShort] using goesOn)]
        dsimp only
        exact ih (by omega) isShort
      · obtain rfl : size = lines.length := by omega
        rw [if_neg (by simp [wholeSpan])]

theorem longest_same (lines : List String) :
    (ofLines lines lines).longest (wholeSpan lines) = ⟨0, 0, lines.length⟩ := by
  have isCommon : (ofLines lines lines).IsCommon (wholeSpan lines)
      (longestFrom (ofLines lines lines) (wholeSpan lines) lines.length [] ⟨0, 0, 0⟩) :=
    isCommon_longestFrom (isFaithful_ofLines lines lines) (Nat.zero_le _) (Nat.zero_le _)
  have aligned := aligned_longestFrom lines
  have isLongest : (ofLines lines lines).longest (wholeSpan lines) =
      extendForth (ofLines lines lines) (wholeSpan lines) lines.length
        (extendBack (ofLines lines lines) (wholeSpan lines) lines.length
          (longestFrom (ofLines lines lines) (wholeSpan lines) lines.length [] ⟨0, 0, 0⟩)) := rfl
  rw [isLongest]
  generalize longestFrom (ofLines lines lines) (wholeSpan lines) lines.length [] ⟨0, 0, 0⟩ =
    block at isCommon aligned ⊢
  obtain ⟨start, other, size⟩ := block
  obtain rfl : start = other := aligned
  have isStop : start + size ≤ lines.length := isCommon.stop
  rw [extendBack_same (by omega) (by omega), extendForth_same (by omega) (by omega)]

/-- Two equal lists share a single block. -/
theorem blocks_same (lines : List String) :
    (ofLines lines lines).blocks = if lines = [] then [] else [⟨0, 0, lines.length⟩] := by
  have isWhole : (⟨0, (ofLines lines lines).first.size, 0,
      (ofLines lines lines).second.size⟩ : Span) = wholeSpan lines := by
    simp [ofLines, wholeSpan]
  rw [blocks, isWhole, blocksIn, longest_same]
  cases lines with
  | nil => rfl
  | cons line lines =>
      have noneBefore (fuel : Nat) : (ofLines (line :: lines) (line :: lines)).blocksIn fuel
          { wholeSpan (line :: lines) with firstStop := 0, secondStop := 0 } = [] := by
        cases fuel <;> simp [blocksIn, wholeSpan]
      have noneBehind (fuel : Nat) : (ofLines (line :: lines) (line :: lines)).blocksIn fuel
          { wholeSpan (line :: lines) with
            first := 0 + (line :: lines).length
            second := 0 + (line :: lines).length } = [] := by
        cases fuel <;> simp [blocksIn, wholeSpan]
      dsimp only
      rw [noneBefore, noneBehind]
      simp [wholeSpan, joined]

end Same

end Comparison

end Phrasebook.Difference
