/-!
# Common blocks

Two lists of lines are compared by the blocks of lines that they share.  The
longest block comes first, and the lines before it and behind it are compared
in the same way.  Lines that are frequent in a long list do not start a block.
-/

namespace Phrasebook.Difference

/-- Lines that two lists share: where they start in each list, and how many they are. -/
structure Block where
  first : Nat
  second : Nat
  size : Nat
deriving DecidableEq, Repr, Inhabited

/-- A part of two lists: where it starts and where it stops in each of them. -/
structure Span where
  first : Nat
  firstStop : Nat
  second : Nat
  secondStop : Nat
deriving DecidableEq, Repr, Inhabited

/-- Two lists of lines, and the places in the second list of every line of the first one. -/
structure Comparison where
  first : Array String
  second : Array String
  places : Array (List Nat)

namespace Comparison

/-- The number of lines from which on frequent lines are left out. -/
def longLength : Nat :=
  200

/-- The places of a line in a list, unless it is frequent there. -/
def placesOf (lines : Array String) (line : String) : List Nat :=
  let places := (List.range lines.size).filter fun index => lines[index]? == some line
  if longLength ≤ lines.size && lines.size / 100 + 1 < places.length then [] else places

def ofLines (first second : List String) : Comparison :=
  let second := second.toArray
  { first := first.toArray
    second
    places := (first.map (placesOf second)).toArray }

/-- The lengths of the runs of shared lines that end at the places of a line, from those of the
line before. -/
def runsAt (places : List Nat) (before : List (Nat × Nat)) : List (Nat × Nat) :=
  places.map fun place =>
    (place, (match place with
      | 0 => 0
      | previous + 1 => (before.lookup previous).getD 0) + 1)

/-- The longer of the best block and the blocks of some runs that end at a line; the earlier one of
two that are equally long. -/
def bestOf (line : Nat) (best : Block) (runs : List (Nat × Nat)) : Block :=
  runs.foldl
    (fun best (place, size) =>
      if best.size < size then ⟨line + 1 - size, place + 1 - size, size⟩ else best)
    best

/-- The longest block from a number of lines of the first list on. -/
def longestFrom (comparison : Comparison) (span : Span) :
    Nat → List (Nat × Nat) → Block → Block
  | 0, _, best => best
  | count + 1, before, best =>
    let line := span.firstStop - (count + 1)
    let places := (comparison.places[line]?.getD []).filter fun place =>
      span.second ≤ place && place < span.secondStop
    let runs := runsAt places before
    longestFrom comparison span count runs (bestOf line best runs)

/-- Whether both lists have the same line at two places. -/
def agrees (comparison : Comparison) (first second : Nat) : Bool :=
  match comparison.first[first]?, comparison.second[second]? with
  | some line, some other => line == other
  | _, _ => false

/-- A block with the shared lines right before it. -/
def extendBack (comparison : Comparison) (span : Span) : Nat → Block → Block
  | 0, block => block
  | fuel + 1, block =>
    if span.first < block.first && span.second < block.second &&
        comparison.agrees (block.first - 1) (block.second - 1) then
      extendBack comparison span fuel ⟨block.first - 1, block.second - 1, block.size + 1⟩
    else block

/-- A block with the shared lines right behind it. -/
def extendForth (comparison : Comparison) (span : Span) : Nat → Block → Block
  | 0, block => block
  | fuel + 1, block =>
    if block.first + block.size < span.firstStop && block.second + block.size < span.secondStop &&
        comparison.agrees (block.first + block.size) (block.second + block.size) then
      extendForth comparison span fuel { block with size := block.size + 1 }
    else block

def longest (comparison : Comparison) (span : Span) : Block :=
  let length := span.firstStop - span.first
  let best := longestFrom comparison span length [] ⟨span.first, span.second, 0⟩
  extendForth comparison span length (extendBack comparison span length best)

/-- The blocks in a span, in order. -/
def blocksIn (comparison : Comparison) : Nat → Span → List Block
  | 0, _ => []
  | fuel + 1, span =>
    if span.first < span.firstStop && span.second < span.secondStop then
      let block := comparison.longest span
      if block.size == 0 then []
      else
        let before := { span with firstStop := block.first, secondStop := block.second }
        let behind := { span with
          first := block.first + block.size, second := block.second + block.size }
        blocksIn comparison fuel before ++ block :: blocksIn comparison fuel behind
    else []

def joined : List Block → List Block
  | [] => []
  | block :: blocks =>
    match joined blocks with
    | next :: others =>
      if block.first + block.size == next.first && block.second + block.size == next.second then
        { block with size := block.size + next.size } :: others
      else block :: next :: others
    | [] => [block]

/-- The blocks that two lists share, in order. -/
def blocks (comparison : Comparison) : List Block :=
  joined (comparison.blocksIn (comparison.first.size + 1)
    ⟨0, comparison.first.size, 0, comparison.second.size⟩)

end Comparison

end Phrasebook.Difference
