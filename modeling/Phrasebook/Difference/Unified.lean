import Phrasebook.Difference.Block
import Phrasebook.Text.Lines

/-!
# Differences of texts

The difference of two texts shows the lines that are taken out and the lines
that are put in, with a few of the lines around them.
-/

namespace Phrasebook.Difference

/-- A part of two lists that they share, or that stands in one for what stands in the other. -/
structure Step where
  isShared : Bool
  span : Span
deriving DecidableEq, Repr

/-- The number of lines shown before and behind a change. -/
def context : Nat :=
  3

/-- The steps from the end of the last block on, with the sizes of the two lists. -/
def stepsFrom (first second : Nat) (size otherSize : Nat) : List Block → List Step
  | [] =>
    if first < size || second < otherSize then [⟨false, ⟨first, size, second, otherSize⟩⟩] else []
  | block :: blocks =>
    let change := ⟨false, ⟨first, block.first, second, block.second⟩⟩
    let shared :=
      ⟨true, ⟨block.first, block.first + block.size, block.second, block.second + block.size⟩⟩
    let rest := shared :: stepsFrom (block.first + block.size) (block.second + block.size) size
      otherSize blocks
    if first < block.first || second < block.second then change :: rest else rest

/-- The last lines of a shared step. -/
def Step.ending (step : Step) : Step :=
  if !step.isShared then step
  else
    { step with span := { step.span with
        first := max step.span.first (step.span.firstStop - context)
        second := max step.span.second (step.span.secondStop - context) } }

/-- The first lines of a shared step. -/
def Step.beginning (step : Step) : Step :=
  if !step.isShared then step
  else
    { step with span := { step.span with
        firstStop := min step.span.firstStop (step.span.first + context)
        secondStop := min step.span.secondStop (step.span.second + context) } }

/-- The steps with only the lines around the first and the last change. -/
def trimmed (steps : List Step) : List Step :=
  let steps := match steps with
    | step :: others => step.ending :: others
    | [] => []
  match steps.reverse with
  | step :: others => (step.beginning :: others).reverse
  | [] => []

/-- Groups of steps, parted where many lines are shared; the first one follows the given steps. -/
def grouped (group : List Step) : List Step → List (List Step)
  | [] => [group]
  | step :: steps =>
    if step.isShared && 2 * context < step.span.firstStop - step.span.first then
      (group ++ [step.beginning]) :: grouped [step.ending] steps
    else grouped (group ++ [step]) steps

def hasChange (group : List Step) : Bool :=
  match group with
  | [] => false
  | [step] => !step.isShared
  | _ => true

/-- The lines from a start to a stop, as a heading shows them. -/
def rangeText (start stop : Nat) : String :=
  let length := stop - start
  if length == 1 then toString (start + 1)
  else toString (if length == 0 then start else start + 1) ++ "," ++ toString length

/-- Lines from a start to a stop, each with a mark in front of it. -/
def marked (mark : String) (lines : List String) (start stop : Nat) : String :=
  String.join (((lines.drop start).take (stop - start)).map (mark ++ ·))

def Step.written (first second : List String) (step : Step) : String :=
  let span := step.span
  if step.isShared then marked " " first span.first span.firstStop
  else
    marked "-" first span.first span.firstStop ++ marked "+" second span.second span.secondStop

def groupText (first second : List String) (group : List Step) : String :=
  match group.head?, group.getLast? with
  | some start, some stop =>
    "@@ -" ++ rangeText start.span.first stop.span.firstStop ++ " +" ++
      rangeText start.span.second stop.span.secondStop ++ " @@\n" ++
      String.join (group.map (Step.written first second))
  | _, _ => ""

/-- The difference of two texts under a name; equal texts have none. -/
def unified (name before after : String) : String :=
  let first := (Text.wholeLines before.toList).map String.ofList
  let second := (Text.wholeLines after.toList).map String.ofList
  let steps := stepsFrom 0 0 first.length second.length (Comparison.ofLines first second).blocks
  let groups := (grouped [] (trimmed steps)).filter hasChange
  if groups.isEmpty then ""
  else
    "--- " ++ name ++ " (original)\n+++ " ++ name ++ " (updated)\n" ++
      String.join (groups.map (groupText first second))

end Phrasebook.Difference
