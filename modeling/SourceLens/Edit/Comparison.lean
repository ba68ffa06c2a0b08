import SourceLens.Edit.Frontier
import SourceLens.Edit.Script

/-!
# Comparing texts

`Comparison.script` finds a short edit script between two texts in two stages.

The first stage divides and conquers.  Common ends of the two windows are kept; of what remains, a
search from both corners over the diagonals finds a point where the two searches meet, and each side
of that point is compared on its own.  The frontiers of the search are handed from one window to
the next and are not cleared in between.

The second stage shifts removals, and then additions, up and down past what is kept, so that
changes that can be joined are joined.  A step that passes another one keeps the offsets it had.
-/

namespace SourceLens

/-- What a step of a raw script does. -/
inductive StepKind where
  | keep
  | remove
  | add
  deriving DecidableEq, Repr

/-- A run of characters that are treated alike. -/
structure Step where
  kind : StepKind
  /-- Offset in the old text. -/
  old : Nat
  /-- Offset in the new text. -/
  new : Nat
  length : Nat
  deriving DecidableEq, Repr

/-- A range of each text. -/
structure Window where
  /-- First character of the old range. -/
  oldStart : Nat
  /-- Character after the old range. -/
  oldStop : Nat
  /-- First character of the new range. -/
  newStart : Nat
  /-- Character after the new range. -/
  newStop : Nat
  deriving DecidableEq, Repr

namespace Comparison

/-- Whether both texts have a character at their offset, and the same one. -/
def agree (old new : Array Char) (oldOffset newOffset : Nat) : Bool :=
  match old[oldOffset]?, new[newOffset]? with
  | some left, some right => left == right
  | _, _ => false

/-- The length of the common beginning of a window's ranges. -/
def commonStart (old new : Array Char) (window : Window) : Nat :=
  count 0 (min (window.oldStop - window.oldStart) (window.newStop - window.newStart))
where
  /-- Counts on from `found` agreeing characters, at most `room` more. -/
  count (found : Nat) : Nat → Nat
    | 0 => found
    | room + 1 =>
        if agree old new (window.oldStart + found) (window.newStart + found) then
          count (found + 1) room
        else found

/-- The length of the common end of a window's ranges. -/
def commonStop (old new : Array Char) (window : Window) : Nat :=
  count 0 (min (window.oldStop - window.oldStart) (window.newStop - window.newStart))
where
  /-- Counts on from `found` agreeing characters, at most `room` more. -/
  count (found : Nat) : Nat → Nat
    | 0 => found
    | room + 1 =>
        if agree old new (window.oldStop - found - 1) (window.newStop - found - 1) then
          count (found + 1) room
        else found

/-- The frontiers of the search from the start and from the end. -/
structure Frontiers where
  /-- From the start of the window. -/
  forward : Frontier
  /-- From the end of the window. -/
  backward : Frontier

/-- The diagonals that a search of the given depth looks at, from the largest down. -/
def diagonals (depth : Nat) : List Int :=
  (List.range (depth + 1)).map fun (index : Nat) => (depth : Int) - 2 * index

/-- Where the search on a diagonal sets out, given the frontier of the previous depth. -/
def setOut (frontier : Frontier) (depth : Nat) (diagonal : Int) : Nat :=
  if diagonal = -depth ∨
      (diagonal ≠ depth ∧ frontier.get (diagonal - 1) < frontier.get (diagonal + 1)) then
    frontier.get (diagonal + 1)
  else frontier.get (diagonal - 1) + 1

/-- Advances the search from the start on each diagonal, until it meets the other one. -/
def advance (old new : Array Char) (window : Window) (depth : Nat) (backward : Frontier) :
    List Int → Frontier → Frontier × Option (Nat × Nat)
  | [], forward => (forward, none)
  | diagonal :: diagonals, forward =>
      let width := window.oldStop - window.oldStart
      let height := window.newStop - window.newStart
      let delta : Int := (width : Int) - height
      let column := setOut forward depth diagonal
      let row := ((column : Int) - diagonal).toNat
      let reached :=
        if column < width ∧ row < height then
          column + commonStart old new
            { window with oldStart := window.oldStart + column, newStart := window.newStart + row }
        else column
      let forward := forward.set diagonal reached
      if delta % 2 ≠ 0 ∧ (diagonal - delta).natAbs + 1 ≤ depth ∧
          width ≤ reached + backward.get (delta - diagonal) then
        (forward, some (window.oldStart + column, window.newStart + row))
      else advance old new window depth backward diagonals forward

/-- Advances the search from the end on each diagonal, until it meets the other one. -/
def retreat (old new : Array Char) (window : Window) (depth : Nat) (forward : Frontier) :
    List Int → Frontier → Frontier × Option (Nat × Nat)
  | [], backward => (backward, none)
  | diagonal :: diagonals, backward =>
      let width := window.oldStop - window.oldStart
      let height := window.newStop - window.newStart
      let delta : Int := (width : Int) - height
      let column := setOut backward depth diagonal
      let row := ((column : Int) - diagonal).toNat
      let matched :=
        if column < width ∧ row < height then
          commonStop old new
            { window with oldStop := window.oldStop - column, newStop := window.newStop - row }
        else 0
      let column := column + matched
      let row := row + matched
      let backward := backward.set diagonal column
      if delta % 2 = 0 ∧ (diagonal - delta).natAbs ≤ depth ∧
          width ≤ column + forward.get (delta - diagonal) then
        (backward, some (window.oldStop - column, window.newStop - row))
      else retreat old new window depth forward diagonals backward

/-- Deepens both searches over a list of depths, until they meet. -/
def meet (old new : Array Char) (window : Window) :
    List Nat → Frontiers → Frontiers × Option (Nat × Nat)
  | [], frontiers => (frontiers, none)
  | depth :: depths, frontiers =>
      let (forward, met) :=
        advance old new window depth frontiers.backward (diagonals depth) frontiers.forward
      match met with
      | some point => (⟨forward, frontiers.backward⟩, some point)
      | none =>
          let (backward, met) :=
            retreat old new window depth forward (diagonals depth) frontiers.backward
          match met with
          | some point => (⟨forward, backward⟩, some point)
          | none => meet old new window depths ⟨forward, backward⟩

/-- The point of a window at which the two searches meet. -/
def middle (old new : Array Char) (window : Window) (frontiers : Frontiers) :
    Frontiers × Option (Nat × Nat) :=
  let size := (window.oldStop - window.oldStart) + (window.newStop - window.newStart)
  meet old new window (List.range ((size + 1) / 2 + 1))
    ⟨frontiers.forward.set 1 0, frontiers.backward.set 1 0⟩

/-- A step, unless it is of no length. -/
def stepIf (kind : StepKind) (old new length : Nat) : List Step :=
  if length = 0 then [] else [⟨kind, old, new, length⟩]

/-- The raw script of a window.  The first argument bounds the depth of the division, and exceeds
the number of characters in the window. -/
def divide (old new : Array Char) : Nat → Window → Frontiers → List Step × Frontiers
  | 0, _, frontiers => ([], frontiers)
  | bound + 1, window, frontiers =>
      let start := commonStart old new window
      let opening := stepIf .keep window.oldStart window.newStart start
      let inner : Window :=
        { window with
          oldStart := window.oldStart + start
          newStart := window.newStart + start }
      let stop := commonStop old new inner
      let inner : Window :=
        { inner with oldStop := inner.oldStop - stop, newStop := inner.newStop - stop }
      let closing := stepIf .keep inner.oldStop inner.newStop stop
      let removal := stepIf .remove inner.oldStart inner.newStart (inner.oldStop - inner.oldStart)
      let addition := stepIf .add inner.oldStart inner.newStart (inner.newStop - inner.newStart)
      if inner.newStart = inner.newStop ∨ inner.oldStart = inner.oldStop then
        (opening ++ removal ++ addition ++ closing, frontiers)
      else
        match middle old new inner frontiers with
        | (frontiers, none) => (opening ++ removal ++ addition ++ closing, frontiers)
        | (frontiers, some (column, row)) =>
            let (left, frontiers) :=
              divide old new bound { inner with oldStop := column, newStop := row } frontiers
            let (right, frontiers) :=
              divide old new bound { inner with oldStart := column, newStart := row } frontiers
            (opening ++ left ++ right ++ closing, frontiers)

/-- A step of a script, with the steps before it in reverse and the steps after it. -/
structure Focus where
  /-- The steps before, the nearest first. -/
  above : List Step
  /-- The step looked at. -/
  step : Step
  /-- The steps after. -/
  below : List Step

/-- How far an addition can move up into what is kept before it. -/
def slackAbove (old new : Array Char) (kept step : Step) : Nat :=
  if step.kind = .add then
    commonStop old new ⟨kept.old, kept.old + kept.length, step.new, step.new + step.length⟩
  else 0

/-- How far an addition can move down into what is kept after it. -/
def slackBelow (old new : Array Char) (kept step : Step) : Nat :=
  if step.kind = .add then
    commonStart old new ⟨kept.old, kept.old + kept.length, step.new, step.new + step.length⟩
  else 0

/-- What is kept after a step that has moved up by some characters. -/
def keepBelow (kept step : Step) (moved : Nat) : List Step → List Step
  | next :: below =>
      if next.kind = .keep then
        { next with
          old := next.old - moved
          new := next.new - moved
          length := next.length + moved } :: below
      else
        ⟨.keep, kept.old + kept.length - moved, step.new + step.length - moved, moved⟩ ::
          next :: below
  | [] => [⟨.keep, kept.old + kept.length - moved, step.new + step.length - moved, moved⟩]

/-- What is kept before a step that has moved down by some characters. -/
def keepAbove (kept step : Step) (moved : Nat) : List Step → List Step
  | previous :: above =>
      if previous.kind = .keep then { previous with length := previous.length + moved } :: above
      else ⟨.keep, kept.old, step.new, moved⟩ :: previous :: above
  | [] => [⟨.keep, kept.old, step.new, moved⟩]

/-- Moves a step up as far as it goes. -/
def shiftUp (old new : Array Char) (above : List Step) (step : Step) (below : List Step) : Focus :=
  match above with
  | [] => ⟨[], step, below⟩
  | previous :: rest =>
      if previous.kind = .keep then
        let moved := slackAbove old new previous step
        if 0 < moved then
          let below := keepBelow previous step moved below
          let step := { step with old := step.old - moved, new := step.new - moved }
          if moved < previous.length then
            shiftUp old new ({ previous with length := previous.length - moved } :: rest) step below
          else shiftUp old new rest step below
        else if previous.length = 0 then shiftUp old new rest step below
        else ⟨previous :: rest, step, below⟩
      else if previous.kind ≠ step.kind then shiftUp old new rest step (previous :: below)
      else shiftUp old new rest { previous with length := previous.length + step.length } below
termination_by (above.length, (above.head?.map Step.length).getD 0)

/-- Moves a step down as far as it goes. -/
def shiftDown (old new : Array Char) (above : List Step) (step : Step) (below : List Step) :
    Focus :=
  match below with
  | [] => ⟨above, step, []⟩
  | next :: rest =>
      if next.kind = .keep then
        let moved := slackBelow old new next step
        if 0 < moved then
          let above := keepAbove next step moved above
          let step := { step with old := step.old + moved, new := step.new + moved }
          if moved < next.length then
            shiftDown old new above step
              ({ next with
                  old := next.old + moved
                  new := next.new + moved
                  length := next.length - moved } :: rest)
          else shiftDown old new above step rest
        else if next.length = 0 then shiftDown old new above step rest
        else ⟨above, step, next :: rest⟩
      else if next.kind ≠ step.kind then shiftDown old new (next :: above) step rest
      else shiftDown old new above { step with length := step.length + next.length } rest
termination_by (below.length, (below.head?.map Step.length).getD 0)

/-- Shifts every step of one kind, from the front of the script to its end.  The first argument
bounds the number of steps looked at; the steps before are given in reverse. -/
def shiftAll (old new : Array Char) (kind : StepKind) : Nat → List Step → List Step → List Step
  | _, above, [] => above.reverse
  | 0, above, below => above.reverse ++ below
  | bound + 1, above, step :: below =>
      if step.kind = kind then
        let raised := shiftUp old new above step below
        let settled := shiftDown old new raised.above raised.step raised.below
        shiftAll old new kind bound (settled.step :: settled.above) settled.below
      else shiftAll old new kind bound (step :: above) below

/-- Joins a step to the one of the same kind that is pending. -/
def joined (pending : Option Step) (step : Step) : Option Step :=
  some (match pending with
    | none => step
    | some first => { first with length := first.length + step.length })

/-- The operation of the pending removal and addition. -/
def pendingOperation : Option Step → Option Step → List Operation
  | none, none => []
  | some removal, none =>
      [⟨.delete, removal.old, removal.old + removal.length, removal.new, removal.new⟩]
  | none, some addition =>
      [⟨.insert, addition.old, addition.old, addition.new, addition.new + addition.length⟩]
  | some removal, some addition =>
      [⟨.replace, removal.old, removal.old + removal.length, addition.new,
        addition.new + addition.length⟩]

/-- The operations of a raw script: what is removed and added between two kept runs is one
operation. -/
def operations : Option Step → Option Step → List Step → List Operation
  | removal, addition, [] => pendingOperation removal addition
  | removal, addition, step :: steps =>
      match step.kind with
      | .keep =>
          pendingOperation removal addition ++
            ⟨.equal, step.old, step.old + step.length, step.new, step.new + step.length⟩ ::
              operations none none steps
      | .remove => operations (joined removal step) addition steps
      | .add => operations removal (joined addition step) steps

/-- An edit script from an old text to a new one. -/
def script (old new : Array Char) : List Operation :=
  let size := old.size + new.size
  let reach := size / 2 + 3
  let (raw, _) :=
    divide old new (size + 1) ⟨0, old.size, 0, new.size⟩ ⟨.empty reach, .empty reach⟩
  let bound := (size + 1) * (size + 1)
  let shifted := shiftAll old new .remove bound [] raw
  operations none none (shiftAll old new .add bound [] shifted)

end Comparison

/-- The edits that `Comparison.script` finds between two texts, none for equal texts. -/
def Edit.between? (old new : List Char) : Option (List Edit) :=
  if old = new then some []
  else Edit.ofScript? old new (Comparison.script old.toArray new.toArray)

end SourceLens
