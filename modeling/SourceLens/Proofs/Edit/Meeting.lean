import SourceLens.Proofs.Edit.CommonEnds
import SourceLens.Proofs.Edit.Sweep

/-!
# Where the searches meet

The two searches of a comparison can run past the ends of their window.  The point at which they meet
still lies inside it: a search that has run past an end stood on the end one depth before, and there
the test for a meeting had to succeed.  The point is not a corner of the window either, so that both
of its sides are smaller than the window.
-/

namespace SourceLens.Comparison

variable {width height depth : Nat} {frontier : Frontier} {diagonal : Int}

/-- A diagonal sets out from one of its neighbours of the depth before, and behind none of them. -/
theorem setOut_cases (frontier : Frontier) (onRow : OnRow (depth + 1) diagonal) :
    (OnRow depth (diagonal - 1) →
      frontier.get (diagonal - 1) + 1 ≤ setOut frontier (depth + 1) diagonal) ∧
    (OnRow depth (diagonal + 1) →
      frontier.get (diagonal + 1) ≤ setOut frontier (depth + 1) diagonal) ∧
    (OnRow depth (diagonal - 1) ∧
        setOut frontier (depth + 1) diagonal = frontier.get (diagonal - 1) + 1 ∨
      OnRow depth (diagonal + 1) ∧
        setOut frontier (depth + 1) diagonal = frontier.get (diagonal + 1)) := by
  unfold OnRow at *
  unfold setOut
  split
  · refine ⟨?_, ?_, .inr ⟨?_, rfl⟩⟩ <;> omega
  · refine ⟨?_, ?_, .inl ⟨?_, rfl⟩⟩ <;> omega

/-- How the positions of a depth compare with those of the depth before. -/
structure Climbed (width height depth : Nat) (frontier : Frontier) : Prop where
  low : ∀ diagonal, OnRow depth diagonal → diagonal ≤ frontier.get diagonal
  right : ∀ diagonal, OnRow (depth + 1) diagonal → OnRow depth (diagonal - 1) →
    frontier.get (diagonal - 1) + 1 ≤ frontier.get diagonal
  down : ∀ diagonal, OnRow (depth + 1) diagonal → OnRow depth (diagonal + 1) →
    frontier.get (diagonal + 1) ≤ frontier.get diagonal
  pastWidth : ∀ diagonal, OnRow (depth + 1) diagonal → width < frontier.get diagonal →
    OnRow depth (diagonal - 1) ∧ width ≤ frontier.get (diagonal - 1)
  pastHeight : ∀ diagonal, OnRow (depth + 1) diagonal →
    height + diagonal < frontier.get diagonal →
      OnRow depth (diagonal + 1) ∧ height + (diagonal + 1) ≤ frontier.get (diagonal + 1)

/-- What is known of the positions of a depth once all of its diagonals have been swept. -/
structure Explored (width height depth : Nat) (frontier : Frontier) : Prop where
  low : ∀ diagonal, OnRow depth diagonal → diagonal ≤ frontier.get diagonal
  moves : ∀ diagonal, OnRow depth diagonal → depth + diagonal ≤ 2 * frontier.get diagonal
  wide : ∀ diagonal, OnRow depth diagonal →
    2 * (frontier.get diagonal : Int) ≤ 2 * width + depth + diagonal
  high : ∀ diagonal, OnRow depth diagonal →
    2 * (frontier.get diagonal : Int) ≤ 2 * height + depth + diagonal
  before : ∀ previous, depth = previous + 1 → Climbed width height previous frontier

/-- What is known of a single diagonal of the next depth: where it sets out and what it reaches. -/
structure Cell (width height depth : Nat) (frontier : Frontier) (diagonal : Int)
    (start reached : Nat) : Prop where
  low : diagonal ≤ start
  moves : (depth : Int) + 1 + diagonal ≤ 2 * start
  wide : 2 * (reached : Int) ≤ 2 * width + (depth + 1) + diagonal
  high : 2 * (reached : Int) ≤ 2 * height + (depth + 1) + diagonal
  right : OnRow depth (diagonal - 1) → frontier.get (diagonal - 1) + 1 ≤ start
  down : OnRow depth (diagonal + 1) → frontier.get (diagonal + 1) ≤ start
  pastWidth : width < reached → OnRow depth (diagonal - 1) ∧ width ≤ frontier.get (diagonal - 1)
  pastHeight : height + diagonal < reached →
    OnRow depth (diagonal + 1) ∧ height + (diagonal + 1) ≤ frontier.get (diagonal + 1)

theorem Explored.cell (explored : Explored width height depth frontier)
    (onRow : OnRow (depth + 1) diagonal) {agreeing : Nat}
    (inside : agreeing = 0 ∨ setOut frontier (depth + 1) diagonal + agreeing ≤ width ∧
      (setOut frontier (depth + 1) diagonal + agreeing : Int) ≤ height + diagonal) :
    Cell width height depth frontier diagonal (setOut frontier (depth + 1) diagonal)
      (setOut frontier (depth + 1) diagonal + agreeing) := by
  rcases setOut_cases frontier onRow with ⟨right, down, neighbour⟩
  generalize setOut frontier (depth + 1) diagonal = start at *
  have fromBelow : -((depth : Int) + 1) ≤ diagonal := onRow.1
  have toAbove : diagonal ≤ (depth : Int) + 1 := onRow.2.1
  rcases neighbour with ⟨onRow', startEq⟩ | ⟨onRow', startEq⟩
  · have low := explored.low _ onRow'
    have moves := explored.moves _ onRow'
    have wide := explored.wide _ onRow'
    have high := explored.high _ onRow'
    refine ⟨by omega, by omega, by omega, by omega, right, down, ?_, ?_⟩
    · intro past
      exact ⟨onRow', by omega⟩
    · intro past
      -- The neighbour has run past the end already, so it climbed there from this diagonal.
      have pastBefore : height + (diagonal - 1) < frontier.get (diagonal - 1) := by omega
      cases depth with
      | zero =>
          unfold OnRow at onRow'
          omega
      | succ previous =>
          have climbed := explored.before previous rfl
          rcases climbed.pastHeight _ onRow' pastBefore with ⟨onRow'', reached⟩
          rw [Int.sub_add_cancel] at onRow'' reached
          have above : OnRow (previous + 1) (diagonal + 1) := by
            unfold OnRow at *
            omega
          have risen := climbed.right (diagonal + 1) above (by rwa [Int.add_sub_cancel])
          rw [Int.add_sub_cancel] at risen
          exact ⟨above, by omega⟩
  · have low := explored.low _ onRow'
    have moves := explored.moves _ onRow'
    have wide := explored.wide _ onRow'
    have high := explored.high _ onRow'
    refine ⟨by omega, by omega, by omega, by omega, right, down, ?_, ?_⟩
    · intro past
      have pastBefore : width < frontier.get (diagonal + 1) := by omega
      cases depth with
      | zero =>
          unfold OnRow at onRow'
          omega
      | succ previous =>
          have climbed := explored.before previous rfl
          rcases climbed.pastWidth _ onRow' pastBefore with ⟨onRow'', reached⟩
          rw [Int.add_sub_cancel] at onRow'' reached
          have below : OnRow (previous + 1) (diagonal - 1) := by
            unfold OnRow at *
            omega
          have risen := climbed.down (diagonal - 1) below (by rwa [Int.sub_add_cancel])
          rw [Int.sub_add_cancel] at risen
          exact ⟨below, by omega⟩
    · intro past
      exact ⟨onRow', by omega⟩

theorem Explored.next (explored : Explored width height depth frontier) {after : Frontier}
    (same : ∀ diagonal, OnRow depth diagonal → after.get diagonal = frontier.get diagonal)
    (cell : ∀ diagonal, OnRow (depth + 1) diagonal → ∃ start ≤ after.get diagonal,
      Cell width height depth frontier diagonal start (after.get diagonal)) :
    Explored width height (depth + 1) after := by
  refine ⟨?_, ?_, ?_, ?_, ?_⟩
  · intro diagonal onRow
    rcases cell diagonal onRow with ⟨start, atMost, cell⟩
    have low := cell.low
    omega
  · intro diagonal onRow
    rcases cell diagonal onRow with ⟨start, atMost, cell⟩
    have moves := cell.moves
    omega
  · intro diagonal onRow
    rcases cell diagonal onRow with ⟨start, atMost, cell⟩
    have wide := cell.wide
    omega
  · intro diagonal onRow
    rcases cell diagonal onRow with ⟨start, atMost, cell⟩
    have high := cell.high
    omega
  · intro previous isPrevious
    cases isPrevious
    refine ⟨?_, ?_, ?_, ?_, ?_⟩
    · intro diagonal onRow
      rw [same diagonal onRow]
      exact explored.low diagonal onRow
    · intro diagonal onRow onRow'
      rcases cell diagonal onRow with ⟨start, atMost, cell⟩
      rw [same _ onRow']
      exact Nat.le_trans (cell.right onRow') atMost
    · intro diagonal onRow onRow'
      rcases cell diagonal onRow with ⟨start, atMost, cell⟩
      rw [same _ onRow']
      exact Nat.le_trans (cell.down onRow') atMost
    · intro diagonal onRow past
      rcases cell diagonal onRow with ⟨start, atMost, cell⟩
      rcases cell.pastWidth past with ⟨onRow', reached⟩
      exact ⟨onRow', by rwa [same _ onRow']⟩
    · intro diagonal onRow past
      rcases cell diagonal onRow with ⟨start, atMost, cell⟩
      rcases cell.pastHeight past with ⟨onRow', reached⟩
      exact ⟨onRow', by rwa [same _ onRow']⟩

section Meeting

variable {parity : Nat} {this other : Frontier} {start reached : Nat}
  (isParity : ((width : Int) - height) % 2 = parity)
  (unmet : ∀ diagonal, OnRow depth diagonal →
    (diagonal - (width - height)).natAbs + parity ≤ depth →
      this.get diagonal + other.get (width - height - diagonal) < width)
  (otherLow : ∀ diagonal, OnRow depth diagonal →
    (diagonal - (width - height)).natAbs + parity ≤ depth →
      width - height - diagonal ≤ other.get (width - height - diagonal))
include isParity unmet otherLow

/-- A search that has met nothing so far, and is near enough to the other one to meet it now, has not
run past the ends of the window. -/
theorem Cell.inside (cell : Cell width height depth this diagonal start reached)
    (onRow : OnRow (depth + 1) diagonal)
    (near : (diagonal - (width - height)).natAbs + parity ≤ depth + 1) :
    reached ≤ width ∧ (reached : Int) ≤ height + diagonal := by
  have wide := cell.wide
  have high := cell.high
  constructor
  · by_contra past
    rcases cell.pastWidth (by omega) with ⟨onRow', stood⟩
    have missed := unmet _ onRow'
    unfold OnRow at onRow onRow'
    omega
  · by_contra past
    rcases cell.pastHeight (by omega) with ⟨onRow', stood⟩
    have missed := unmet _ onRow'
    have low := otherLow _ onRow'
    unfold OnRow at onRow onRow'
    omega

/-- Such a search does not set out at the far corner of the window. -/
theorem setOut_ne_corner (wide : 0 < width) (high : 0 < height)
    (atZero : depth = 0 → this.get 0 = 0)
    (onRow : OnRow (depth + 1) (width - height)) :
    setOut this (depth + 1) (width - height) ≠ width := by
  intro atCorner
  rcases (setOut_cases this onRow).2.2 with ⟨onRow', startEq⟩ | ⟨onRow', startEq⟩
  · have missed := unmet _ onRow'
    have low := otherLow _ onRow'
    cases depth with
    | zero =>
        have onZero : (width : Int) - height - 1 = 0 := by
          unfold OnRow at onRow'
          omega
        rw [onZero, atZero rfl] at startEq
        omega
    | succ previous =>
        unfold OnRow at onRow
        omega
  · have missed := unmet _ onRow'
    cases depth with
    | zero =>
        have onZero : (width : Int) - height + 1 = 0 := by
          unfold OnRow at onRow'
          omega
        rw [onZero, atZero rfl] at startEq
        omega
    | succ previous =>
        unfold OnRow at onRow
        omega

end Meeting

/-- Whether the characters that agree from a position all lie inside the window. -/
def StaysInside (width height : Nat) (snake : Nat → Int → Nat) : Prop :=
  ∀ (start : Nat) (diagonal : Int), diagonal ≤ start → snake start diagonal = 0 ∨
    start + snake start diagonal ≤ width ∧
      (start + snake start diagonal : Int) ≤ height + diagonal

theorem staysInside_snakeForward (old new : Array Char) (window : Window) :
    StaysInside window.width window.height (snakeForward old new window) := by
  intro start diagonal low
  simp only [snakeForward]
  split
  next inside =>
    right
    have atMost := commonStart_le old new
      { window with
        oldStart := window.oldStart + start
        newStart := window.newStart + ((start : Int) - diagonal).toNat }
    simp only [Window.width, Window.height] at *
    omega
  next => exact .inl rfl

theorem staysInside_snakeBackward (old new : Array Char) (window : Window) :
    StaysInside window.width window.height (snakeBackward old new window) := by
  intro start diagonal low
  simp only [snakeBackward]
  split
  next inside =>
    right
    have atMost := commonStop_le old new
      { window with
        oldStop := window.oldStop - start
        newStop := window.newStop - ((start : Int) - diagonal).toNat }
    simp only [Window.width, Window.height] at *
    omega
  next => exact .inl rfl

theorem agree_of_lt_snakeForward {old new : Array Char} {window : Window} {start index : Nat}
    (before : index < snakeForward old new window start diagonal) :
    agree old new (window.oldStart + start + index)
      (window.newStart + ((start : Int) - diagonal).toNat + index) = true := by
  simp only [snakeForward] at before
  split at before
  next => exact agree_of_lt_commonStart before
  next => exact absurd before (Nat.not_lt_zero index)

theorem agree_of_lt_snakeBackward {old new : Array Char} {window : Window} {start index : Nat}
    (before : index < snakeBackward old new window start diagonal) :
    agree old new (window.oldStop - start - index - 1)
      (window.newStop - ((start : Int) - diagonal).toNat - index - 1) = true := by
  simp only [snakeBackward] at before
  split at before
  next => exact agree_of_lt_commonStop before
  next => exact absurd before (Nat.not_lt_zero index)

theorem Explored.le_setOut (explored : Explored width height depth frontier)
    (onRow : OnRow (depth + 1) diagonal) : diagonal ≤ setOut frontier (depth + 1) diagonal := by
  rcases (setOut_cases frontier onRow).2.2 with ⟨onRow', startEq⟩ | ⟨onRow', startEq⟩
  · have low := explored.low _ onRow'
    omega
  · have low := explored.low _ onRow'
    omega

section Swept

variable {snake : Nat → Int → Nat} {reach : Nat} {after : Frontier}

theorem Explored.cell_of_staysInside (explored : Explored width height depth frontier)
    (stays : StaysInside width height snake) (onRow : OnRow (depth + 1) diagonal) :
    Cell width height depth frontier diagonal (setOut frontier (depth + 1) diagonal)
      (setOut frontier (depth + 1) diagonal +
        snake (setOut frontier (depth + 1) diagonal) diagonal) :=
  explored.cell onRow (stays _ _ (explored.le_setOut onRow))

theorem Swept.get_of_onRow
    (swept : Swept snake (depth + 1) reach (diagonals (depth + 1)) frontier after)
    (room : depth + 1 < reach) (onRow : OnRow depth diagonal) :
    after.get diagonal = frontier.get diagonal := by
  apply swept.other
  · unfold OnRow at onRow
    omega
  · rw [mem_diagonals_iff]
    unfold OnRow at *
    omega

theorem Swept.explored (swept : Swept snake (depth + 1) reach (diagonals (depth + 1)) frontier after)
    (room : depth + 1 < reach) (explored : Explored width height depth frontier)
    (stays : StaysInside width height snake) : Explored width height (depth + 1) after := by
  apply explored.next
  · intro diagonal onRow
    exact swept.get_of_onRow room onRow
  · intro diagonal onRow
    refine ⟨setOut frontier (depth + 1) diagonal, ?_, ?_⟩
    · rw [swept.reached diagonal (mem_diagonals_iff.mpr onRow)]
      exact Nat.le_add_right _ _
    · rw [swept.reached diagonal (mem_diagonals_iff.mpr onRow)]
      exact explored.cell_of_staysInside stays onRow

end Swept

/-- Whether the ranges of a window have characters, and neither the first two nor the last two of
them agree. -/
structure Contrasting (old new : Array Char) (window : Window) : Prop where
  wide : 0 < window.width
  high : 0 < window.height
  first : agree old new window.oldStart window.newStart = false
  last : agree old new (window.oldStop - 1) (window.newStop - 1) = false

/-- Whether a point lies in a window, and is not the corner at which one of the searches begins. -/
structure Divides (window : Window) (point : Nat × Nat) : Prop where
  oldStart_le : window.oldStart ≤ point.1
  le_oldStop : point.1 ≤ window.oldStop
  newStart_le : window.newStart ≤ point.2
  le_newStop : point.2 ≤ window.newStop
  start_lt : window.oldStart + window.newStart < point.1 + point.2
  lt_stop : point.1 + point.2 < window.oldStop + window.newStop

/-- Whether both frontiers have room for the diagonals up to a reach. -/
def Frontiers.Sized (frontiers : Frontiers) (reach : Nat) : Prop :=
  frontiers.forward.Sized reach ∧ frontiers.backward.Sized reach

/-- What the frontiers are like after a depth at which the searches have not met. -/
structure Unmet (width height reach depth : Nat) (frontiers : Frontiers) : Prop where
  sized : frontiers.Sized reach
  forward : Explored width height depth frontiers.forward
  backward : Explored width height depth frontiers.backward
  odd : ((width : Int) - height) % 2 = 1 → ∀ diagonal, OnRow depth diagonal →
    (diagonal - (width - height)).natAbs + 1 ≤ depth →
      frontiers.forward.get diagonal + frontiers.backward.get (width - height - diagonal) < width
  even : ((width : Int) - height) % 2 = 0 → ∀ diagonal, OnRow depth diagonal →
    (diagonal - (width - height)).natAbs ≤ depth →
      frontiers.backward.get diagonal + frontiers.forward.get (width - height - diagonal) < width
  origin : depth = 0 → frontiers.forward.get 0 = 0 ∧ frontiers.backward.get 0 = 0

section Search

variable {old new : Array Char} {window : Window} {reach : Nat} {frontiers : Frontiers}

theorem Unmet.low_backward (unmet : Unmet width height reach depth frontiers)
    (isOdd : ((width : Int) - height) % 2 = 1) (diagonal : Int) (onRow : OnRow depth diagonal)
    (near : (diagonal - (width - height)).natAbs + 1 ≤ depth) :
    width - height - diagonal ≤ frontiers.backward.get (width - height - diagonal) := by
  cases depth with
  | zero => omega
  | succ previous =>
      apply (unmet.backward.before previous rfl).low
      unfold OnRow at *
      omega

theorem Unmet.low_forward (unmet : Unmet width height reach depth frontiers)
    (isEven : ((width : Int) - height) % 2 = 0) (diagonal : Int) (onRow : OnRow depth diagonal)
    (near : (diagonal - (width - height)).natAbs ≤ depth) :
    width - height - diagonal ≤ frontiers.forward.get (width - height - diagonal) := by
  apply unmet.forward.low
  unfold OnRow at *
  omega

/-- Where the search from the start meets the other one divides the window. -/
theorem Unmet.divides_forward (unmet : Unmet window.width window.height reach depth frontiers)
    (contrast : Contrasting old new window) (onRow : OnRow (depth + 1) diagonal)
    (isMet : metForward window (depth + 1) frontiers.backward diagonal
      (setOut frontiers.forward (depth + 1) diagonal + snakeForward old new window
        (setOut frontiers.forward (depth + 1) diagonal) diagonal) = true) :
    Divides window (window.oldStart + setOut frontiers.forward (depth + 1) diagonal,
      window.newStart +
        ((setOut frontiers.forward (depth + 1) diagonal : Int) - diagonal).toNat) := by
  have cell := unmet.forward.cell_of_staysInside (staysInside_snakeForward old new window) onRow
  rcases of_decide_eq_true isMet with ⟨isOdd, near, -⟩
  have isOdd : ((window.width : Int) - window.height) % 2 = (1 : Nat) := by omega
  have inside := cell.inside isOdd (unmet.odd isOdd) (unmet.low_backward isOdd) onRow near
  have notCorner : diagonal = window.width - window.height →
      setOut frontiers.forward (depth + 1) diagonal ≠ window.width := by
    rintro rfl
    exact setOut_ne_corner isOdd (unmet.odd isOdd) (unmet.low_backward isOdd) contrast.wide
      contrast.high (fun isZero => (unmet.origin isZero).1) onRow
  have low := cell.low
  have moves := cell.moves
  have wide := contrast.wide
  have high := contrast.high
  generalize setOut frontiers.forward (depth + 1) diagonal = start at *
  simp only [Window.width, Window.height] at *
  constructor <;> simp only <;> omega

/-- Where the search from the end meets the other one divides the window. -/
theorem Unmet.divides_backward (unmet : Unmet window.width window.height reach depth frontiers)
    (contrast : Contrasting old new window) {forward : Frontier} (onRow : OnRow (depth + 1) diagonal)
    (isMet : metBackward window (depth + 1) forward diagonal
      (setOut frontiers.backward (depth + 1) diagonal + snakeBackward old new window
        (setOut frontiers.backward (depth + 1) diagonal) diagonal) = true) :
    Divides window
      (window.oldStop - (setOut frontiers.backward (depth + 1) diagonal + snakeBackward old new window
        (setOut frontiers.backward (depth + 1) diagonal) diagonal),
      window.newStop - (((setOut frontiers.backward (depth + 1) diagonal : Int) - diagonal).toNat +
        snakeBackward old new window (setOut frontiers.backward (depth + 1) diagonal) diagonal)) := by
  have cell := unmet.backward.cell_of_staysInside (staysInside_snakeBackward old new window) onRow
  rcases of_decide_eq_true isMet with ⟨isEven, near, -⟩
  have isEven : ((window.width : Int) - window.height) % 2 = (0 : Nat) := isEven
  have inside := cell.inside isEven (unmet.even isEven) (unmet.low_forward isEven) onRow near
  have notCorner : diagonal = window.width - window.height →
      setOut frontiers.backward (depth + 1) diagonal ≠ window.width := by
    rintro rfl
    exact setOut_ne_corner isEven (unmet.even isEven) (unmet.low_forward isEven) contrast.wide
      contrast.high (fun isZero => (unmet.origin isZero).2) onRow
  have low := cell.low
  have moves := cell.moves
  have wide := contrast.wide
  have high := contrast.high
  generalize setOut frontiers.backward (depth + 1) diagonal = start at *
  -- A run of agreeing characters that ends at the start would have the first ones agree.
  have notStart : 0 < snakeBackward old new window start diagonal →
      start + snakeBackward old new window start diagonal = window.width →
        (start + snakeBackward old new window start diagonal : Int) - diagonal ≠ window.height := by
    intro positive atStart atStart'
    have agreeing := agree_of_lt_snakeBackward (Nat.sub_one_lt_of_lt positive)
    have differing := contrast.first
    have columnEq : window.oldStop - start - (snakeBackward old new window start diagonal - 1) - 1 =
        window.oldStart := by
      unfold Window.width at atStart wide
      omega
    have rowEq : window.newStop - ((start : Int) - diagonal).toNat -
        (snakeBackward old new window start diagonal - 1) - 1 = window.newStart := by
      unfold Window.height at atStart' high
      omega
    rw [columnEq, rowEq, differing] at agreeing
    contradiction
  generalize snakeBackward old new window start diagonal = matched at *
  simp only [Window.width, Window.height] at *
  constructor <;> simp only <;> omega

theorem Unmet.advance_cases (unmet : Unmet window.width window.height reach depth frontiers)
    (contrast : Contrasting old new window) (room : depth + 1 < reach) :
    (∃ forward point, advance old new window (depth + 1) frontiers.backward (diagonals (depth + 1))
        frontiers.forward = (forward, some point) ∧
      forward.Sized reach ∧ Divides window point) ∨
    ∃ forward, advance old new window (depth + 1) frontiers.backward (diagonals (depth + 1))
        frontiers.forward = (forward, none) ∧
      Swept (snakeForward old new window) (depth + 1) reach (diagonals (depth + 1))
        frontiers.forward forward ∧
      ∀ diagonal ∈ diagonals (depth + 1),
        metForward window (depth + 1) frontiers.backward diagonal (forward.get diagonal) = false := by
  rw [advance_eq_sweep]
  rcases sweep_cases (snakeForward old new window) (metForward window (depth + 1) frontiers.backward)
      unmet.sized.1 room (fun _ => mem_diagonals_iff.mp) (nodup_diagonals _) with
    ⟨forward, sweepEq, swept, notMet⟩ | ⟨forward, diagonal, sweepEq, sized, onRow, isMet⟩
  · right
    rw [sweepEq]
    exact ⟨forward, rfl, swept, notMet⟩
  · left
    rw [sweepEq]
    exact ⟨forward, _, rfl, sized, unmet.divides_forward contrast onRow isMet⟩

theorem Unmet.retreat_cases (unmet : Unmet window.width window.height reach depth frontiers)
    (contrast : Contrasting old new window) (room : depth + 1 < reach) (forward : Frontier) :
    (∃ backward point, retreat old new window (depth + 1) forward (diagonals (depth + 1))
        frontiers.backward = (backward, some point) ∧
      backward.Sized reach ∧ Divides window point) ∨
    ∃ backward, retreat old new window (depth + 1) forward (diagonals (depth + 1))
        frontiers.backward = (backward, none) ∧
      Swept (snakeBackward old new window) (depth + 1) reach (diagonals (depth + 1))
        frontiers.backward backward ∧
      ∀ diagonal ∈ diagonals (depth + 1),
        metBackward window (depth + 1) forward diagonal (backward.get diagonal) = false := by
  rw [retreat_eq_sweep]
  rcases sweep_cases (snakeBackward old new window) (metBackward window (depth + 1) forward)
      unmet.sized.2 room (fun _ => mem_diagonals_iff.mp) (nodup_diagonals _) with
    ⟨backward, sweepEq, swept, notMet⟩ | ⟨backward, diagonal, sweepEq, sized, onRow, isMet⟩
  · right
    rw [sweepEq]
    exact ⟨backward, rfl, swept, notMet⟩
  · left
    rw [sweepEq]
    exact ⟨backward, _, rfl, sized, unmet.divides_backward contrast onRow isMet⟩

/-- One more depth: the searches meet at a point that divides the window, or nowhere. -/
theorem Unmet.step (unmet : Unmet window.width window.height reach depth frontiers)
    (contrast : Contrasting old new window) (room : depth + 1 < reach) (depths : List Nat) :
    (∃ after point, meet old new window ((depth + 1) :: depths) frontiers = (after, some point) ∧
      after.Sized reach ∧ Divides window point) ∨
    ∃ after, meet old new window ((depth + 1) :: depths) frontiers =
        meet old new window depths after ∧
      Unmet window.width window.height reach (depth + 1) after := by
  rw [meet]
  rcases unmet.advance_cases contrast room with
    ⟨forward, point, advanceEq, sized, divides⟩ | ⟨forward, advanceEq, swept, notMet⟩
  · left
    rw [advanceEq]
    exact ⟨_, point, rfl, ⟨sized, unmet.sized.2⟩, divides⟩
  rw [advanceEq]
  rcases unmet.retreat_cases contrast room forward with
    ⟨backward, point, retreatEq, sized, divides⟩ | ⟨backward, retreatEq, swept', notMet'⟩
  · left
    simp only [retreatEq]
    exact ⟨_, point, rfl, ⟨swept.sized, sized⟩, divides⟩
  right
  simp only [retreatEq]
  refine ⟨_, rfl, ⟨swept.sized, swept'.sized⟩, ?_, ?_, ?_, ?_, ?_⟩
  · exact swept.explored room unmet.forward (staysInside_snakeForward old new window)
  · exact swept'.explored room unmet.backward (staysInside_snakeBackward old new window)
  · intro isOdd diagonal onRow near
    have apart := of_decide_eq_false (notMet diagonal (mem_diagonals_iff.mpr onRow))
    -- The test read the other frontier before its turn, on diagonals that the turn leaves alone.
    have otherOnRow : OnRow depth (window.width - window.height - diagonal) := by
      unfold OnRow at *
      omega
    simp only [swept'.get_of_onRow room otherOnRow]
    omega
  · intro isEven diagonal onRow near
    have apart := of_decide_eq_false (notMet' diagonal (mem_diagonals_iff.mpr onRow))
    simp only
    omega
  · intro isZero
    contradiction

theorem snakeForward_zero (contrast : Contrasting old new window) :
    snakeForward old new window 0 0 = 0 := by
  by_contra agreeing
  have first := agree_of_lt_snakeForward (Nat.pos_of_ne_zero agreeing)
  have differing := contrast.first
  simp_all

theorem snakeBackward_zero (contrast : Contrasting old new window) :
    snakeBackward old new window 0 0 = 0 := by
  by_contra agreeing
  have last := agree_of_lt_snakeBackward (Nat.pos_of_ne_zero agreeing)
  have differing := contrast.last
  simp_all

theorem setOut_zero (sized : frontier.Sized reach) (room : 1 < reach) :
    setOut (frontier.set 1 0) 0 0 = 0 := by
  simpa [setOut] using sized.get_set_self (by omega) 0

theorem Swept.get_zero {snake : Nat → Int → Nat} {after : Frontier}
    (swept : Swept snake 0 reach (diagonals 0) (frontier.set 1 0) after)
    (sized : frontier.Sized reach) (room : 1 < reach) (stuck : snake 0 0 = 0) :
    after.get 0 = 0 := by
  rw [swept.reached 0 (mem_diagonals_iff.mpr (by simp [OnRow])), setOut_zero sized room, stuck]

theorem OnRow.eq_zero (onRow : OnRow 0 diagonal) : diagonal = 0 := by
  unfold OnRow at onRow
  omega

theorem explored_zero (width height : Nat) (atZero : frontier.get 0 = 0) :
    Explored width height 0 frontier := by
  refine ⟨?_, ?_, ?_, ?_, ?_⟩
  · intro diagonal onRow
    rw [onRow.eq_zero]
    omega
  · intro diagonal onRow
    rw [onRow.eq_zero]
    omega
  · intro diagonal onRow
    rw [onRow.eq_zero, atZero]
    omega
  · intro diagonal onRow
    rw [onRow.eq_zero, atZero]
    omega
  · intro previous isPrevious
    contradiction

/-- At the first depth the searches do not meet. -/
theorem meet_zero (contrast : Contrasting old new window) (sized : frontiers.Sized reach)
    (room : 1 < reach) (depths : List Nat) :
    ∃ after, meet old new window (0 :: depths)
        ⟨frontiers.forward.set 1 0, frontiers.backward.set 1 0⟩ =
          meet old new window depths after ∧
      Unmet window.width window.height reach 0 after := by
  rw [meet, advance_eq_sweep]
  rcases sweep_cases (snakeForward old new window)
      (metForward window 0 (frontiers.backward.set 1 0)) (sized.1.set 1 0) (by omega)
      (fun _ => mem_diagonals_iff.mp) (nodup_diagonals 0) with
    ⟨forward, sweepEq, swept, -⟩ | ⟨forward, diagonal, -, -, -, isMet⟩
  case inr =>
    have near := (of_decide_eq_true isMet).2.1
    contradiction
  have atZero := swept.get_zero sized.1 room (snakeForward_zero contrast)
  simp only [sweepEq, Prod.map, Option.map, id]
  rw [retreat_eq_sweep]
  rcases sweep_cases (snakeBackward old new window) (metBackward window 0 forward)
      (sized.2.set 1 0) (by omega) (fun _ => mem_diagonals_iff.mp) (nodup_diagonals 0) with
    ⟨backward, sweepEq', swept', notMet⟩ | ⟨backward, diagonal, -, -, onRow, isMet⟩
  case inr =>
    rcases of_decide_eq_true isMet with ⟨-, near, crossed⟩
    cases onRow.eq_zero
    have onDiagonal : (window.width : Int) - window.height - 0 = 0 := by omega
    rw [setOut_zero sized.2 room, snakeBackward_zero contrast, onDiagonal, atZero] at crossed
    have wide := contrast.wide
    omega
  have atZero' := swept'.get_zero sized.2 room (snakeBackward_zero contrast)
  simp only [sweepEq', Prod.map, Option.map, id]
  refine ⟨_, rfl, ⟨swept.sized, swept'.sized⟩, explored_zero _ _ atZero, explored_zero _ _ atZero',
    ?_, ?_, fun _ => ⟨atZero, atZero'⟩⟩
  · intro _ diagonal _ near
    contradiction
  · intro isEven diagonal onRow near
    have apart := of_decide_eq_false (notMet diagonal (mem_diagonals_iff.mpr onRow))
    simp only
    omega

theorem Unmet.run (unmet : Unmet window.width window.height reach depth frontiers)
    (contrast : Contrasting old new window) {count : Nat} (room : depth + count < reach) :
    ∃ after point?, meet old new window (List.range' (depth + 1) count) frontiers = (after, point?) ∧
      after.Sized reach ∧ ∀ point ∈ point?, Divides window point := by
  induction count generalizing depth frontiers with
  | zero => exact ⟨frontiers, none, rfl, unmet.sized, by simp⟩
  | succ count ih =>
      rw [List.range'_succ]
      rcases unmet.step contrast (by omega) (List.range' (depth + 1 + 1) count) with
        ⟨after, point, meetEq, sized, divides⟩ | ⟨after, meetEq, unmet'⟩
      · rw [meetEq]
        exact ⟨after, some point, rfl, sized, by simpa using divides⟩
      · rw [meetEq]
        exact ih unmet' (by omega)

/-- The point at which the searches meet divides the window. -/
theorem middle_divides (contrast : Contrasting old new window) (sized : frontiers.Sized reach)
    (room : (window.width + window.height + 1) / 2 + 1 < reach) :
    ∃ after point?, middle old new window frontiers = (after, point?) ∧
      after.Sized reach ∧ ∀ point ∈ point?, Divides window point := by
  rw [middle, List.range_eq_range', List.range'_succ]
  rcases meet_zero contrast sized (by omega) _ with ⟨after, meetEq, unmet⟩
  rw [meetEq]
  exact unmet.run contrast (by simp only [Window.width, Window.height] at room; omega)

end Search

end SourceLens.Comparison
