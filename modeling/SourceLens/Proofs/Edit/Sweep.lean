import Mathlib.Data.List.Nodup
import SourceLens.Proofs.Edit.CommonEnds

/-!
# Sweeping a frontier

Both searches of a comparison deepen their frontier in the same way: each diagonal of a depth sets out
from the neighbours of the depth before and follows the characters that agree.  `Comparison.sweep` is
that loop, and what it reads is never what it has written, because neighbouring diagonals belong to
different depths.
-/

namespace SourceLens

namespace Frontier

variable {frontier : Frontier} {reach : Nat}

/-- Whether a frontier has room for the diagonals up to a reach. -/
structure Sized (frontier : Frontier) (reach : Nat) : Prop where
  reach_eq : frontier.reach = reach
  size_eq : frontier.positions.size = 2 * reach + 1

theorem sized_empty (reach : Nat) : (empty reach).Sized reach :=
  ⟨rfl, by simp [empty]⟩

theorem Sized.set (sized : frontier.Sized reach) (diagonal : Int) (position : Nat) :
    (frontier.set diagonal position).Sized reach :=
  ⟨sized.reach_eq, by simp [Frontier.set, sized.size_eq]⟩

theorem Sized.get_set_self (sized : frontier.Sized reach) {diagonal : Int}
    (inReach : diagonal.natAbs ≤ reach) (position : Nat) :
    (frontier.set diagonal position).get diagonal = position := by
  have inRange : frontier.slot diagonal < frontier.positions.size := by
    rw [slot, sized.reach_eq, sized.size_eq]
    omega
  simp only [get, Frontier.set, Array.getD_eq_getD_getElem?]
  change ((frontier.positions.setIfInBounds (frontier.slot diagonal) position)[
    frontier.slot diagonal]?).getD 0 = position
  simp [inRange]

theorem Sized.get_set_of_ne (sized : frontier.Sized reach) {diagonal other : Int}
    (inReach : diagonal.natAbs ≤ reach) (inReach' : other.natAbs ≤ reach)
    (different : other ≠ diagonal) (position : Nat) :
    (frontier.set diagonal position).get other = frontier.get other := by
  have otherSlot : frontier.slot diagonal ≠ frontier.slot other := by
    simp only [slot, sized.reach_eq]
    omega
  simp only [get, Frontier.set, Array.getD_eq_getD_getElem?]
  change ((frontier.positions.setIfInBounds (frontier.slot diagonal) position)[
    frontier.slot other]?).getD 0 = _
  rw [Array.getElem?_setIfInBounds_ne otherSlot]

end Frontier

namespace Comparison

/-- Whether a diagonal belongs to a depth. -/
def OnRow (depth : Nat) (diagonal : Int) : Prop :=
  -(depth : Int) ≤ diagonal ∧ diagonal ≤ depth ∧ ((depth : Int) - diagonal) % 2 = 0

theorem mem_diagonals_iff {depth : Nat} {diagonal : Int} :
    diagonal ∈ diagonals depth ↔ OnRow depth diagonal := by
  simp only [diagonals, List.mem_map, List.mem_range, OnRow]
  constructor
  · rintro ⟨index, inRange, rfl⟩
    omega
  · rintro ⟨low, high, even⟩
    exact ⟨(((depth : Int) - diagonal) / 2).toNat, by omega, by omega⟩

theorem nodup_diagonals (depth : Nat) : (diagonals depth).Nodup := by
  apply List.Nodup.map_on _ List.nodup_range
  intro first _ second _ same
  omega

/-- Deepens a frontier on each diagonal of a list, given how far the agreeing characters go from a
position, until a test is met.  The diagonal that meets it comes with where it set out. -/
def sweep (snake : Nat → Int → Nat) (met : Int → Nat → Bool) (depth : Nat) :
    List Int → Frontier → Frontier × Option (Int × Nat)
  | [], frontier => (frontier, none)
  | diagonal :: diagonals, frontier =>
      let start := setOut frontier depth diagonal
      let reached := start + snake start diagonal
      let frontier := frontier.set diagonal reached
      if met diagonal reached then (frontier, some (diagonal, start))
      else sweep snake met depth diagonals frontier

section Sweep

variable {depth reach : Nat}

/-- What a frontier is like after a sweep over some diagonals. -/
structure Swept (snake : Nat → Int → Nat) (depth reach : Nat) (diagonals : List Int)
    (before after : Frontier) : Prop where
  sized : after.Sized reach
  reached : ∀ diagonal ∈ diagonals, after.get diagonal =
    setOut before depth diagonal + snake (setOut before depth diagonal) diagonal
  other : ∀ diagonal, diagonal.natAbs ≤ reach → diagonal ∉ diagonals →
    after.get diagonal = before.get diagonal

theorem setOut_congr {first second : Frontier} {diagonal : Int}
    (left : first.get (diagonal - 1) = second.get (diagonal - 1))
    (right : first.get (diagonal + 1) = second.get (diagonal + 1)) :
    setOut first depth diagonal = setOut second depth diagonal := by
  rw [setOut, setOut, left, right]

/-- What a sweep writes on a diagonal of its depth is not read by another one. -/
theorem setOut_set {frontier : Frontier} (sized : frontier.Sized reach) (room : depth < reach)
    {diagonal other : Int} (onRow : OnRow depth diagonal) (onRow' : OnRow depth other)
    (position : Nat) :
    setOut (frontier.set diagonal position) depth other = setOut frontier depth other := by
  unfold OnRow at onRow onRow'
  apply setOut_congr
  · exact sized.get_set_of_ne (by omega) (by omega) (by omega) position
  · exact sized.get_set_of_ne (by omega) (by omega) (by omega) position

/-- A sweep that meets nothing has reached every diagonal, and one that meets something stands on a
diagonal that passes the test. -/
theorem sweep_cases (snake : Nat → Int → Nat) (met : Int → Nat → Bool) {list : List Int}
    {before : Frontier} (sized : before.Sized reach) (room : depth < reach)
    (onRow : ∀ diagonal ∈ list, OnRow depth diagonal) (nodup : list.Nodup) :
    (∃ after, sweep snake met depth list before = (after, none) ∧
      Swept snake depth reach list before after ∧
      ∀ diagonal ∈ list, met diagonal (after.get diagonal) = false) ∨
    ∃ after diagonal, sweep snake met depth list before =
        (after, some (diagonal, setOut before depth diagonal)) ∧ after.Sized reach ∧
      OnRow depth diagonal ∧ met diagonal (setOut before depth diagonal +
        snake (setOut before depth diagonal) diagonal) = true := by
  induction list generalizing before with
  | nil => exact .inl ⟨before, rfl, ⟨sized, by simp, by simp⟩, by simp⟩
  | cons first rest ih =>
      have firstOnRow := onRow first List.mem_cons_self
      have inReach : first.natAbs ≤ reach := by
        unfold OnRow at firstOnRow
        omega
      rw [List.nodup_cons] at nodup
      rw [sweep]
      split
      next isMet => exact .inr ⟨_, first, rfl, sized.set _ _, firstOnRow, isMet⟩
      next notMet =>
        have restOnRow : ∀ diagonal ∈ rest, OnRow depth diagonal :=
          fun diagonal member => onRow diagonal (List.mem_cons_of_mem _ member)
        -- The other diagonals of the depth do not see what is written here.
        have sameStart : ∀ diagonal, OnRow depth diagonal → setOut (before.set first
            (setOut before depth first + snake (setOut before depth first) first)) depth diagonal =
              setOut before depth diagonal :=
          fun diagonal diagonalOnRow => setOut_set sized room firstOnRow diagonalOnRow _
        rcases ih (sized.set first _) restOnRow nodup.2 with
          ⟨after, sweepEq, swept, unmet⟩ | ⟨after, diagonal, sweepEq, afterSized, diagonalOnRow, isMet⟩
        · left
          have firstReached : after.get first =
              setOut before depth first + snake (setOut before depth first) first := by
            rw [swept.other first inReach nodup.1]
            exact sized.get_set_self inReach _
          refine ⟨after, sweepEq, ⟨swept.sized, ?_, ?_⟩, ?_⟩
          · intro diagonal member
            rcases List.mem_cons.mp member with rfl | member
            · exact firstReached
            · rw [swept.reached diagonal member, sameStart diagonal (restOnRow diagonal member)]
          · intro diagonal within notMember
            rw [List.mem_cons, not_or] at notMember
            rw [swept.other diagonal within notMember.2]
            exact sized.get_set_of_ne inReach within notMember.1 _
          · intro diagonal member
            rcases List.mem_cons.mp member with rfl | member
            · rw [firstReached]
              simpa using notMet
            · exact unmet diagonal member
        · right
          rw [sameStart diagonal diagonalOnRow] at sweepEq isMet
          exact ⟨after, diagonal, sweepEq, afterSized, diagonalOnRow, isMet⟩

end Sweep

section Searches

variable (old new : Array Char) (window : Window) (depth : Nat)

/-- How far the characters agree from a position of the search from the start. -/
def snakeForward (start : Nat) (diagonal : Int) : Nat :=
  let row := ((start : Int) - diagonal).toNat
  if start < window.width ∧ row < window.height then
    commonStart old new
      { window with oldStart := window.oldStart + start, newStart := window.newStart + row }
  else 0

/-- How far the characters agree from a position of the search from the end. -/
def snakeBackward (start : Nat) (diagonal : Int) : Nat :=
  let row := ((start : Int) - diagonal).toNat
  if start < window.width ∧ row < window.height then
    commonStop old new
      { window with oldStop := window.oldStop - start, newStop := window.newStop - row }
  else 0

/-- Whether the search from the start meets the other one. -/
def metForward (backward : Frontier) (diagonal : Int) (reached : Nat) : Bool :=
  let delta : Int := (window.width : Int) - window.height
  delta % 2 ≠ 0 ∧ (diagonal - delta).natAbs + 1 ≤ depth ∧
    window.width ≤ reached + backward.get (delta - diagonal)

/-- Whether the search from the end meets the other one. -/
def metBackward (forward : Frontier) (diagonal : Int) (reached : Nat) : Bool :=
  let delta : Int := (window.width : Int) - window.height
  delta % 2 = 0 ∧ (diagonal - delta).natAbs ≤ depth ∧
    window.width ≤ reached + forward.get (delta - diagonal)

theorem advance_eq_sweep (backward : Frontier) (diagonals : List Int) (forward : Frontier) :
    advance old new window depth backward diagonals forward =
      (sweep (snakeForward old new window) (metForward window depth backward) depth diagonals
        forward).map id (Option.map fun (diagonal, start) =>
          (window.oldStart + start, window.newStart + ((start : Int) - diagonal).toNat)) := by
  induction diagonals generalizing forward with
  | nil => rfl
  | cons diagonal diagonals ih =>
      have reachedEq : ∀ column : Nat,
          (if column < window.oldStop - window.oldStart ∧
              ((column : Int) - diagonal).toNat < window.newStop - window.newStart then
            column + commonStart old new
              { window with
                oldStart := window.oldStart + column
                newStart := window.newStart + ((column : Int) - diagonal).toNat }
          else column) = column + snakeForward old new window column diagonal :=
        fun column => (apply_ite (column + ·) _ _ 0).symm
      rw [advance, sweep]
      simp only [reachedEq, ih]
      split
      next isMet =>
        have isMet : metForward window depth backward diagonal _ = true := decide_eq_true isMet
        rw [if_pos isMet]
        rfl
      next notMet => exact congrArg _ (if_neg (notMet ∘ of_decide_eq_true)).symm

theorem retreat_eq_sweep (forward : Frontier) (diagonals : List Int) (backward : Frontier) :
    retreat old new window depth forward diagonals backward =
      (sweep (snakeBackward old new window) (metBackward window depth forward) depth diagonals
        backward).map id (Option.map fun (diagonal, start) =>
          (window.oldStop - (start + snakeBackward old new window start diagonal),
            window.newStop - (((start : Int) - diagonal).toNat +
              snakeBackward old new window start diagonal))) := by
  induction diagonals generalizing backward with
  | nil => rfl
  | cons diagonal diagonals ih =>
      have matchedEq : ∀ column : Nat,
          (if column < window.oldStop - window.oldStart ∧
              ((column : Int) - diagonal).toNat < window.newStop - window.newStart then
            commonStop old new
              { window with
                oldStop := window.oldStop - column
                newStop := window.newStop - ((column : Int) - diagonal).toNat }
          else 0) = snakeBackward old new window column diagonal := fun _ => rfl
      rw [retreat, sweep]
      simp only [matchedEq, ih]
      split
      next isMet =>
        have isMet : metBackward window depth forward diagonal _ = true := decide_eq_true isMet
        rw [if_pos isMet]
        rfl
      next notMet => exact congrArg _ (if_neg (notMet ∘ of_decide_eq_true)).symm

end Searches

end Comparison

end SourceLens
