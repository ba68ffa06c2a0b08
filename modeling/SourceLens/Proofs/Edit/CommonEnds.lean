import SourceLens.Edit.Comparison

/-!
# Common beginnings and ends

The common beginning of a window is the longest one: its characters agree, and the ones behind it do
not, unless it fills a range of the window.  The same holds of the common end.
-/

namespace SourceLens

namespace Window

/-- The number of characters in the old range. -/
def width (window : Window) : Nat :=
  window.oldStop - window.oldStart

/-- The number of characters in the new range. -/
def height (window : Window) : Nat :=
  window.newStop - window.newStart

end Window

namespace Comparison

variable {old new : Array Char} {window : Window}

/-- Counts on from `found` the numbers that pass a test, at most `room` more. -/
def run (test : Nat → Bool) (found : Nat) : Nat → Nat
  | 0 => found
  | room + 1 => if test found then run test (found + 1) room else found

/-- A run passes the test up to its end, where it fails unless there is no more room. -/
theorem run_spec (test : Nat → Bool) (found room : Nat) :
    run test found room ≤ found + room ∧
      (∀ index, found ≤ index → index < run test found room → test index = true) ∧
      (run test found room < found + room → test (run test found room) = false) := by
  induction room generalizing found with
  | zero =>
      refine ⟨Nat.le_refl _, ?_, ?_⟩
      · intro index atLeast before
        exact absurd before (Nat.not_lt.mpr atLeast)
      · intro short
        exact absurd short (Nat.lt_irrefl _)
  | succ room ih =>
      rw [run]
      split
      next passes =>
        rcases ih (found + 1) with ⟨atMost, all, stops⟩
        refine ⟨by omega, ?_, fun short => stops (by omega)⟩
        intro index atLeast before
        rcases Nat.eq_or_lt_of_le atLeast with rfl | later
        · exact passes
        · exact all index later before
      next fails =>
        refine ⟨by omega, ?_, fun _ => by simpa using fails⟩
        intro index atLeast before
        omega

theorem commonStart_eq_run (old new : Array Char) (window : Window) :
    commonStart old new window =
      run (fun index => agree old new (window.oldStart + index) (window.newStart + index)) 0
        (min window.width window.height) := by
  have counts : ∀ found room, commonStart.count old new window found room =
      run (fun index => agree old new (window.oldStart + index) (window.newStart + index))
        found room := by
    intro found room
    induction room generalizing found with
    | zero => rfl
    | succ room ih => rw [commonStart.count, run, ih]
  exact counts 0 _

theorem commonStop_eq_run (old new : Array Char) (window : Window) :
    commonStop old new window =
      run (fun index => agree old new (window.oldStop - index - 1) (window.newStop - index - 1)) 0
        (min window.width window.height) := by
  have counts : ∀ found room, commonStop.count old new window found room =
      run (fun index => agree old new (window.oldStop - index - 1) (window.newStop - index - 1))
        found room := by
    intro found room
    induction room generalizing found with
    | zero => rfl
    | succ room ih => rw [commonStop.count, run, ih]
  exact counts 0 _

theorem commonStart_le (old new : Array Char) (window : Window) :
    commonStart old new window ≤ window.width ∧ commonStart old new window ≤ window.height := by
  rw [commonStart_eq_run]
  have atMost := (run_spec (fun index => agree old new (window.oldStart + index)
    (window.newStart + index)) 0 (min window.width window.height)).1
  omega

theorem commonStop_le (old new : Array Char) (window : Window) :
    commonStop old new window ≤ window.width ∧ commonStop old new window ≤ window.height := by
  rw [commonStop_eq_run]
  have atMost := (run_spec (fun index => agree old new (window.oldStop - index - 1)
    (window.newStop - index - 1)) 0 (min window.width window.height)).1
  omega

theorem agree_of_lt_commonStart {index : Nat} (inside : index < commonStart old new window) :
    agree old new (window.oldStart + index) (window.newStart + index) = true := by
  rw [commonStart_eq_run] at inside
  exact (run_spec _ 0 _).2.1 index (Nat.zero_le index) inside

theorem agree_of_lt_commonStop {index : Nat} (inside : index < commonStop old new window) :
    agree old new (window.oldStop - index - 1) (window.newStop - index - 1) = true := by
  rw [commonStop_eq_run] at inside
  exact (run_spec _ 0 _).2.1 index (Nat.zero_le index) inside

theorem agree_commonStart (narrow : commonStart old new window < window.width)
    (low : commonStart old new window < window.height) :
    agree old new (window.oldStart + commonStart old new window)
      (window.newStart + commonStart old new window) = false := by
  rw [commonStart_eq_run] at narrow low ⊢
  exact (run_spec (fun index => agree old new (window.oldStart + index) (window.newStart + index))
    0 _).2.2 (by omega)

theorem agree_commonStop (narrow : commonStop old new window < window.width)
    (low : commonStop old new window < window.height) :
    agree old new (window.oldStop - commonStop old new window - 1)
      (window.newStop - commonStop old new window - 1) = false := by
  rw [commonStop_eq_run] at narrow low ⊢
  exact (run_spec (fun index => agree old new (window.oldStop - index - 1)
    (window.newStop - index - 1)) 0 _).2.2 (by omega)

end Comparison

end SourceLens
