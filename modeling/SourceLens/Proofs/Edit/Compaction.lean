import SourceLens.Proofs.Edit.Division

/-!
# Shifting steps

Shifting the removals and additions of a script keeps it a path from the start of both texts to their
ends.  Each shift is made of a few moves of neighbouring steps: two changes swap places or are joined,
and an addition passes characters that are kept and occur in it.

The offset of a removal in the new text and that of an addition in the old one are not kept up to
date when changes swap places.  What remains true of them is that they leave room for the characters
that are kept before and after the step.
-/

namespace SourceLens.Comparison

variable {old new : Array Char} {total : Nat} {start stop : Position} {step : Step}
  {steps : List Step}

/-- Whether a step of a script that keeps a total number of characters fits its position. -/
def Fits (old new : Array Char) (total : Nat) (position : Position) (step : Step) : Prop :=
  match step.kind with
  | .keep =>
      step.old = position.old ∧ step.new = position.new ∧
        AgreeOver old new step.old step.new step.length
  | .remove =>
      step.old = position.old ∧ position.kept ≤ step.new ∧
        step.new + total ≤ new.size + position.kept
  | .add =>
      step.new = position.new ∧ position.kept ≤ step.old ∧
        step.old + total ≤ old.size + position.kept

/-- A raw script is a script. -/
theorem Path.of_raw (path : Path (FitsRaw old new) start steps stop)
    (startKept : start.kept ≤ start.new) (stopOld : stop.old ≤ old.size)
    (stopNew : stop.new ≤ new.size) : Path (Fits old new stop.kept) start steps stop := by
  induction path with
  | nil position => exact .nil position
  | @cons start stop step steps first rest ih =>
      have passed := (Path.cons first rest).kept_le
      rcases step with ⟨kind, oldOffset, newOffset, length⟩
      cases kind <;> simp only [FitsRaw, Position.after] at first ih
      case keep => exact .cons first (ih (Nat.add_le_add_right startKept length) stopOld stopNew)
      case remove =>
        exact .cons ⟨first.1, by simp only; omega, by simp only; omega⟩ (ih startKept stopOld stopNew)
      case add =>
        exact .cons ⟨first.1, first.2.1, by simp only; omega⟩ (ih (by omega) stopOld stopNew)

section Moves

variable {rest : List Step} {first second : Step}

/-- The rest of a path can be taken from an equal position. -/
theorem Path.from_eq {fits : Position → Step → Prop} {middle : Position}
    (path : Path fits middle steps stop) (same : start = middle) : Path fits start steps stop :=
  same ▸ path

theorem Path.drop (path : Path (Fits old new total) start (first :: rest) stop)
    (empty : first.length = 0) : Path (Fits old new total) start rest stop := by
  apply (path_cons_iff.mp path).2.from_eq
  unfold Position.after
  split <;> simp [empty]

theorem Path.swap (path : Path (Fits old new total) start (first :: second :: rest) stop)
    (firstChanges : first.kind ≠ .keep) (secondChanges : second.kind ≠ .keep)
    (differ : first.kind ≠ second.kind) :
    Path (Fits old new total) start (second :: first :: rest) stop := by
  rcases first with ⟨kind, oldOffset, newOffset, length⟩
  rcases second with ⟨kind', oldOffset', newOffset', length'⟩
  simp only [path_cons_iff] at path ⊢
  cases kind <;> cases kind' <;> first | contradiction | exact ⟨path.2.1, path.1, path.2.2⟩

theorem AgreeOver.append {oldOffset newOffset length length' : Nat}
    (left : AgreeOver old new oldOffset newOffset length)
    (right : AgreeOver old new (oldOffset + length) (newOffset + length) length') :
    AgreeOver old new oldOffset newOffset (length + length') := by
  intro index inside
  by_cases inLeft : index < length
  · exact left index inLeft
  · have agreeing := right (index - length) (by omega)
    rwa [Nat.add_assoc, Nat.add_assoc, Nat.add_sub_of_le (by omega)] at agreeing

theorem Path.join (path : Path (Fits old new total) start (first :: second :: rest) stop)
    (same : first.kind = second.kind) :
    Path (Fits old new total) start ({ first with length := first.length + second.length } :: rest)
      stop := by
  rcases first with ⟨kind, oldOffset, newOffset, length⟩
  rcases second with ⟨kind', oldOffset', newOffset', length'⟩
  cases same
  simp only [path_cons_iff] at path ⊢
  rcases path with ⟨fitsFirst, fitsSecond, path⟩
  cases kind <;> simp only [Fits, Position.after, Nat.add_assoc] at fitsFirst fitsSecond path ⊢
  case keep =>
    rcases fitsFirst with ⟨rfl, rfl, agreeing⟩
    rcases fitsSecond with ⟨rfl, rfl, agreeing'⟩
    exact ⟨⟨rfl, rfl, agreeing.append agreeing'⟩, path⟩
  case remove => exact ⟨fitsFirst, path⟩
  case add => exact ⟨fitsFirst, path⟩

theorem Path.split {oldOffset newOffset length length' : Nat}
    (path : Path (Fits old new total) start
      (⟨.keep, oldOffset, newOffset, length + length'⟩ :: rest) stop) :
    Path (Fits old new total) start (⟨.keep, oldOffset, newOffset, length⟩ ::
      ⟨.keep, oldOffset + length, newOffset + length, length'⟩ :: rest) stop := by
  simp only [path_cons_iff, Fits, Position.after, Nat.add_assoc] at path ⊢
  rcases path with ⟨⟨rfl, rfl, agreeing⟩, path⟩
  refine ⟨⟨rfl, rfl, ?_⟩, ⟨rfl, rfl, ?_⟩, path⟩
  · intro index inside
    exact agreeing index (by omega)
  · intro index inside
    rw [Nat.add_assoc, Nat.add_assoc]
    exact agreeing _ (by omega)

/-- An addition moves up past characters that its end repeats. -/
theorem Path.moveUp {oldOffset newOffset moved : Nat}
    (path : Path (Fits old new total) start
      (⟨.keep, oldOffset, newOffset, moved⟩ :: step :: rest) stop) (adds : step.kind = .add)
    (repeats : AgreeOver old new oldOffset (step.new + step.length - moved) moved) :
    Path (Fits old new total) start
      ({ step with old := step.old - moved, new := step.new - moved } ::
        ⟨.keep, oldOffset, step.new + step.length - moved, moved⟩ :: rest) stop := by
  rcases step with ⟨kind, oldOffset', newOffset', length⟩
  cases adds
  simp only [path_cons_iff, Fits, Position.after] at path repeats ⊢
  rcases path with ⟨⟨rfl, rfl, -⟩, ⟨rfl, low, high⟩, path⟩
  refine ⟨⟨by omega, by omega, by omega⟩, ⟨rfl, by omega, repeats⟩, path.from_eq ?_⟩
  simp only [Position.mk.injEq, true_and, and_true]
  omega

/-- An addition moves down past characters that its beginning repeats. -/
theorem Path.moveDown {oldOffset newOffset moved : Nat}
    (path : Path (Fits old new total) start
      (step :: ⟨.keep, oldOffset, newOffset, moved⟩ :: rest) stop) (adds : step.kind = .add)
    (repeats : AgreeOver old new oldOffset step.new moved) :
    Path (Fits old new total) start
      (⟨.keep, oldOffset, step.new, moved⟩ ::
        { step with old := step.old + moved, new := step.new + moved } :: rest) stop := by
  rcases step with ⟨kind, oldOffset', newOffset', length⟩
  cases adds
  simp only [path_cons_iff, Fits, Position.after] at path repeats ⊢
  rcases path with ⟨⟨rfl, low, high⟩, ⟨rfl, rfl, -⟩, path⟩
  refine ⟨⟨rfl, rfl, repeats⟩, ⟨rfl, by omega, by omega⟩, path.from_eq ?_⟩
  simp only [Position.mk.injEq, true_and, and_true]
  omega

/-- What is kept behind a step that has moved up is joined to what is kept after it. -/
theorem path_keepBelow {kept : Step} {moved : Nat} {below : List Step}
    (path : Path (Fits old new total) start
      (⟨.keep, kept.old + kept.length - moved, step.new + step.length - moved, moved⟩ :: below)
      stop) : Path (Fits old new total) start (keepBelow kept step moved below) stop := by
  unfold keepBelow
  split
  next next' below =>
    split
    next isKeep =>
      rcases next' with ⟨kind, oldOffset, newOffset, length⟩
      cases isKeep
      have joined := path.join rfl
      simp only [path_cons_iff, Fits, Position.after] at path
      rcases path with ⟨⟨oldEq, newEq, -⟩, ⟨oldEq', newEq', -⟩, -⟩
      rw [oldEq, newEq] at joined
      simpa only [oldEq', newEq', Nat.add_sub_cancel, Nat.add_comm moved] using joined
    next => exact path
  next => exact path

/-- A change to the end of a script that keeps it a path from wherever it begins. -/
theorem Path.behind {fits : Position → Step → Prop} {front back back' : List Step}
    (path : Path fits start (front ++ back) stop)
    (continues : ∀ middle, Path fits middle back stop → Path fits middle back' stop) :
    Path fits start (front ++ back') stop := by
  rcases path_append_iff.mp path with ⟨middle, left, right⟩
  exact left.append (continues middle right)

/-- What is kept before a step that has moved down is joined to what is kept before it. -/
theorem path_keepAbove {kept : Step} {moved : Nat} {above : List Step}
    (path : Path (Fits old new total) start
      (above.reverse ++ ⟨.keep, kept.old, step.new, moved⟩ :: rest) stop) :
    Path (Fits old new total) start ((keepAbove kept step moved above).reverse ++ rest) stop := by
  unfold keepAbove
  split
  next previous above =>
    split
    next isKeep =>
      simp only [List.reverse_cons, List.append_assoc, List.singleton_append] at path ⊢
      exact path.behind fun middle path => path.join isKeep
    next => simpa using path
  next => simpa using path

theorem slackAbove_of_pos {kept : Step} (positive : 0 < slackAbove old new kept step) :
    step.kind = .add ∧ slackAbove old new kept step ≤ kept.length ∧
      AgreeOver old new (kept.old + kept.length - slackAbove old new kept step)
        (step.new + step.length - slackAbove old new kept step) (slackAbove old new kept step) := by
  by_cases adds : step.kind = .add
  · simp only [slackAbove, if_pos adds]
    refine ⟨adds, ?_, agreeOver_commonStop _⟩
    simpa [Window.width] using (commonStop_le old new
      ⟨kept.old, kept.old + kept.length, step.new, step.new + step.length⟩).1
  · simp [slackAbove, adds] at positive

theorem slackBelow_of_pos {kept : Step} (positive : 0 < slackBelow old new kept step) :
    step.kind = .add ∧ slackBelow old new kept step ≤ kept.length ∧
      AgreeOver old new kept.old step.new (slackBelow old new kept step) := by
  by_cases adds : step.kind = .add
  · simp only [slackBelow, if_pos adds]
    refine ⟨adds, ?_, agreeOver_commonStart _⟩
    simpa [Window.width] using (commonStart_le old new
      ⟨kept.old, kept.old + kept.length, step.new, step.new + step.length⟩).1
  · simp [slackBelow, adds] at positive

/-- An addition moves up as far as its end repeats what is kept before it. -/
theorem Path.raise {kept : Step} {below : List Step} (isKeep : kept.kind = .keep)
    (positive : 0 < slackAbove old new kept step)
    (path : Path (Fits old new total) start (kept :: step :: below) stop) :
    Path (Fits old new total) start
      ({ kept with length := kept.length - slackAbove old new kept step } ::
        { step with
          old := step.old - slackAbove old new kept step
          new := step.new - slackAbove old new kept step } ::
        keepBelow kept step (slackAbove old new kept step) below) stop := by
  rcases slackAbove_of_pos positive with ⟨adds, atMost, repeats⟩
  generalize slackAbove old new kept step = moved at *
  rcases kept with ⟨kind, oldOffset, newOffset, length⟩
  cases isKeep
  rcases Nat.exists_eq_add_of_le' atMost with ⟨front, rfl⟩
  rw [← Nat.add_assoc, Nat.add_sub_cancel] at repeats
  rw [Nat.add_sub_cancel]
  -- Only the end of what is kept is passed, so it is split off first.
  rcases path_cons_iff.mp path.split with ⟨fitsFront, moving⟩
  refine .cons fitsFront ?_
  rcases path_cons_iff.mp (moving.moveUp adds repeats) with ⟨fitsStep, behind⟩
  refine .cons fitsStep (path_keepBelow ?_)
  rwa [← Nat.add_assoc, Nat.add_sub_cancel]

/-- An addition moves down as far as its beginning repeats what is kept after it. -/
theorem Path.lower {kept : Step} {below : List Step} (isKeep : kept.kind = .keep)
    (positive : 0 < slackBelow old new kept step)
    (path : Path (Fits old new total) start (step :: kept :: below) stop) :
    Path (Fits old new total) start
      (⟨.keep, kept.old, step.new, slackBelow old new kept step⟩ ::
        { step with
          old := step.old + slackBelow old new kept step
          new := step.new + slackBelow old new kept step } ::
        { kept with
          old := kept.old + slackBelow old new kept step
          new := kept.new + slackBelow old new kept step
          length := kept.length - slackBelow old new kept step } :: below) stop := by
  rcases slackBelow_of_pos positive with ⟨adds, atMost, repeats⟩
  generalize slackBelow old new kept step = moved at *
  rcases kept with ⟨kind, oldOffset, newOffset, length⟩
  cases isKeep
  rcases Nat.exists_eq_add_of_le atMost with ⟨back, rfl⟩
  rw [Nat.add_sub_cancel_left]
  rcases path_cons_iff.mp path with ⟨fitsStep, behind⟩
  exact (Path.cons fitsStep behind.split).moveDown adds repeats

end Moves

/-- A script at a step in it. -/
def Focus.whole (focus : Focus) : List Step :=
  focus.above.reverse ++ focus.step :: focus.below

theorem shiftUp_path {above below : List Step} (changes : step.kind ≠ .keep)
    (path : Path (Fits old new total) start (above.reverse ++ step :: below) stop) :
    (shiftUp old new above step below).step.kind ≠ .keep ∧
      Path (Fits old new total) start (shiftUp old new above step below).whole stop := by
  fun_induction shiftUp old new above step below with
  | case1 step below => exact ⟨changes, path⟩
  | case2 step below previous rest isKeep moved positive below' step' shorter ih =>
      apply ih changes
      simp only [List.reverse_cons, List.append_assoc, List.singleton_append] at path ⊢
      exact path.behind fun middle path => path.raise isKeep positive
  | case3 step below previous rest isKeep moved positive below' step' whole ih =>
      apply ih changes
      simp only [List.reverse_cons, List.append_assoc, List.singleton_append] at path ⊢
      exact path.behind fun middle path =>
        (path.raise isKeep positive).drop (Nat.sub_eq_zero_of_le (Nat.not_lt.mp whole))
  | case4 step below previous rest isKeep moved stuck isEmpty ih =>
      apply ih changes
      simp only [List.reverse_cons, List.append_assoc, List.singleton_append] at path ⊢
      exact path.behind fun middle path => path.drop isEmpty
  | case5 step below previous rest isKeep moved stuck notEmpty => exact ⟨changes, path⟩
  | case6 step below previous rest notKeep differ ih =>
      apply ih changes
      simp only [List.reverse_cons, List.append_assoc, List.singleton_append] at path ⊢
      exact path.behind fun middle path => path.swap notKeep changes differ
  | case7 step below previous rest notKeep same ih =>
      apply ih notKeep
      simp only [List.reverse_cons, List.append_assoc, List.singleton_append] at path ⊢
      exact path.behind fun middle path => path.join (not_not.mp same)

theorem shiftDown_path {above below : List Step} (changes : step.kind ≠ .keep)
    (path : Path (Fits old new total) start (above.reverse ++ step :: below) stop) :
    (shiftDown old new above step below).step.kind ≠ .keep ∧
      Path (Fits old new total) start (shiftDown old new above step below).whole stop := by
  fun_induction shiftDown old new above step below with
  | case1 above step => exact ⟨changes, path⟩
  | case2 above step next rest isKeep moved positive above' step' shorter ih =>
      apply ih changes
      apply path_keepAbove
      exact path.behind fun middle path => path.lower isKeep positive
  | case3 above step next rest isKeep moved positive above' step' whole ih =>
      apply ih changes
      apply path_keepAbove
      refine path.behind fun middle path => ?_
      rcases path_cons_iff.mp (path.lower isKeep positive) with ⟨fitsKeep, path⟩
      rcases path_cons_iff.mp path with ⟨fitsStep, path⟩
      exact .cons fitsKeep (.cons fitsStep
        (path.drop (Nat.sub_eq_zero_of_le (Nat.not_lt.mp whole))))
  | case4 above step next rest isKeep moved stuck isEmpty ih =>
      apply ih changes
      refine path.behind fun middle path => ?_
      rcases path_cons_iff.mp path with ⟨fitsStep, path⟩
      exact .cons fitsStep (path.drop isEmpty)
  | case5 above step next rest isKeep moved stuck notEmpty => exact ⟨changes, path⟩
  | case6 above step next rest notKeep differ ih =>
      apply ih changes
      simp only [List.reverse_cons, List.append_assoc, List.singleton_append]
      exact path.behind fun middle path => path.swap changes notKeep (Ne.symm differ)
  | case7 above step next rest notKeep same ih =>
      apply ih changes
      exact path.behind fun middle path => path.join (not_not.mp same).symm

/-- Shifting the changes of one kind keeps a script a path. -/
theorem shiftAll_path (kind : StepKind) (changes : kind ≠ .keep) (bound : Nat)
    {above below : List Step}
    (path : Path (Fits old new total) start (above.reverse ++ below) stop) :
    Path (Fits old new total) start (shiftAll old new kind bound above below) stop := by
  fun_induction shiftAll old new kind bound above below with
  | case1 bound above => simpa using path
  | case2 above below notNil => exact path
  | case3 bound above step below isKind raised settled ih =>
      rcases shiftUp_path (isKind ▸ changes) path with ⟨raisedChanges, raisedPath⟩
      have settledPath := (shiftDown_path raisedChanges raisedPath).2
      apply ih
      simpa [Focus.whole] using settledPath
  | case4 bound above step below otherKind ih =>
      apply ih
      simpa using path

end SourceLens.Comparison
