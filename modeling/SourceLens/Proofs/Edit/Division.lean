import SourceLens.Proofs.Edit.Meeting

/-!
# The raw script of a window

The steps of a raw script lead from the start of its window to the end, and each of them begins where
the one before it has led.  Only an addition may begin elsewhere in the old text: what is removed
along with it comes first, and the addition still begins before it.
-/

namespace SourceLens

/-- Whether no range of a window ends before it starts. -/
structure Window.Proper (window : Window) : Prop where
  old : window.oldStart ≤ window.oldStop
  new : window.newStart ≤ window.newStop

/-- A place in both texts, with the number of characters that have been kept on the way to it. -/
structure Position where
  /-- Offset in the old text. -/
  old : Nat
  /-- Offset in the new text. -/
  new : Nat
  /-- Number of characters kept so far. -/
  kept : Nat

namespace Position

/-- Where a step leads. -/
def after (position : Position) (step : Step) : Position :=
  match step.kind with
  | .keep =>
      ⟨position.old + step.length, position.new + step.length, position.kept + step.length⟩
  | .remove => { position with old := position.old + step.length }
  | .add => { position with new := position.new + step.length }

end Position

namespace Comparison

/-- Steps that lead from one position to another, each of which fits the position it begins at. -/
inductive Path (fits : Position → Step → Prop) : Position → List Step → Position → Prop where
  | nil (position : Position) : Path fits position [] position
  | cons {start stop : Position} {step : Step} {steps : List Step} (first : fits start step)
      (rest : Path fits (start.after step) steps stop) : Path fits start (step :: steps) stop

section Path

variable {fits : Position → Step → Prop} {start stop : Position} {step : Step}
  {steps first second : List Step}

theorem path_nil_iff : Path fits start [] stop ↔ start = stop := by
  constructor
  · rintro ⟨⟩
    rfl
  · rintro rfl
    exact .nil start

theorem path_cons_iff : Path fits start (step :: steps) stop ↔
    fits start step ∧ Path fits (start.after step) steps stop := by
  constructor
  · rintro ⟨⟩
    exact ⟨‹_›, ‹_›⟩
  · rintro ⟨fitsStep, rest⟩
    exact .cons fitsStep rest

theorem path_append_iff : Path fits start (first ++ second) stop ↔
    ∃ middle, Path fits start first middle ∧ Path fits middle second stop := by
  induction first generalizing start with
  | nil => simp [path_nil_iff]
  | cons step first ih =>
      simp only [List.cons_append, path_cons_iff, ih]
      constructor
      · rintro ⟨fitsStep, middle, left, right⟩
        exact ⟨middle, ⟨fitsStep, left⟩, right⟩
      · rintro ⟨middle, ⟨fitsStep, left⟩, right⟩
        exact ⟨fitsStep, middle, left, right⟩

theorem Path.append {middle : Position} (left : Path fits start first middle)
    (right : Path fits middle second stop) : Path fits start (first ++ second) stop :=
  path_append_iff.mpr ⟨middle, left, right⟩

theorem path_stepIf {kind : StepKind} {old new length : Nat}
    (fitsStep : fits start ⟨kind, old, new, length⟩) :
    Path fits start (stepIf kind old new length) (start.after ⟨kind, old, new, length⟩) := by
  unfold stepIf
  split
  next isZero =>
    subst isZero
    cases kind <;> exact .nil start
  next => exact .cons fitsStep (.nil _)

theorem Path.mono (path : Path fits start steps stop) :
    start.old ≤ stop.old ∧ start.new ≤ stop.new ∧ start.kept ≤ stop.kept := by
  induction path with
  | nil position => exact ⟨Nat.le_refl _, Nat.le_refl _, Nat.le_refl _⟩
  | @cons start stop step steps first rest ih =>
      unfold Position.after at ih
      split at ih <;> simp only at ih <;> omega

/-- On the way along a path, as many characters of each text are passed as are kept, or more. -/
theorem Path.kept_le (path : Path fits start steps stop) :
    start.old + stop.kept ≤ stop.old + start.kept ∧
      start.new + stop.kept ≤ stop.new + start.kept := by
  induction path with
  | nil position => exact ⟨Nat.le_refl _, Nat.le_refl _⟩
  | @cons start stop step steps first rest ih =>
      unfold Position.after at ih
      split at ih <;> simp only at ih <;> omega

end Path

section Raw

variable (old new : Array Char)

/-- Whether the characters at two offsets agree, over a length. -/
def AgreeOver (oldOffset newOffset length : Nat) : Prop :=
  ∀ index < length, agree old new (oldOffset + index) (newOffset + index) = true

/-- Whether a step of a raw script fits its position. -/
def FitsRaw (position : Position) (step : Step) : Prop :=
  match step.kind with
  | .keep =>
      step.old = position.old ∧ step.new = position.new ∧
        AgreeOver old new step.old step.new step.length
  | .remove => step.old = position.old ∧ step.new = position.new
  | .add => step.new = position.new ∧ position.kept ≤ step.old ∧ step.old ≤ position.old

variable {old new} {window : Window} {reach kept : Nat}

theorem agreeOver_commonStart (window : Window) :
    AgreeOver old new window.oldStart window.newStart (commonStart old new window) :=
  fun _ => agree_of_lt_commonStart

theorem agreeOver_commonStop (window : Window) :
    AgreeOver old new (window.oldStop - commonStop old new window)
      (window.newStop - commonStop old new window) (commonStop old new window) := by
  intro index inside
  have atMost := commonStop_le old new window
  unfold Window.width Window.height at atMost
  have agreeing := agree_of_lt_commonStop (Nat.sub_one_sub_lt_of_lt inside)
  convert agreeing using 2
  · omega
  · omega

/-- The steps that remove the old range of a window and add the new one. -/
def replacement (window : Window) : List Step :=
  stepIf .remove window.oldStart window.newStart (window.oldStop - window.oldStart) ++
    stepIf .add window.oldStart window.newStart (window.newStop - window.newStart)

theorem path_replacement (proper : window.Proper) (keptLe : kept ≤ window.oldStart) :
    Path (FitsRaw old new) ⟨window.oldStart, window.newStart, kept⟩ (replacement window)
      ⟨window.oldStop, window.newStop, kept⟩ := by
  have removal : Path (FitsRaw old new) ⟨window.oldStart, window.newStart, kept⟩
      (stepIf .remove window.oldStart window.newStart (window.oldStop - window.oldStart))
      ⟨window.oldStart + (window.oldStop - window.oldStart), window.newStart, kept⟩ :=
    path_stepIf ⟨rfl, rfl⟩
  have addition : Path (FitsRaw old new)
      ⟨window.oldStart + (window.oldStop - window.oldStart), window.newStart, kept⟩
      (stepIf .add window.oldStart window.newStart (window.newStop - window.newStart))
      ⟨window.oldStart + (window.oldStop - window.oldStart),
        window.newStart + (window.newStop - window.newStart), kept⟩ :=
    path_stepIf ⟨rfl, keptLe, Nat.le_add_right _ _⟩
  rw [Nat.add_sub_of_le proper.old] at removal addition
  rw [Nat.add_sub_of_le proper.new] at addition
  exact removal.append addition

variable (old new) in
/-- A window without the common beginning of its ranges. -/
def behindStart (window : Window) : Window :=
  { window with
    oldStart := window.oldStart + commonStart old new window
    newStart := window.newStart + commonStart old new window }

variable (old new) in
/-- A window without the common beginning and the common end of its ranges. -/
def core (window : Window) : Window :=
  { behindStart old new window with
    oldStop := window.oldStop - commonStop old new (behindStart old new window)
    newStop := window.newStop - commonStop old new (behindStart old new window) }

variable (old new window) in
theorem commonStop_behindStart_le (proper : window.Proper) :
    window.oldStart + commonStart old new window + commonStop old new (behindStart old new window) ≤
        window.oldStop ∧
      window.newStart + commonStart old new window +
          commonStop old new (behindStart old new window) ≤ window.newStop := by
  have atStart := commonStart_le old new window
  have atStop := commonStop_le old new (behindStart old new window)
  have old := proper.old
  have new := proper.new
  simp only [Window.width, Window.height, behindStart] at *
  omega

theorem proper_core (proper : window.Proper) : (core old new window).Proper := by
  have bounds := commonStop_behindStart_le old new window proper
  exact ⟨Nat.le_sub_of_add_le bounds.1, Nat.le_sub_of_add_le bounds.2⟩

variable (old new window) in
theorem size_core_le (proper : window.Proper) :
    (core old new window).width + (core old new window).height ≤ window.width + window.height := by
  have bounds := commonStop_behindStart_le old new window proper
  simp only [core, behindStart, Window.width, Window.height] at *
  omega

theorem contrasting_core (wide : (core old new window).oldStart < (core old new window).oldStop)
    (high : (core old new window).newStart < (core old new window).newStop) :
    Contrasting old new (core old new window) := by
  have wide' : window.oldStart + commonStart old new window <
      window.oldStop - commonStop old new (behindStart old new window) := wide
  have high' : window.newStart + commonStart old new window <
      window.newStop - commonStop old new (behindStart old new window) := high
  refine ⟨Nat.sub_pos_of_lt wide, Nat.sub_pos_of_lt high, ?_, ?_⟩
  · apply agree_commonStart
    · unfold Window.width
      omega
    · unfold Window.height
      omega
  · apply @agree_commonStop old new (behindStart old new window)
    · simp only [Window.width, behindStart] at *
      omega
    · simp only [Window.height, behindStart] at *
      omega

variable (old new) in
/-- Steps between what is kept at the ends of a window. -/
def withEnds (window : Window) (steps : List Step) : List Step :=
  stepIf .keep window.oldStart window.newStart (commonStart old new window) ++ steps ++
    stepIf .keep (core old new window).oldStop (core old new window).newStop
      (commonStop old new (behindStart old new window))

theorem path_withEnds (proper : window.Proper) {steps : List Step} {kept' : Nat}
    (path : Path (FitsRaw old new)
      ⟨(core old new window).oldStart, (core old new window).newStart,
        kept + commonStart old new window⟩ steps
      ⟨(core old new window).oldStop, (core old new window).newStop, kept'⟩) :
    Path (FitsRaw old new) ⟨window.oldStart, window.newStart, kept⟩ (withEnds old new window steps)
      ⟨window.oldStop, window.newStop, kept' + commonStop old new (behindStart old new window)⟩ := by
  have bounds := commonStop_behindStart_le old new window proper
  have opening : Path (FitsRaw old new) ⟨window.oldStart, window.newStart, kept⟩
      (stepIf .keep window.oldStart window.newStart (commonStart old new window))
      ⟨window.oldStart + commonStart old new window, window.newStart + commonStart old new window,
        kept + commonStart old new window⟩ :=
    path_stepIf ⟨rfl, rfl, agreeOver_commonStart window⟩
  have closing : Path (FitsRaw old new)
      ⟨(core old new window).oldStop, (core old new window).newStop, kept'⟩
      (stepIf .keep (core old new window).oldStop (core old new window).newStop
        (commonStop old new (behindStart old new window)))
      ⟨(core old new window).oldStop + commonStop old new (behindStart old new window),
        (core old new window).newStop + commonStop old new (behindStart old new window),
        kept' + commonStop old new (behindStart old new window)⟩ :=
    path_stepIf ⟨rfl, rfl, agreeOver_commonStop (behindStart old new window)⟩
  have oldStopEq : (core old new window).oldStop +
      commonStop old new (behindStart old new window) = window.oldStop :=
    Nat.sub_add_cancel (by omega)
  have newStopEq : (core old new window).newStop +
      commonStop old new (behindStart old new window) = window.newStop :=
    Nat.sub_add_cancel (by omega)
  rw [oldStopEq, newStopEq] at closing
  exact (opening.append path).append closing

theorem Divides.size_lt {column row : Nat} (divides : Divides window (column, row)) :
    let left : Window := { window with oldStop := column, newStop := row }
    let right : Window := { window with oldStart := column, newStart := row }
    left.width + left.height < window.width + window.height ∧
      right.width + right.height < window.width + window.height := by
  rcases divides with ⟨oldStart_le, le_oldStop, newStart_le, le_newStop, start_lt, lt_stop⟩
  simp only [Window.width, Window.height] at *
  omega

theorem divide_succ (bound : Nat) (window : Window) (frontiers : Frontiers) :
    divide old new (bound + 1) window frontiers =
      if (core old new window).newStart = (core old new window).newStop ∨
          (core old new window).oldStart = (core old new window).oldStop then
        (withEnds old new window (replacement (core old new window)), frontiers)
      else
        match middle old new (core old new window) frontiers with
        | (frontiers, none) =>
            (withEnds old new window (replacement (core old new window)), frontiers)
        | (frontiers, some (column, row)) =>
            let (left, frontiers) := divide old new bound
              { core old new window with oldStop := column, newStop := row } frontiers
            let (right, frontiers) := divide old new bound
              { core old new window with oldStart := column, newStart := row } frontiers
            (withEnds old new window (left ++ right), frontiers) := by
  rw [divide]
  simp only [withEnds, replacement, List.append_assoc]
  rfl

/-- The raw script of a window leads through it, whatever has been kept before. -/
theorem divide_path {bound : Nat} {frontiers : Frontiers} (proper : window.Proper)
    (small : window.width + window.height < bound)
    (room : (window.width + window.height + 1) / 2 + 1 < reach) (sized : frontiers.Sized reach) :
    ∃ steps after, divide old new bound window frontiers = (steps, after) ∧ after.Sized reach ∧
      ∀ kept ≤ window.oldStart, ∃ kept', Path (FitsRaw old new)
        ⟨window.oldStart, window.newStart, kept⟩ steps ⟨window.oldStop, window.newStop, kept'⟩ := by
  induction bound generalizing window frontiers with
  | zero => exact absurd small (Nat.not_lt_zero _)
  | succ bound ih =>
      have coreProper : (core old new window).Proper := proper_core proper
      have atMost := size_core_le old new window proper
      -- Both ways out of the division without a point use the same steps.
      have undivided : ∀ kept ≤ window.oldStart, ∃ kept', Path (FitsRaw old new)
          ⟨window.oldStart, window.newStart, kept⟩
          (withEnds old new window (replacement (core old new window)))
          ⟨window.oldStop, window.newStop, kept'⟩ := fun kept keptLe =>
        ⟨_, path_withEnds proper (path_replacement coreProper (Nat.add_le_add_right keptLe _))⟩
      rw [divide_succ]
      split
      next => exact ⟨_, frontiers, rfl, sized, undivided⟩
      next notEmpty =>
        rw [not_or] at notEmpty
        have contrast : Contrasting old new (core old new window) :=
          contrasting_core (Nat.lt_of_le_of_ne coreProper.old notEmpty.2)
            (Nat.lt_of_le_of_ne coreProper.new notEmpty.1)
        rcases middle_divides contrast sized (by omega) with ⟨after, point?, middleEq, sized, divides⟩
        rw [middleEq]
        rcases point? with _ | ⟨column, row⟩
        · exact ⟨_, after, rfl, sized, undivided⟩
        have divides := divides (column, row) rfl
        have smaller := divides.size_lt
        rcases @ih ⟨(core old new window).oldStart, column, (core old new window).newStart, row⟩ after
            ⟨divides.oldStart_le, divides.newStart_le⟩ (by omega) (by omega) sized with
          ⟨left, after, leftEq, sized, leftPath⟩
        rcases @ih ⟨column, (core old new window).oldStop, row, (core old new window).newStop⟩ after
            ⟨divides.le_oldStop, divides.le_newStop⟩ (by omega) (by omega) sized with
          ⟨right, after, rightEq, sized, rightPath⟩
        simp only [leftEq, rightEq]
        refine ⟨_, after, rfl, sized, ?_⟩
        intro kept keptLe
        rcases leftPath (kept + commonStart old new window) (Nat.add_le_add_right keptLe _) with
          ⟨keptLeft, leftPath⟩
        have startEq : (core old new window).oldStart =
            window.oldStart + commonStart old new window := rfl
        have passed := leftPath.kept_le.1
        simp only at passed
        rcases rightPath keptLeft (by simp only; omega) with ⟨keptRight, rightPath⟩
        exact ⟨_, path_withEnds proper (leftPath.append rightPath)⟩

end Raw

end Comparison

end SourceLens
