import SourceLens.Proofs.Edit.RoundTrip

/-!
# From scripts to round trips

A script tiles two texts when its operations cover both of them from start to end, each going on where
the one before it ended, and what it calls equal is equal.  Whatever its operations are otherwise and in
whichever order they come, the edits of its hunks are a round trip from the old text to the new one.

The invariant is about what is left of the texts: the hunks of the operations that are still to come
turn the rest of the old text into the rest of the new text.  A hunk that is still open has been passed
on both sides, so that the rest begins where it started.
-/

namespace SourceLens

open Text

/-- Whether operations tile an old and a new text from two offsets on: each starts where the one before
it ended, the last one ends with both texts, and an equality covers equal characters. -/
inductive Tiles (old new : List Char) : Nat → Nat → List Operation → Prop where
  | nil : Tiles old new old.length new.length []
  | cons {oldOffset newOffset : Nat} {operation : Operation} {operations : List Operation}
      (oldStart : operation.oldStart = oldOffset) (newStart : operation.newStart = newOffset)
      (oldUpright : operation.oldStart ≤ operation.oldStop)
      (newUpright : operation.newStart ≤ operation.newStop)
      (equal : operation.kind = .equal → (old.take operation.oldStop).drop operation.oldStart =
        (new.take operation.newStop).drop operation.newStart)
      (rest : Tiles old new operation.oldStop operation.newStop operations) :
      Tiles old new oldOffset newOffset (operation :: operations)

namespace Hunk

section Collect

variable {operation : Operation}

/-- An equality closes the hunk that is open. -/
theorem collect_of_equal (isEqual : operation.kind = .equal) (open? : Option Hunk)
    (operations : List Operation) :
    collect open? (operation :: operations) = open?.toList ++ collect none operations := by
  cases open? <;> simp [collect, isEqual]

/-- Any other operation opens a hunk, or goes on with the one that is open. -/
theorem collect_of_change (isChange : operation.kind ≠ .equal) (open? : Option Hunk)
    (operations : List Operation) :
    collect open? (operation :: operations) =
      collect (some (open?.elim (ofOperation operation) (extend · operation))) operations := by
  cases open? <;> simp [collect, isChange]

end Collect

variable {old new : List Char} {oldOffset newOffset : Nat} {hunks : List Hunk}

/-- Whether hunks have edits that turn the rest of the old text into the rest of the new one, behind an
offset in each. -/
def LeadOn (old new : List Char) (oldOffset newOffset : Nat) (hunks : List Hunk) : Prop :=
  ∃ edits, hunks.mapM (toEdit? old new) = some edits ∧
    Edit.Replaces (old.take oldOffset) (old.drop oldOffset) edits (new.drop newOffset)

theorem leadOn_nil (old new : List Char) : LeadOn old new old.length new.length [] := by
  refine ⟨[], rfl, ?_⟩
  rw [List.drop_length, List.drop_length]
  exact .nil _ []

/-- An equality adds nothing to the hunks behind it. -/
theorem LeadOn.keep {operation : Operation} (oldUpright : operation.oldStart ≤ operation.oldStop)
    (newUpright : operation.newStart ≤ operation.newStop)
    (same : (old.take operation.oldStop).drop operation.oldStart =
      (new.take operation.newStop).drop operation.newStart)
    (later : LeadOn old new operation.oldStop operation.newStop hunks) :
    LeadOn old new operation.oldStart operation.newStart hunks := by
  rcases later with ⟨edits, editsEq, replaces⟩
  exact ⟨edits, editsEq, replaces.keep_range oldUpright newUpright same⟩

/-- A hunk inside both texts goes in front of the hunks behind it. -/
theorem LeadOn.cons {hunk : Hunk} (oldUpright : hunk.oldStart ≤ hunk.oldStop)
    (newUpright : hunk.newStart ≤ hunk.newStop) (inOld : hunk.oldStop ≤ old.length)
    (inNew : hunk.newStop ≤ new.length) (later : LeadOn old new hunk.oldStop hunk.newStop hunks) :
    LeadOn old new hunk.oldStart hunk.newStart (hunk :: hunks) := by
  rcases later with ⟨edits, editsEq, replaces⟩
  have editEq := toEdit?_eq_some_iff.mpr
    ⟨⟨Nat.le_trans oldUpright inOld, inOld⟩, ⟨newUpright, inNew⟩, rfl⟩
  exact ⟨_, by simp [editEq, editsEq], replaces.replace_range oldUpright newUpright⟩

end Hunk

namespace Tiles

variable {old new : List Char} {oldOffset newOffset : Nat} {operations : List Operation}

theorem le (tiles : Tiles old new oldOffset newOffset operations) :
    oldOffset ≤ old.length ∧ newOffset ≤ new.length := by
  induction tiles with
  | nil => exact ⟨Nat.le_refl _, Nat.le_refl _⟩
  | cons oldStart newStart oldUpright newUpright _ _ ih => omega

/-- The hunks of operations that tile two texts lead on to their ends, from where the operations start
or, if a hunk is open that ends there, from where that hunk starts. -/
theorem leadOn_collect (tiles : Tiles old new oldOffset newOffset operations) :
    Hunk.LeadOn old new oldOffset newOffset (Hunk.collect none operations) ∧
    ∀ hunk : Hunk, hunk.oldStop = oldOffset → hunk.newStop = newOffset →
      hunk.oldStart ≤ hunk.oldStop → hunk.newStart ≤ hunk.newStop →
        Hunk.LeadOn old new hunk.oldStart hunk.newStart (Hunk.collect (some hunk) operations) := by
  induction tiles with
  | nil =>
      refine ⟨Hunk.leadOn_nil old new, ?_⟩
      intro hunk oldStop newStop oldUpright newUpright
      apply Hunk.LeadOn.cons oldUpright newUpright (Nat.le_of_eq oldStop) (Nat.le_of_eq newStop)
      rw [oldStop, newStop]
      exact Hunk.leadOn_nil old new
  | @cons _ _ operation operations oldStart newStart oldUpright newUpright equal rest ih =>
      subst oldStart newStart
      by_cases isEqual : operation.kind = .equal
      · simp only [Hunk.collect_of_equal isEqual]
        have kept := ih.1.keep oldUpright newUpright (equal isEqual)
        refine ⟨kept, ?_⟩
        intro hunk oldStop newStop oldUpright' newUpright'
        have inside := rest.le
        exact .cons oldUpright' newUpright' (by omega) (by omega) (by rwa [oldStop, newStop])
      · simp only [Hunk.collect_of_change isEqual]
        refine ⟨ih.2 (.ofOperation operation) rfl rfl oldUpright newUpright, ?_⟩
        intro hunk oldStop newStop oldUpright' newUpright'
        exact ih.2 (hunk.extend operation) rfl rfl (by simp only [Hunk.extend]; omega)
          (by simp only [Hunk.extend]; omega)

end Tiles

/-- Every script that tiles an old and a new text has edits, and they are a round trip: they lie between
boundaries of the old text, in order and without overlap, and turn it into the new text. -/
theorem Edit.exists_ofScript?_roundTrip {old new : List Char} {script : List Operation}
    (tiles : Tiles old new 0 0 script) :
    ∃ edits, ofScript? old new script = some edits ∧ RoundTrip old new edits := by
  rcases tiles.leadOn_collect.1 with ⟨edits, editsEq, replaces⟩
  exact ⟨edits, editsEq, replaces.roundTrip⟩

/-- Characters of one, two and four bytes are kept, removed, added twice and replaced, in two hunks. -/
theorem Edit.exists_ofScript?_roundTrip_wide :
    ofScript? ['a', 'é', 'b', '😀'] ['a', 'ß', 'x', 'b', 'y']
        [⟨.equal, 0, 1, 0, 1⟩, ⟨.insert, 1, 1, 1, 2⟩, ⟨.delete, 1, 2, 2, 2⟩, ⟨.insert, 2, 2, 2, 3⟩,
          ⟨.equal, 2, 3, 3, 4⟩, ⟨.replace, 3, 4, 4, 5⟩] =
      some [⟨⟨1, 3⟩, ['ß', 'x']⟩, ⟨⟨4, 8⟩, ['y']⟩] ∧
    RoundTrip ['a', 'é', 'b', '😀'] ['a', 'ß', 'x', 'b', 'y']
      [⟨⟨1, 3⟩, ['ß', 'x']⟩, ⟨⟨4, 8⟩, ['y']⟩] := by
  have tiles : Tiles ['a', 'é', 'b', '😀'] ['a', 'ß', 'x', 'b', 'y'] 0 0
      [⟨.equal, 0, 1, 0, 1⟩, ⟨.insert, 1, 1, 1, 2⟩, ⟨.delete, 1, 2, 2, 2⟩, ⟨.insert, 2, 2, 2, 3⟩,
        ⟨.equal, 2, 3, 3, 4⟩, ⟨.replace, 3, 4, 4, 5⟩] := by
    iterate 6 refine .cons rfl rfl (by decide) (by decide) (by decide) ?_
    exact .nil
  have editsEq : ofScript? ['a', 'é', 'b', '😀'] ['a', 'ß', 'x', 'b', 'y']
      [⟨.equal, 0, 1, 0, 1⟩, ⟨.insert, 1, 1, 1, 2⟩, ⟨.delete, 1, 2, 2, 2⟩, ⟨.insert, 2, 2, 2, 3⟩,
        ⟨.equal, 2, 3, 3, 4⟩, ⟨.replace, 3, 4, 4, 5⟩] =
      some [⟨⟨1, 3⟩, ['ß', 'x']⟩, ⟨⟨4, 8⟩, ['y']⟩] := by decide
  rcases exists_ofScript?_roundTrip tiles with ⟨edits, editsEq', roundTrip⟩
  cases editsEq.symm.trans editsEq'
  exact ⟨editsEq, roundTrip⟩

end SourceLens
