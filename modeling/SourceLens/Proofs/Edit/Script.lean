import SourceLens.Edit.Comparison
import SourceLens.Proofs.Text.Boundary

/-!
# Edits of scripts

The operations of a comparison never follow one another without an equality in between, so that
every hunk is one operation, and no edit of a comparison ends before it starts.
-/

namespace SourceLens

open Text

theorem Text.byteLength_take_le {chars : List Char} {short long : Nat} (shorter : short ≤ long) :
    byteLength (chars.take short) ≤ byteLength (chars.take long) := by
  rcases List.take_prefix_take_left shorter with ⟨rest, longEq⟩
  rw [← longEq, byteLength_append]
  omega

namespace Comparison

theorem pendingOperation_upright {removal addition : Option Step} {operation : Operation}
    (member : operation ∈ pendingOperation removal addition) :
    operation.kind ≠ .equal ∧ operation.oldStart ≤ operation.oldStop := by
  unfold pendingOperation at member
  split at member
  · cases member
  all_goals
    rw [List.mem_singleton.mp member]
    simp

theorem length_pendingOperation_le (removal addition : Option Step) :
    (pendingOperation removal addition).length ≤ 1 := by
  unfold pendingOperation
  split <;> simp

/-- What is pending is one hunk, if it is followed by an equality or by nothing. -/
theorem collect_pendingOperation {removal addition : Option Step} {operations : List Operation}
    (followed : ∀ operation ∈ operations.head?, operation.kind = .equal) :
    Hunk.collect none (pendingOperation removal addition ++ operations) =
      (pendingOperation removal addition).map Hunk.ofOperation ++ Hunk.collect none operations := by
  have closes : ∀ hunk, Hunk.collect (some hunk) operations =
      hunk :: Hunk.collect none operations := by
    intro hunk
    cases operations with
    | nil => rfl
    | cons operation operations =>
        have isEqual := followed operation rfl
        simp [Hunk.collect, isEqual]
  have short := length_pendingOperation_le removal addition
  have changes := @pendingOperation_upright removal addition
  generalize pendingOperation removal addition = pending at short changes
  rcases pending with _ | ⟨operation, _ | ⟨second, rest⟩⟩
  · rfl
  · have notEqual := (changes List.mem_cons_self).1
    simp [Hunk.collect, notEqual, closes]
  · simp only [List.length_cons] at short
    omega

theorem collect_operations_upright {removal addition : Option Step} {steps : List Step}
    {hunk : Hunk} (member : hunk ∈ Hunk.collect none (operations removal addition steps)) :
    hunk.oldStart ≤ hunk.oldStop := by
  have pendingUpright : ∀ removal addition,
      hunk ∈ (pendingOperation removal addition).map Hunk.ofOperation →
        hunk.oldStart ≤ hunk.oldStop := by
    intro removal addition member
    rcases List.mem_map.mp member with ⟨operation, operationMember, rfl⟩
    exact (pendingOperation_upright operationMember).2
  induction steps generalizing removal addition with
  | nil =>
      rw [operations, ← List.append_nil (pendingOperation removal addition),
        collect_pendingOperation (by simp)] at member
      exact pendingUpright removal addition (by simpa [Hunk.collect] using member)
  | cons step steps ih =>
      rw [operations] at member
      split at member
      next =>
        rw [collect_pendingOperation (by simp)] at member
        rcases List.mem_append.mp member with pending | later
        · exact pendingUpright removal addition pending
        · exact ih (by simpa [Hunk.collect] using later)
      next => exact ih member
      next => exact ih member

end Comparison

/-- A hunk has an edit exactly when its ranges lie within their texts, and it is the edit between
the byte offsets of its characters. -/
theorem Hunk.toEdit?_eq_some_iff {old new : List Char} {hunk : Hunk} {edit : Edit} :
    hunk.toEdit? old new = some edit ↔
      (hunk.oldStart ≤ old.length ∧ hunk.oldStop ≤ old.length) ∧
      (hunk.newStart ≤ hunk.newStop ∧ hunk.newStop ≤ new.length) ∧
      edit = ⟨⟨byteLength (old.take hunk.oldStart), byteLength (old.take hunk.oldStop)⟩,
        (new.take hunk.newStop).drop hunk.newStart⟩ := by
  simp only [toEdit?, byteOffset?, Option.bind_eq_bind, Option.pure_def, Option.bind_eq_some_iff,
    Option.ite_none_right_eq_some, Option.some.injEq]
  constructor
  · rintro ⟨start, ⟨startIn, rfl⟩, stop, ⟨stopIn, rfl⟩, newIn, rfl⟩
    exact ⟨⟨startIn, stopIn⟩, newIn, rfl⟩
  · rintro ⟨⟨startIn, stopIn⟩, newIn, rfl⟩
    exact ⟨_, ⟨startIn, rfl⟩, _, ⟨stopIn, rfl⟩, newIn, rfl⟩

theorem Hunk.toEdit?_upright {old new : List Char} {hunk : Hunk} {edit : Edit}
    (upright : hunk.oldStart ≤ hunk.oldStop) (editEq : hunk.toEdit? old new = some edit) :
    edit.span.start ≤ edit.span.stop := by
  rw [(toEdit?_eq_some_iff.mp editEq).2.2]
  exact byteLength_take_le upright

theorem Hunk.exists_of_mem_mapM_toEdit? {old new : List Char} {hunks : List Hunk}
    {edits : List Edit} (editsEq : hunks.mapM (toEdit? old new) = some edits) {edit : Edit}
    (member : edit ∈ edits) : ∃ hunk ∈ hunks, hunk.toEdit? old new = some edit := by
  induction hunks generalizing edits with
  | nil =>
      cases editsEq
      cases member
  | cons hunk hunks ih =>
      simp only [List.mapM_cons, Option.bind_eq_bind, Option.pure_def, Option.bind_eq_some_iff,
        Option.some.injEq] at editsEq
      rcases editsEq with ⟨first, firstEq, rest, restEq, rfl⟩
      rcases List.mem_cons.mp member with rfl | member
      · exact ⟨hunk, List.mem_cons_self, firstEq⟩
      · rcases ih restEq member with ⟨other, otherMember, otherEq⟩
        exact ⟨other, List.mem_cons_of_mem _ otherMember, otherEq⟩

/-- No edit of a comparison is inverted. -/
theorem Edit.between?_upright {old new : List Char} {edits : List Edit}
    (editsEq : Edit.between? old new = some edits) :
    ∀ edit ∈ edits, edit.span.start ≤ edit.span.stop := by
  intro edit member
  unfold between? at editsEq
  split at editsEq
  · cases editsEq
    cases member
  · rcases Hunk.exists_of_mem_mapM_toEdit? editsEq member with ⟨hunk, hunkMember, editEq⟩
    exact Hunk.toEdit?_upright (Comparison.collect_operations_upright hunkMember) editEq

end SourceLens
