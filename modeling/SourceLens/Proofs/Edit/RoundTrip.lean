import Mathlib
import SourceLens.Proofs.Edit.Application
import SourceLens.Proofs.Edit.Compaction
import SourceLens.Proofs.Edit.Script

/-!
# Round trips

Every comparison gives edits, and all but their places are right: they are the edits of a round trip
from the old text to the new one, except that an edit that only inserts may insert elsewhere.  When
each edit of a comparison removes something, or none does, the edits are those of the round trip.
-/

namespace SourceLens

open Text

namespace Edit

/-- Whether an edit only inserts. -/
def IsInsertion (edit : Edit) : Prop :=
  edit.span.start = edit.span.stop

/-- Whether an edit is another one, up to the place at which it inserts. -/
def IsAs (edit placed : Edit) : Prop :=
  edit = placed ∨ edit.IsInsertion ∧ placed.IsInsertion ∧ edit.newText = placed.newText

/-- Whether the span of an edit lies inside a text, between boundaries. -/
structure LiesIn (text : List Char) (edit : Edit) : Prop where
  upright : edit.span.start ≤ edit.span.stop
  inside : edit.span.stop ≤ byteLength text
  startBoundary : isBoundary (String.ofList text) edit.span.start = true
  stopBoundary : isBoundary (String.ofList text) edit.span.stop = true

/-- Whether edits lie inside a text, in order and without overlap, and turn it into another one. -/
structure RoundTrip (old new : List Char) (edits : List Edit) : Prop where
  liesIn : ∀ edit ∈ edits, edit.LiesIn old
  inOrder : edits.Pairwise fun first second => first.span.stop ≤ second.span.start
  applied : applied? old edits = some new

end Edit

namespace Comparison

variable {old new : List Char} {total : Nat} {start middle stop : Position} {steps : List Step}

/-- The script of a comparison is a path from the start of both texts to their ends. -/
theorem exists_script_path (old new : List Char) :
    ∃ steps total, script old.toArray new.toArray = operations none none steps ∧
      Path (Fits old.toArray new.toArray total) ⟨0, 0, 0⟩ steps ⟨old.length, new.length, total⟩ := by
  have whole : (⟨0, old.length, 0, new.length⟩ : Window).width +
      (⟨0, old.length, 0, new.length⟩ : Window).height = old.length + new.length := rfl
  rcases @divide_path old.toArray new.toArray ⟨0, old.length, 0, new.length⟩
      ((old.length + new.length) / 2 + 3) (old.length + new.length + 1)
      ⟨.empty _, .empty _⟩ ⟨Nat.zero_le _, Nat.zero_le _⟩ (by omega) (by omega)
      ⟨Frontier.sized_empty _, Frontier.sized_empty _⟩ with ⟨raw, after, divideEq, -, rawPath⟩
  rcases rawPath 0 (Nat.le_refl 0) with ⟨total, path⟩
  have settled := path.of_raw (Nat.le_refl 0) (by simp) (by simp)
  simp only [script, List.size_toArray, divideEq]
  refine ⟨_, total, rfl, ?_⟩
  apply shiftAll_path .add (by decide)
  apply shiftAll_path .remove (by decide)
  exact settled

theorem AgreeOver.take_drop_eq {oldOffset newOffset length : Nat}
    (agreeing : AgreeOver old.toArray new.toArray oldOffset newOffset length) :
    (old.drop oldOffset).take length = (new.drop newOffset).take length := by
  apply List.ext_getElem?
  intro index
  simp only [List.getElem?_take, List.getElem?_drop]
  split
  next inside =>
    have same := agreeing index inside
    simp only [agree, List.getElem?_toArray] at same
    split at same
    next left right leftEq rightEq => rw [leftEq, rightEq, beq_iff_eq.mp same]
    next => contradiction
  next => rfl

/-- Edits for the hunks between two positions, next to the same edits in their right places.  The
places agree if the script keeps the whole old text, and the script keeps what it passes of the old
text if nothing is removed. -/
structure Realizes (old new : List Char) (total : Nat) (start stop : Position) (hunks : List Hunk)
    (edits placed : List Edit) : Prop where
  editsEq : hunks.mapM (Hunk.toEdit? old new) = some edits
  isAs : List.Forall₂ Edit.IsAs edits placed
  exact : total = old.length → edits = placed
  keeps : (∀ edit ∈ placed, edit.IsInsertion) → stop.old + start.kept = start.old + stop.kept
  replaces : ∀ {later : List Edit},
    Edit.Replaces (old.take stop.old) (old.drop stop.old) later (new.drop stop.new) →
      Edit.Replaces (old.take start.old) (old.drop start.old) (placed ++ later) (new.drop start.new)

theorem Realizes.append {hunks hunks' : List Hunk} {edits edits' placed placed' : List Edit}
    (left : Realizes old new total start middle hunks edits placed)
    (right : Realizes old new total middle stop hunks' edits' placed') :
    Realizes old new total start stop (hunks ++ hunks') (edits ++ edits') (placed ++ placed') where
  editsEq := by simp [left.editsEq, right.editsEq]
  isAs := List.rel_append left.isAs right.isAs
  exact isWhole := by rw [left.exact isWhole, right.exact isWhole]
  keeps insertions := by
    have keepsLeft := left.keeps fun edit member => insertions edit (List.mem_append_left _ member)
    have keepsRight := right.keeps fun edit member => insertions edit (List.mem_append_right _ member)
    omega
  replaces later := by
    rw [List.append_assoc]
    exact left.replaces (right.replaces later)

theorem realizes_nil (position : Position) : Realizes old new total position position [] [] [] where
  editsEq := rfl
  isAs := .nil
  exact _ := rfl
  keeps _ := rfl
  replaces later := later

theorem realizes_keep {step : Step} (isKeep : step.kind = .keep)
    (fitsStep : Fits old.toArray new.toArray total start step) :
    Realizes old new total start (start.after step) [] [] [] := by
  rcases step with ⟨kind, oldOffset, newOffset, length⟩
  cases isKeep
  rcases fitsStep with ⟨rfl, rfl, agreeing⟩
  refine ⟨rfl, .nil, fun _ => rfl, ?_, ?_⟩
  · intro _
    simp only [Position.after]
    omega
  · intro later replaces
    apply replaces.keep_range (Nat.le_add_right ..) (Nat.le_add_right ..)
    rw [List.drop_take, List.drop_take, Nat.add_sub_cancel_left, Nat.add_sub_cancel_left]
    exact agreeing.take_drop_eq

/-- The edit that leads from one position to another. -/
def editAcross (old new : List Char) (start stop : Position) : Edit :=
  ⟨⟨byteLength (old.take start.old), byteLength (old.take stop.old)⟩,
    (new.take stop.new).drop start.new⟩

theorem realizes_singleton {hunk : Hunk} {edit : Edit} (oldLe : start.old ≤ stop.old)
    (newLe : start.new ≤ stop.new) (inOld : stop.old ≤ old.length) (sameKept : stop.kept = start.kept)
    (editEq : hunk.toEdit? old new = some edit) (isAs : edit.IsAs (editAcross old new start stop))
    (exact : total = old.length → edit = editAcross old new start stop) :
    Realizes old new total start stop [hunk] [edit] [editAcross old new start stop] := by
  rcases start with ⟨oldStart, newStart, kept⟩
  rcases stop with ⟨oldStop, newStop, kept'⟩
  simp only at oldLe newLe inOld sameKept
  rcases Nat.exists_eq_add_of_le oldLe with ⟨removed, rfl⟩
  refine ⟨by simp [editEq], .cons isAs .nil, fun isWhole => by rw [exact isWhole], ?_, ?_⟩
  · intro insertion
    have sameOffset := insertion _ List.mem_cons_self
    simp only [Edit.IsInsertion, editAcross, List.take_add, byteLength_append] at sameOffset
    have nothing : (old.drop oldStart).take removed = [] := byteLength_eq_zero_iff.mp (by omega)
    have none : removed = 0 := by
      have lengthEq := congrArg List.length nothing
      simp at lengthEq
      omega
    simp only
    omega
  · intro later replaces
    exact replaces.replace_range oldLe newLe

/-- What is pending at a position, when the last characters were kept before a base. -/
structure Pending (old new : List Char) (total : Nat) (base : Position)
    (removal addition : Option Step) (position : Position) : Prop where
  removed : position.old = base.old + (removal.elim 0 Step.length)
  added : position.new = base.new + (addition.elim 0 Step.length)
  kept : position.kept = base.kept
  keptLe : base.kept ≤ base.old
  removal : ∀ step ∈ removal, step.old = base.old ∧ step.new + total ≤ new.length + base.kept
  addition : ∀ step ∈ addition, step.new = base.new ∧ base.kept ≤ step.old ∧
    step.old + total ≤ old.length + base.kept

theorem pending_none {position : Position} (keptLe : position.kept ≤ position.old) :
    Pending old new total position none none position :=
  ⟨rfl, rfl, rfl, keptLe, by simp, by simp⟩

section Pending

variable {base position : Position} {removal addition : Option Step} {step : Step}

theorem Pending.keep (pending : Pending old new total base removal addition position)
    (isKeep : step.kind = .keep) :
    Pending old new total (position.after step) none none (position.after step) := by
  apply pending_none
  have removed := pending.removed
  have kept := pending.kept
  have keptLe := pending.keptLe
  simp only [Position.after, isKeep]
  omega

theorem Pending.remove (pending : Pending old new total base removal addition position)
    (isRemove : step.kind = .remove) (fitsStep : Fits old.toArray new.toArray total position step) :
    Pending old new total base (joined removal step) addition (position.after step) := by
  rcases pending with ⟨removed, added, kept, keptLe, fitsRemoval, fitsAddition⟩
  simp only [Fits, isRemove, List.size_toArray] at fitsStep
  simp only [Position.after, isRemove]
  refine ⟨?_, added, kept, keptLe, ?_, fitsAddition⟩
  · cases removal <;> simp [joined] at removed ⊢ <;> omega
  · cases removal <;> simp [joined] at removed fitsRemoval ⊢ <;> omega

theorem Pending.add (pending : Pending old new total base removal addition position)
    (isAdd : step.kind = .add) (fitsStep : Fits old.toArray new.toArray total position step) :
    Pending old new total base removal (joined addition step) (position.after step) := by
  rcases pending with ⟨removed, added, kept, keptLe, fitsRemoval, fitsAddition⟩
  simp only [Fits, isAdd, List.size_toArray] at fitsStep
  simp only [Position.after, isAdd]
  refine ⟨removed, ?_, kept, keptLe, fitsRemoval, ?_⟩
  · cases addition <;> simp [joined] at added ⊢ <;> omega
  · cases addition <;> simp [joined] at added fitsAddition ⊢ <;> omega

end Pending

theorem Pending.realizes {base position : Position} {removal addition : Option Step}
    (pending : Pending old new total base removal addition position)
    (path : Path (Fits old.toArray new.toArray total) position steps
      ⟨old.length, new.length, total⟩) :
    ∃ edits placed, Realizes old new total base position
      ((pendingOperation removal addition).map Hunk.ofOperation) edits placed := by
  rcases path.mono with ⟨inOld, inNew, keptTotal⟩
  have passed := path.kept_le.1
  simp only at inOld inNew keptTotal passed
  have kept := pending.kept
  have keptLe := pending.keptLe
  rcases removal with _ | removal <;> rcases addition with _ | addition
  · have isBase : position = base := by
      rcases pending with ⟨removed, added, kept, -, -, -⟩
      rcases base with ⟨baseOld, baseNew, baseKept⟩
      rcases position with ⟨positionOld, positionNew, positionKept⟩
      simp_all
    rw [isBase]
    exact ⟨[], [], realizes_nil base⟩
  · have removed : position.old = base.old := pending.removed
    have added : position.new = base.new + addition.length := pending.added
    rcases pending.addition addition rfl with ⟨newEq, low, high⟩
    have editEq : Hunk.toEdit? old new
        ⟨addition.old, addition.old, addition.new, addition.new + addition.length⟩ =
          some ⟨⟨byteLength (old.take addition.old), byteLength (old.take addition.old)⟩,
            (new.take position.new).drop base.new⟩ :=
      Hunk.toEdit?_eq_some_iff.mpr ⟨⟨by simp only; omega, by simp only; omega⟩,
        ⟨by simp, by simp only; omega⟩, by simp only [newEq, added]⟩
    refine ⟨_, _, realizes_singleton (by omega) (by omega) inOld kept editEq ?_ ?_⟩
    · right
      simp [Edit.IsInsertion, editAcross, removed]
    · intro isWhole
      -- With nothing removed, the room that is left for the offset is a single place.
      have inPlace : addition.old = base.old := by omega
      simp [editAcross, removed, inPlace]
  · have removed : position.old = base.old + removal.length := pending.removed
    have added : position.new = base.new := pending.added
    rcases pending.removal removal rfl with ⟨oldEq, high⟩
    have editEq : Hunk.toEdit? old new
        ⟨removal.old, removal.old + removal.length, removal.new, removal.new⟩ =
          some (editAcross old new base position) :=
      Hunk.toEdit?_eq_some_iff.mpr ⟨⟨by simp only; omega, by simp only; omega⟩,
        ⟨by simp, by simp only; omega⟩, by simp [editAcross, oldEq, removed, added]⟩
    exact ⟨_, _, realizes_singleton (by omega) (by omega) inOld kept editEq (.inl rfl) fun _ => rfl⟩
  · have removed : position.old = base.old + removal.length := pending.removed
    have added : position.new = base.new + addition.length := pending.added
    have oldEq := (pending.removal removal rfl).1
    have newEq := (pending.addition addition rfl).1
    have editEq : Hunk.toEdit? old new
        ⟨removal.old, removal.old + removal.length, addition.new, addition.new + addition.length⟩ =
          some (editAcross old new base position) :=
      Hunk.toEdit?_eq_some_iff.mpr ⟨⟨by simp only; omega, by simp only; omega⟩,
        ⟨by simp, by simp only; omega⟩, by simp [editAcross, oldEq, newEq, removed, added]⟩
    exact ⟨_, _, realizes_singleton (by omega) (by omega) inOld kept editEq (.inl rfl) fun _ => rfl⟩

theorem exists_realizes {base position : Position} {removal addition : Option Step}
    (pending : Pending old new total base removal addition position)
    (path : Path (Fits old.toArray new.toArray total) position steps
      ⟨old.length, new.length, total⟩) :
    ∃ edits placed, Realizes old new total base ⟨old.length, new.length, total⟩
      (Hunk.collect none (operations removal addition steps)) edits placed := by
  induction steps generalizing base position removal addition with
  | nil =>
      cases path_nil_iff.mp path
      rcases pending.realizes path with ⟨edits, placed, realizes⟩
      rw [operations, ← List.append_nil (pendingOperation removal addition),
        collect_pendingOperation (by simp)]
      exact ⟨_, _, realizes.append (realizes_nil _)⟩
  | cons step steps ih =>
      rcases path_cons_iff.mp path with ⟨fitsStep, later⟩
      rw [operations]
      split
      next isKeep =>
        rcases pending.realizes path with ⟨edits, placed, realizes⟩
        rcases ih (pending.keep isKeep) later with ⟨edits', placed', realizes'⟩
        rw [collect_pendingOperation (by simp)]
        exact ⟨_, _, realizes.append ((realizes_keep isKeep fitsStep).append realizes')⟩
      next isRemove => exact ih (pending.remove isRemove fitsStep) later
      next isAdd => exact ih (pending.add isAdd fitsStep) later

end Comparison

namespace Edit

variable {old new : List Char} {edits placed : List Edit}

theorem liesIn_of_boundaries {edit : Edit} (upright : edit.span.start ≤ edit.span.stop)
    (startBoundary : ∃ before after, old = before ++ after ∧ byteLength before = edit.span.start)
    (stopBoundary : ∃ before after, old = before ++ after ∧ byteLength before = edit.span.stop) :
    edit.LiesIn old where
  upright := upright
  inside := by
    rcases stopBoundary with ⟨before, after, rfl, lengthEq⟩
    rw [byteLength_append]
    omega
  startBoundary := isBoundary_iff.mpr (by rwa [String.toList_ofList])
  stopBoundary := isBoundary_iff.mpr (by rwa [String.toList_ofList])

theorem between?_liesIn (editsEq : between? old new = some edits) :
    ∀ edit ∈ edits, edit.LiesIn old := by
  intro edit member
  have upright := between?_upright editsEq edit member
  unfold between? at editsEq
  split at editsEq
  · cases editsEq
    cases member
  · rcases Hunk.exists_of_mem_mapM_toEdit? editsEq member with ⟨hunk, -, editEq⟩
    rcases Hunk.toEdit?_eq_some_iff.mp editEq with ⟨-, -, rfl⟩
    exact liesIn_of_boundaries upright ⟨_, _, (List.take_append_drop _ old).symm, rfl⟩
      ⟨_, _, (List.take_append_drop _ old).symm, rfl⟩

theorem Replaces.boundaries {done rest result : List Char}
    (replaces : Replaces done rest edits result) : ∀ edit ∈ edits,
      (∃ before after, done ++ rest = before ++ after ∧ byteLength before = edit.span.start) ∧
      ∃ before after, done ++ rest = before ++ after ∧ byteLength before = edit.span.stop := by
  induction replaces with
  | nil done rest => simp
  | @cons done kept removed rest result edit edits startEq stopEq tail ih =>
      intro other member
      rcases List.mem_cons.mp member with rfl | member
      · exact ⟨⟨done ++ kept, removed ++ rest, by simp, startEq.symm⟩,
          ⟨done ++ kept ++ removed, rest, by simp, stopEq.symm⟩⟩
      · simpa using ih other member

theorem Replaces.roundTrip (replaces : Replaces [] old edits new) : RoundTrip old new edits where
  liesIn edit member :=
    liesIn_of_boundaries (replaces.bounds edit member).2 (replaces.boundaries edit member).1
      (replaces.boundaries edit member).2
  inOrder := replaces.pairwise
  applied := replaces.applied?_eq

/-- Every comparison has edits, next to the edits of a round trip. -/
theorem exists_between? (old new : List Char) :
    ∃ edits placed, between? old new = some edits ∧ Replaces [] old placed new ∧
      List.Forall₂ IsAs edits placed ∧ ((∀ edit ∈ placed, edit.IsInsertion) → edits = placed) := by
  unfold between?
  split
  next same =>
    subst same
    exact ⟨[], [], rfl, .nil [] old, .nil, fun _ => rfl⟩
  next =>
    rcases Comparison.exists_script_path old new with ⟨steps, total, scriptEq, path⟩
    rcases Comparison.exists_realizes (Comparison.pending_none (Nat.le_refl 0)) path with
      ⟨edits, placed, realizes⟩
    refine ⟨edits, placed, ?_, ?_, realizes.isAs, ?_⟩
    · rw [scriptEq]
      exact realizes.editsEq
    · have atEnd : Replaces (old.take old.length) (old.drop old.length) [] (new.drop new.length) := by
        rw [List.drop_length, List.drop_length]
        exact .nil _ []
      simpa using realizes.replaces atEnd
    · intro insertions
      have keeps := realizes.keeps insertions
      simp only at keeps
      exact realizes.exact (by omega)

theorem eq_of_forall₂_isAs (isAs : List.Forall₂ IsAs edits placed)
    (removes : ∀ edit ∈ edits, ¬edit.IsInsertion) : edits = placed := by
  induction isAs with
  | nil => rfl
  | @cons edit other edits others isAs rest ih =>
      rw [List.forall_mem_cons] at removes
      rcases isAs with rfl | ⟨inserts, -⟩
      · rw [ih removes.2]
      · exact absurd inserts removes.1

theorem isInsertion_of_forall₂_isAs (isAs : List.Forall₂ IsAs edits placed)
    (insertions : ∀ edit ∈ edits, edit.IsInsertion) : ∀ edit ∈ placed, edit.IsInsertion := by
  induction isAs with
  | nil => exact insertions
  | @cons edit other edits others isAs rest ih =>
      rw [List.forall_mem_cons] at insertions ⊢
      refine ⟨?_, ih insertions.2⟩
      rcases isAs with rfl | ⟨-, inserts, -⟩
      · exact insertions.1
      · exact inserts

/-- Every comparison gives edits inside the old text, and in their right places they are a round
trip.  Only edits that insert can be out of place, and only next to edits that remove. -/
theorem exists_isAs_roundTrip (old new : List Char) :
    ∃ edits placed, between? old new = some edits ∧ (∀ edit ∈ edits, edit.LiesIn old) ∧
      RoundTrip old new placed ∧ List.Forall₂ IsAs edits placed ∧
      ((∀ edit ∈ edits, ¬edit.IsInsertion) ∨ (∀ edit ∈ edits, edit.IsInsertion) →
        RoundTrip old new edits) := by
  rcases exists_between? old new with ⟨edits, placed, editsEq, replaces, isAs, inPlace⟩
  refine ⟨edits, placed, editsEq, between?_liesIn editsEq, replaces.roundTrip, isAs, ?_⟩
  rintro (removes | insertions)
  · rw [eq_of_forall₂_isAs isAs removes]
    exact replaces.roundTrip
  · rw [inPlace (isInsertion_of_forall₂_isAs isAs insertions)]
    exact replaces.roundTrip

/-- Out of place, the edits of a comparison lead to another text. -/
theorem not_roundTrip_of_comparison :
    ∃ edits, between? ['a', 'b'] ['b', 'b', 'c'] = some edits ∧
      applied? ['a', 'b'] edits = some ['b', 'c', 'b'] ∧
      ¬RoundTrip ['a', 'b'] ['b', 'b', 'c'] edits := by
  refine ⟨[⟨⟨0, 1⟩, []⟩, ⟨⟨1, 1⟩, ['b', 'c']⟩], by cbv, by decide +kernel, ?_⟩
  intro roundTrip
  have applied := roundTrip.applied
  revert applied
  decide +kernel

end Edit

end SourceLens
