import SourceLens.Edit
import SourceLens.Proofs.Text.Boundary
import Mathlib.Data.List.Chain

/-!
# Ordering edits and carrying them out

A list of edits is in order when each edit ends at or before the start of the next one.  `normalize`
accepts a list exactly when its edits lie inside the text and are in order once sorted.

How edits act on a text is described by `Edit.Replaces`: the text is a sequence of kept and removed
parts, and every removed part lies under one of the edits.  `applied?` computes the text that such a
description gives, and edits in order whose ends are boundaries always have one.
-/

namespace SourceLens.Edit

open Text

/-- Whether each edit ends at or before the start of the next one. -/
def InOrder (edits : List Edit) : Prop :=
  edits.IsChain fun first second => first.span.stop ≤ second.span.start

/-- A sorted list has no overlap exactly when it is in order. -/
theorem overlap?_eq_none_iff {edits : List Edit} : overlap? edits = none ↔ InOrder edits := by
  fun_induction overlap? edits with
  | case1 first second edits startsInside =>
      simp only [reduceCtorEq, InOrder, List.isChain_cons_cons, false_iff, not_and]
      omega
  | case2 first second edits startsBehind ih =>
      rw [ih]
      simp only [InOrder, List.isChain_cons_cons]
      constructor
      · intro inOrder
        exact ⟨by omega, inOrder⟩
      · rintro ⟨-, inOrder⟩
        exact inOrder
  | case3 edits short =>
      simp only [true_iff]
      rcases edits with _ | ⟨first, _ | ⟨second, edits⟩⟩
      · exact .nil
      · exact .singleton first
      · exact (short first second edits rfl).elim

/-- An edit is without fault exactly when it is not inverted and ends inside the text. -/
theorem fault?_eq_none_iff {length : Nat} {edit : Edit} :
    fault? length edit = none ↔ edit.span.start ≤ edit.span.stop ∧ edit.span.stop ≤ length := by
  unfold fault?
  split
  next inverted =>
    simp only [reduceCtorEq, false_iff, not_and]
    omega
  next =>
    split
    next outside =>
      simp only [reduceCtorEq, false_iff, not_and]
      omega
    next =>
      simp only [true_iff]
      omega

/-- Edits are accepted exactly when each lies inside the text and they are in order once sorted. -/
theorem normalize_eq_ok_iff {edits sorted : List Edit} {length : Nat} :
    normalize edits length = .ok sorted ↔
      (∀ edit ∈ edits, edit.span.start ≤ edit.span.stop ∧ edit.span.stop ≤ length) ∧
        sorted = edits.mergeSort before ∧ InOrder sorted := by
  have faultless : edits.findSome? (fault? length) = none ↔
      ∀ edit ∈ edits, edit.span.start ≤ edit.span.stop ∧ edit.span.stop ≤ length := by
    rw [List.findSome?_eq_none_iff]
    exact forall₂_congr fun edit _ => fault?_eq_none_iff
  rw [← faultless, normalize]
  cases found : edits.findSome? (fault? length) with
  | some error => simp
  | none =>
      simp only [true_and]
      cases overlap : overlap? (edits.mergeSort before) with
      | some offset =>
          simp only [reduceCtorEq, false_iff, not_and]
          rintro rfl inOrder
          rw [overlap?_eq_none_iff.mpr inOrder] at overlap
          cases overlap
      | none =>
          simp only [Except.ok.injEq]
          constructor
          · rintro rfl
            exact ⟨rfl, overlap?_eq_none_iff.mp overlap⟩
          · rintro ⟨rfl, -⟩
            rfl

/-- Whether one of two edits ends at or before the start of the other. -/
def Apart (first second : Edit) : Prop :=
  first.span.stop ≤ second.span.start ∨ second.span.stop ≤ first.span.start

theorem before_iff {first second : Edit} :
    before first second = true ↔ first.span.start < second.span.start ∨
      first.span.start = second.span.start ∧ first.span.stop ≤ second.span.stop := by
  simp [before]

theorem before_trans (first second third : Edit) :
    before first second = true → before second third = true → before first third = true := by
  simp only [before_iff]
  omega

theorem before_total (first second : Edit) : (before first second || before second first) = true := by
  simp only [Bool.or_eq_true, before_iff]
  omega

theorem pairwise_mergeSort_before (edits : List Edit) :
    (edits.mergeSort before).Pairwise fun first second => before first second = true :=
  List.pairwise_mergeSort before_trans before_total edits

/-- Edits inside a text that are apart from each other are accepted. -/
theorem exists_normalize_of_apart {edits : List Edit} {length : Nat}
    (inside : ∀ edit ∈ edits, edit.span.start ≤ edit.span.stop ∧ edit.span.stop ≤ length)
    (apart : edits.Pairwise Apart) : ∃ sorted, normalize edits length = .ok sorted := by
  refine ⟨edits.mergeSort before, normalize_eq_ok_iff.mpr ⟨inside, rfl, ?_⟩⟩
  have stillApart : (edits.mergeSort before).Pairwise Apart :=
    ((List.mergeSort_perm edits before).pairwise_iff Or.symm).mpr apart
  have inOrder := (pairwise_mergeSort_before edits).and stillApart
  refine (inOrder.imp_of_mem ?_).isChain
  -- Of two sorted edits the second one lies in front only if both are empty and at one place.
  intro first second firstMember secondMember bothHold
  have firstInside := (inside first (List.mem_mergeSort.mp firstMember)).1
  have secondInside := (inside second (List.mem_mergeSort.mp secondMember)).1
  rcases bothHold with ⟨sorted, inOrder | reversed⟩
  · exact inOrder
  · rw [before_iff] at sorted
    omega

/-- Behind the part that is done, edits turn the rest of a text into a result: each edit takes out
the part that lies under its span, and what lies between the edits is kept. -/
inductive Replaces : List Char → List Char → List Edit → List Char → Prop where
  | nil (done rest : List Char) : Replaces done rest [] rest
  | cons {done kept removed rest result : List Char} {edit : Edit} {edits : List Edit}
      (startEq : edit.span.start = byteLength (done ++ kept))
      (stopEq : edit.span.stop = byteLength (done ++ kept ++ removed))
      (tail : Replaces (done ++ kept ++ removed) rest edits result) :
      Replaces done (kept ++ (removed ++ rest)) (edit :: edits) (kept ++ edit.newText ++ result)

/-- Carrying out edits gives the result that they are described to give. -/
theorem Replaces.applyFrom?_eq {done rest result : List Char} {edits : List Edit}
    (replaces : Replaces done rest edits result) :
    applyFrom? (done ++ rest) (byteLength done) edits = some result := by
  induction replaces with
  | nil done rest =>
      have cutEq : cut? (byteLength done) (done ++ rest) = some (done, rest) :=
        cut?_eq_some_iff.mpr ⟨rfl, rfl⟩
      simp [applyFrom?, cutEq]
  | @cons done kept removed rest result edit edits startEq stopEq tail ih =>
      have partEq : part? (done ++ (kept ++ (removed ++ rest))) (byteLength done) edit.span.start =
          some kept :=
        part?_eq_some_iff.mpr ⟨done, removed ++ rest, rfl, rfl, startEq.symm⟩
      have regroup : done ++ kept ++ removed ++ rest = done ++ (kept ++ (removed ++ rest)) := by
        simp
      rw [regroup, ← stopEq] at ih
      simp [applyFrom?, partEq, ih]

theorem Replaces.applied?_eq {text result : List Char} {edits : List Edit}
    (replaces : Replaces [] text edits result) : applied? text edits = some result :=
  replaces.applyFrom?_eq

/-- Edits that are in order behind the part that is done, and whose ends are boundaries, have a
result. -/
theorem exists_replaces {done rest : List Char} {edits : List Edit} (inOrder : InOrder edits)
    (behind : ∀ edit ∈ edits.head?, byteLength done ≤ edit.span.start)
    (upright : ∀ edit ∈ edits, edit.span.start ≤ edit.span.stop)
    (startBoundary : ∀ edit ∈ edits, ∃ before after,
      done ++ rest = before ++ after ∧ byteLength before = edit.span.start)
    (stopBoundary : ∀ edit ∈ edits, ∃ before after,
      done ++ rest = before ++ after ∧ byteLength before = edit.span.stop) :
    ∃ result, Replaces done rest edits result := by
  induction edits generalizing done rest with
  | nil => exact ⟨rest, .nil done rest⟩
  | cons edit edits ih =>
      rcases startBoundary edit List.mem_cons_self with ⟨before, after, startText, startEq⟩
      rcases stopBoundary edit List.mem_cons_self with ⟨before', after', stopText, stopEq⟩
      have reached : byteLength done ≤ edit.span.start := behind edit rfl
      have notInverted := upright edit List.mem_cons_self
      rcases exists_eq_append_of_byteLength_le startText (by omega) with ⟨kept, rfl, restEq⟩
      rcases exists_eq_append_of_byteLength_le (startText.symm.trans stopText) (by omega) with
        ⟨removed, rfl, afterEq⟩
      subst restEq afterEq
      have sameText : done ++ kept ++ removed ++ after' =
          done ++ (kept ++ (removed ++ after')) := by
        simp
      have continues : ∃ result, Replaces (done ++ kept ++ removed) after' edits result := by
        apply ih inOrder.tail
        · intro next nextHead
          rw [stopEq]
          exact (List.isChain_cons.mp inOrder).1 next nextHead
        · intro next member
          exact upright next (List.mem_cons_of_mem _ member)
        · intro next member
          rw [sameText]
          exact startBoundary next (List.mem_cons_of_mem _ member)
        · intro next member
          rw [sameText]
          exact stopBoundary next (List.mem_cons_of_mem _ member)
      rcases continues with ⟨result, tail⟩
      exact ⟨_, .cons startEq.symm stopEq.symm tail⟩

/-- Edits that are accepted for a text and whose ends are boundaries have a result. -/
theorem exists_applied?_of_normalize {text : String} {edits sorted : List Edit} {length : Nat}
    (accepted : normalize edits length = .ok sorted)
    (boundaries : ∀ edit ∈ edits,
      isBoundary text edit.span.start = true ∧ isBoundary text edit.span.stop = true) :
    ∃ result, applied? text.toList sorted = some result := by
  rcases normalize_eq_ok_iff.mp accepted with ⟨inside, rfl, inOrder⟩
  have described : ∃ result, Replaces [] text.toList (edits.mergeSort before) result := by
    apply exists_replaces inOrder
    · simp
    · intro edit member
      exact (inside edit (List.mem_mergeSort.mp member)).1
    · intro edit member
      exact isBoundary_iff.mp (boundaries edit (List.mem_mergeSort.mp member)).1
    · intro edit member
      exact isBoundary_iff.mp (boundaries edit (List.mem_mergeSort.mp member)).2
  rcases described with ⟨result, replaces⟩
  exact ⟨result, replaces.applied?_eq⟩

/-- Edits that are not inverted and can be carried out have a description. -/
theorem replaces_of_applyFrom?_eq {done rest result : List Char} {edits : List Edit}
    (upright : ∀ edit ∈ edits, edit.span.start ≤ edit.span.stop)
    (applied : applyFrom? (done ++ rest) (byteLength done) edits = some result) :
    Replaces done rest edits result := by
  induction edits generalizing done rest result with
  | nil =>
      simp only [applyFrom?, Option.map_eq_some_iff, Prod.exists] at applied
      rcases applied with ⟨before, after, cutEq, rfl⟩
      rcases cut?_eq_some_iff.mp cutEq with ⟨textEq, lengthEq⟩
      rw [(eq_of_byteLength_eq textEq lengthEq.symm).2]
      exact .nil done after
  | cons edit edits ih =>
      simp only [applyFrom?, Option.bind_eq_bind, Option.pure_def, Option.bind_eq_some_iff,
        Option.some.injEq] at applied
      rcases applied with ⟨kept, partEq, later, laterEq, rfl⟩
      rcases part?_eq_some_iff.mp partEq with ⟨before, after, textEq, beforeEq, startEq⟩
      rcases eq_of_byteLength_eq textEq beforeEq.symm with ⟨rfl, rfl⟩
      have notInverted := upright edit List.mem_cons_self
      -- What follows the edit can only be carried out from a boundary, so the edit ends at one.
      have stopBoundary : ∃ before after', done ++ (kept ++ after) = before ++ after' ∧
          byteLength before = edit.span.stop := by
        cases edits with
        | nil =>
            simp only [applyFrom?, Option.map_eq_some_iff, Prod.exists] at laterEq
            rcases laterEq with ⟨before, after', cutEq, -⟩
            exact ⟨before, after', cut?_eq_some_iff.mp cutEq⟩
        | cons next edits =>
            simp only [applyFrom?, Option.bind_eq_bind, Option.bind_eq_some_iff] at laterEq
            rcases laterEq with ⟨gap, gapEq, -⟩
            rcases part?_eq_some_iff.mp gapEq with ⟨before, after', textEq', stopEq, -⟩
            exact ⟨before, gap ++ after', textEq', stopEq⟩
      rcases stopBoundary with ⟨before, after', textEq', stopEq⟩
      have sameText : done ++ kept ++ after = before ++ after' := by
        simpa using textEq'
      rcases exists_eq_append_of_byteLength_le sameText (by omega) with ⟨removed, rfl, rfl⟩
      refine .cons startEq.symm stopEq.symm (ih ?_ ?_)
      · intro next member
        exact upright next (List.mem_cons_of_mem _ member)
      · rw [stopEq]
        simpa using laterEq

/-- What is done may as well be kept. -/
theorem Replaces.keep {done kept rest result : List Char} {edits : List Edit}
    (replaces : Replaces (done ++ kept) rest edits result) :
    Replaces done (kept ++ rest) edits (kept ++ result) := by
  cases replaces with
  | nil => exact .nil done (kept ++ rest)
  | @cons _ kept' removed rest result edit edits startEq stopEq tail =>
      have later : Replaces (done ++ (kept ++ kept') ++ removed) rest edits result := by
        simpa using tail
      have joined : Replaces done (kept ++ kept' ++ (removed ++ rest)) (edit :: edits)
          (kept ++ kept' ++ edit.newText ++ result) :=
        .cons (by simpa using startEq) (by simpa using stopEq) later
      simpa using joined

section Ranges

variable {old new : List Char} {oldStart oldStop newStart newStop : Nat} {edits : List Edit}

theorem take_eq_append_range {chars : List Char} {start stop : Nat} (upright : start ≤ stop) :
    chars.take stop = chars.take start ++ (chars.take stop).drop start := by
  have front : (chars.take stop).take start = chars.take start := by
    rw [List.take_take, Nat.min_eq_left upright]
  rw [← front, List.take_append_drop]

theorem drop_eq_range_append {chars : List Char} {start stop : Nat} (upright : start ≤ stop) :
    chars.drop start = (chars.take stop).drop start ++ chars.drop stop := by
  have back : chars.drop stop = (chars.drop start).drop (stop - start) := by
    rw [List.drop_drop, Nat.add_sub_cancel' upright]
  rw [List.drop_take, back, List.take_append_drop]

/-- What both texts have in a range may as well be kept. -/
theorem Replaces.keep_range (oldUpright : oldStart ≤ oldStop) (newUpright : newStart ≤ newStop)
    (same : (old.take oldStop).drop oldStart = (new.take newStop).drop newStart)
    (replaces : Replaces (old.take oldStop) (old.drop oldStop) edits (new.drop newStop)) :
    Replaces (old.take oldStart) (old.drop oldStart) edits (new.drop newStart) := by
  rw [take_eq_append_range oldUpright] at replaces
  rw [drop_eq_range_append oldUpright, drop_eq_range_append newUpright, ← same]
  exact replaces.keep

/-- A range of the new text takes the place of a range of the old text. -/
theorem Replaces.replace_range (oldUpright : oldStart ≤ oldStop) (newUpright : newStart ≤ newStop)
    (replaces : Replaces (old.take oldStop) (old.drop oldStop) edits (new.drop newStop)) :
    Replaces (old.take oldStart) (old.drop oldStart)
      (⟨⟨byteLength (old.take oldStart), byteLength (old.take oldStop)⟩,
        (new.take newStop).drop newStart⟩ :: edits) (new.drop newStart) := by
  have done := @take_eq_append_range old _ _ oldUpright
  have oldRest := @drop_eq_range_append old _ _ oldUpright
  have newRest := @drop_eq_range_append new _ _ newUpright
  have first : Replaces (old.take oldStart)
      ([] ++ ((old.take oldStop).drop oldStart ++ old.drop oldStop))
      (⟨⟨byteLength (old.take oldStart), byteLength (old.take oldStop)⟩,
        (new.take newStop).drop newStart⟩ :: edits)
      ([] ++ (new.take newStop).drop newStart ++ new.drop newStop) :=
    .cons (by simp) (by rw [List.append_nil, ← done]) (by rwa [List.append_nil, ← done])
  rwa [List.nil_append, List.nil_append, ← oldRest, ← newRest] at first

end Ranges

/-- The edits of a list can be divided together with the text: the first ones act on a front part of
it, whatever is done to the rest, and the others on the rest. -/
theorem Replaces.divide {done rest result : List Char} {first second : List Edit}
    (replaces : Replaces done rest (first ++ second) result) :
    ∃ front back front' back', rest = front ++ back ∧ result = front' ++ back' ∧
      Replaces (done ++ front) back second back' ∧
      ∀ edits back'', Replaces (done ++ front) back edits back'' →
        Replaces done rest (first ++ edits) (front' ++ back'') := by
  induction first generalizing done rest result with
  | nil =>
      refine ⟨[], rest, [], result, rfl, rfl, by simpa using replaces, ?_⟩
      intro edits back'' other
      simpa using other
  | cons edit first ih =>
      cases replaces with
      | @cons _ kept removed rest result _ _ startEq stopEq tail =>
          rcases ih tail with ⟨front, back, front', back', rfl, rfl, later, others⟩
          refine ⟨kept ++ removed ++ front, back, kept ++ edit.newText ++ front', back',
            by simp, by simp, by simpa using later, ?_⟩
          intro edits back'' other
          have joined := Replaces.cons startEq stopEq (others edits back'' (by simpa using other))
          simpa using joined

theorem Replaces.bounds {done rest result : List Char} {edits : List Edit}
    (replaces : Replaces done rest edits result) :
    ∀ edit ∈ edits, byteLength done ≤ edit.span.start ∧ edit.span.start ≤ edit.span.stop := by
  induction replaces with
  | nil done rest => simp
  | @cons done kept removed rest result edit edits startEq stopEq tail ih =>
      intro other member
      simp only [byteLength_append] at startEq stopEq ih
      rcases List.mem_cons.mp member with rfl | member
      · omega
      · have otherBounds := ih other member
        omega

/-- Of the edits that act on a text, each ends before all later ones. -/
theorem Replaces.pairwise {done rest result : List Char} {edits : List Edit}
    (replaces : Replaces done rest edits result) :
    edits.Pairwise fun first second => first.span.stop ≤ second.span.start := by
  induction replaces with
  | nil done rest => exact .nil
  | @cons done kept removed rest result edit edits startEq stopEq tail ih =>
      refine .cons ?_ ih
      intro other member
      rw [stopEq]
      exact (tail.bounds other member).1

end SourceLens.Edit
