import Mathlib
import SourceLens.Proofs.Edit.Application
import SourceLens.Proofs.Edit.Script
import SourceLens.Proofs.Layout.Code

/-!
# Laying out a range

The layout of a range is answered with the edits of a comparison, less those that reach beyond the
span.  A comparison may take code out at one place and put it in at another, so leaving out edits
can lose code or double it.

Code is kept exactly when the edits that are left can be carried out and, from the start of the
first to the end of the last, put in the code that they take out.  If the comparison leads from the
source to its layout, this is so exactly when the edits that were left out would keep the code on
their own.
-/

namespace SourceLens

open Text

namespace Edit

/-- What a text holds from the start of the first edit to the end of the last one: as it is, and as
the edits make it. -/
def stretch? (text : List Char) : List Edit → Option (List Char × List Char)
  | [] => some ([], [])
  | [edit] => do
      let removed ← part? text edit.span.start edit.span.stop
      return (removed, edit.newText)
  | edit :: next :: edits => do
      let removed ← part? text edit.span.start edit.span.stop
      let kept ← part? text edit.span.stop next.span.start
      let (old, new) ← stretch? text (next :: edits)
      return (removed ++ kept ++ old, edit.newText ++ kept ++ new)

/-- Edits that act on a text change nothing outside their stretch. -/
theorem Replaces.exists_stretch? {done rest result : List Char} {edit : Edit} {edits : List Edit}
    (replaces : Replaces done rest (edit :: edits) result) :
    ∃ lead old new tail, rest = lead ++ (old ++ tail) ∧ result = lead ++ (new ++ tail) ∧
      edit.span.start = byteLength (done ++ lead) ∧
      stretch? (done ++ rest) (edit :: edits) = some (old, new) := by
  induction edits generalizing done rest result edit with
  | nil =>
      cases replaces with
      | @cons _ kept removed rest _ _ _ startEq stopEq tail =>
          cases tail
          have removedEq : part? (done ++ (kept ++ (removed ++ rest))) edit.span.start
              edit.span.stop = some removed := by
            rw [part?_eq_some_iff]
            exact ⟨done ++ kept, rest, by simp, startEq.symm, stopEq.symm⟩
          refine ⟨kept, removed, edit.newText, rest, rfl, by simp, startEq, ?_⟩
          simp [stretch?, removedEq]
  | cons next edits ih =>
      cases replaces with
      | @cons _ kept removed rest result _ _ startEq stopEq tail =>
          rcases ih tail with ⟨gap, old, new, tail', rfl, rfl, gapEq, stretchEq⟩
          have sameText : done ++ kept ++ removed ++ (gap ++ (old ++ tail')) =
              done ++ (kept ++ (removed ++ (gap ++ (old ++ tail')))) := by
            simp
          rw [sameText] at stretchEq
          have removedEq : part? (done ++ (kept ++ (removed ++ (gap ++ (old ++ tail')))))
              edit.span.start edit.span.stop = some removed := by
            rw [part?_eq_some_iff]
            exact ⟨done ++ kept, gap ++ (old ++ tail'), by simp, startEq.symm, stopEq.symm⟩
          have keptEq : part? (done ++ (kept ++ (removed ++ (gap ++ (old ++ tail')))))
              edit.span.stop next.span.start = some gap := by
            rw [part?_eq_some_iff]
            exact ⟨done ++ kept ++ removed, old ++ tail', by simp, stopEq.symm, gapEq.symm⟩
          refine ⟨kept, removed ++ gap ++ old, edit.newText ++ gap ++ new, tail', by simp, by simp,
            startEq, ?_⟩
          simp [stretch?, removedEq, keptEq, stretchEq]

/-- Edits that have a stretch act on the text. -/
theorem replaces_of_stretch? {text old new : List Char} {edit : Edit} {edits : List Edit}
    (stretchEq : stretch? text (edit :: edits) = some (old, new)) :
    ∃ before after, text = before ++ (old ++ after) ∧ byteLength before = edit.span.start ∧
      Replaces before (old ++ after) (edit :: edits) (new ++ after) := by
  induction edits generalizing edit old new with
  | nil =>
      simp only [stretch?, Option.bind_eq_bind, Option.pure_def, Option.bind_eq_some_iff,
        Option.some.injEq, Prod.mk.injEq] at stretchEq
      rcases stretchEq with ⟨removed, removedEq, rfl, rfl⟩
      rcases part?_eq_some_iff.mp removedEq with ⟨before, after, textEq, startEq, stopEq⟩
      refine ⟨before, after, textEq, startEq, ?_⟩
      have only : Replaces before ([] ++ (removed ++ after)) [edit] ([] ++ edit.newText ++ after) :=
        .cons (by simpa using startEq.symm) (by simpa using stopEq.symm) (.nil _ _)
      simpa using only
  | cons next edits ih =>
      simp only [stretch?, Option.bind_eq_bind, Option.pure_def, Option.bind_eq_some_iff,
        Prod.exists, Option.some.injEq, Prod.mk.injEq] at stretchEq
      rcases stretchEq with ⟨removed, removedEq, kept, keptEq, old', new', laterEq, rfl, rfl⟩
      rcases part?_eq_some_iff.mp removedEq with ⟨before, after, textEq, startEq, stopEq⟩
      rcases part?_eq_some_iff.mp keptEq with ⟨before', after', textEq', stopEq', nextEq⟩
      rcases ih laterEq with ⟨before'', after'', textEq'', nextEq', later⟩
      -- The three descriptions are of one text, so their beginnings continue one another.
      have firstGap : before ++ removed = before' ∧ after = kept ++ after' := by
        apply eq_of_byteLength_eq
        · rw [← textEq', textEq]
          simp
        · rw [stopEq, stopEq']
      rcases firstGap with ⟨rfl, rfl⟩
      have secondGap : before ++ removed ++ kept = before'' ∧ after' = old' ++ after'' := by
        apply eq_of_byteLength_eq
        · rw [← textEq'', textEq]
          simp
        · rw [nextEq, nextEq']
      rcases secondGap with ⟨rfl, rfl⟩
      refine ⟨before, after'', by simpa using textEq, startEq, ?_⟩
      have joined : Replaces before ([] ++ (removed ++ (kept ++ (old' ++ after''))))
          (edit :: next :: edits) ([] ++ edit.newText ++ (kept ++ (new' ++ after''))) :=
        .cons (by simpa using startEq.symm) (by simpa using stopEq.symm) (by simpa using later.keep)
      simpa using joined

/-- Carrying out edits keeps the code of a text exactly when they have a stretch and keep its
code. -/
theorem applied?_code_eq_iff {text : List Char} {edits : List Edit}
    (upright : ∀ edit ∈ edits, edit.span.start ≤ edit.span.stop) :
    (∃ result, applied? text edits = some result ∧ code result = code text) ↔
      ∃ old new, stretch? text edits = some (old, new) ∧ code old = code new := by
  cases edits with
  | nil =>
      have unchanged : applied? text [] = some text := (Replaces.nil [] text).applied?_eq
      simp [unchanged, stretch?]
  | cons edit edits =>
      constructor
      · rintro ⟨result, applied, sameCode⟩
        have replaces : Replaces [] text (edit :: edits) result :=
          replaces_of_applyFrom?_eq upright applied
        rcases replaces.exists_stretch? with ⟨lead, old, new, tail, rfl, rfl, -, stretchEq⟩
        refine ⟨old, new, stretchEq, ?_⟩
        simpa using sameCode.symm
      · rintro ⟨old, new, stretchEq, sameCode⟩
        rcases replaces_of_stretch? stretchEq with ⟨before, after, rfl, -, replaces⟩
        have fromStart : Replaces [] (before ++ (old ++ after)) (edit :: edits)
            (before ++ (new ++ after)) :=
          Replaces.keep (by simpa using replaces)
        refine ⟨_, fromStart.applied?_eq, ?_⟩
        simp [sameCode]

/-- Of edits in order that start inside a span, those that it covers come first. -/
theorem filter_covers_of_start_le {span : Span} {edits : List Edit}
    (ordered : edits.Pairwise fun first second => first.span.stop ≤ second.span.start)
    (upright : ∀ edit ∈ edits, edit.span.start ≤ edit.span.stop)
    (inside : ∀ edit ∈ edits, span.start ≤ edit.span.start) :
    ∃ within behind, edits = within ++ behind ∧
      (edits.filter fun edit => span.covers edit.span) = within ∧
      (edits.filter fun edit => !span.covers edit.span) = behind := by
  induction edits with
  | nil => exact ⟨[], [], rfl, rfl, rfl⟩
  | cons edit edits ih =>
      rcases List.pairwise_cons.mp ordered with ⟨beforeLater, laterOrdered⟩
      have editInside := inside edit List.mem_cons_self
      by_cases ends : edit.span.stop ≤ span.stop
      · rcases ih laterOrdered (fun other member => upright other (List.mem_cons_of_mem _ member))
          (fun other member => inside other (List.mem_cons_of_mem _ member)) with
          ⟨within, behind, editsEq, coveredEq, uncoveredEq⟩
        have covered : span.covers edit.span = true := by
          simp [Span.covers, editInside, ends]
        refine ⟨edit :: within, behind, by rw [editsEq, List.cons_append], ?_, ?_⟩
        · rw [List.filter_cons, if_pos covered, coveredEq]
        · rw [List.filter_cons, if_neg (by simp [covered]), uncoveredEq]
      · have uncovered : ∀ other ∈ edit :: edits, span.covers other.span = false := by
          intro other member
          have otherUpright := upright other member
          rcases List.mem_cons.mp member with rfl | later
          · simp [Span.covers, ends]
          · have order := beforeLater other later
            simp only [Span.covers, Bool.and_eq_false_iff, decide_eq_false_iff_not]
            omega
        refine ⟨[], edit :: edits, rfl, ?_, ?_⟩
        · rw [List.filter_eq_nil_iff]
          intro other member
          simp [uncovered other member]
        · rw [List.filter_eq_self]
          intro other member
          simp [uncovered other member]

/-- Of edits in order, those that a span covers stand together. -/
theorem filter_covers {span : Span} {edits : List Edit}
    (ordered : edits.Pairwise fun first second => first.span.stop ≤ second.span.start)
    (upright : ∀ edit ∈ edits, edit.span.start ≤ edit.span.stop) :
    ∃ before within behind, edits = before ++ (within ++ behind) ∧
      (edits.filter fun edit => span.covers edit.span) = within ∧
      (edits.filter fun edit => !span.covers edit.span) = before ++ behind := by
  induction edits with
  | nil => exact ⟨[], [], [], rfl, rfl, rfl⟩
  | cons edit edits ih =>
      rcases List.pairwise_cons.mp ordered with ⟨beforeLater, laterOrdered⟩
      by_cases starts : span.start ≤ edit.span.start
      · have inside : ∀ other ∈ edit :: edits, span.start ≤ other.span.start := by
          intro other member
          have editUpright := upright edit List.mem_cons_self
          rcases List.mem_cons.mp member with rfl | later
          · exact starts
          · have order := beforeLater other later
            omega
        rcases filter_covers_of_start_le ordered upright inside with
          ⟨within, behind, editsEq, coveredEq, uncoveredEq⟩
        exact ⟨[], within, behind, editsEq, coveredEq, uncoveredEq⟩
      · rcases ih laterOrdered (fun other member => upright other (List.mem_cons_of_mem _ member))
          with ⟨before, within, behind, editsEq, coveredEq, uncoveredEq⟩
        have uncovered : span.covers edit.span = false := by
          simp [Span.covers, starts]
        refine ⟨edit :: before, within, behind, by rw [editsEq, List.cons_append], ?_, ?_⟩
        · rw [List.filter_cons, if_neg (by simp [uncovered]), coveredEq]
        · rw [List.filter_cons, if_pos (by simp [uncovered]), uncoveredEq, List.cons_append]

/-- If all edits together keep the code of a text, those inside a span keep it exactly when those
that reach beyond the span do. -/
theorem code_covered_iff_code_uncovered {span : Span} {text result : List Char}
    {edits : List Edit} (replaces : Replaces [] text edits result)
    (sameCode : code result = code text) :
    (∃ covered, applied? text (edits.filter fun edit => span.covers edit.span) = some covered ∧
      code covered = code text) ↔
    ∃ uncovered, applied? text (edits.filter fun edit => !span.covers edit.span) =
        some uncovered ∧ code uncovered = code text := by
  have upright : ∀ edit ∈ edits, edit.span.start ≤ edit.span.stop :=
    fun edit member => (replaces.bounds edit member).2
  rcases @filter_covers span edits replaces.pairwise upright with
    ⟨before, within, behind, rfl, coveredEq, uncoveredEq⟩
  rcases replaces.divide with ⟨front, rest, front', rest', rfl, rfl, later, withFront⟩
  rcases later.divide with ⟨middle, back, middle', back', rfl, rfl, last, withMiddle⟩
  have covered : Replaces [] (front ++ (middle ++ back)) within (front ++ (middle' ++ back)) := by
    have onlyMiddle := withMiddle [] back (.nil _ _)
    rw [List.append_nil] at onlyMiddle
    exact onlyMiddle.keep
  have uncovered : Replaces [] (front ++ (middle ++ back)) (before ++ behind)
      (front' ++ (middle ++ back')) :=
    withFront behind (middle ++ back') last.keep
  rw [coveredEq, uncoveredEq, covered.applied?_eq, uncovered.applied?_eq]
  have middleOnly : code (front ++ (middle' ++ back)) = code (front ++ (middle ++ back)) ↔
      code middle' = code middle := by
    simp
  have othersOnly : code (front' ++ (middle ++ back')) = code (front ++ (middle ++ back)) ↔
      code middle' = code middle := by
    rw [← sameCode]
    simp [eq_comm]
  simp only [Option.some.injEq, exists_eq_left', middleOnly, othersOnly]

end Edit

namespace Layout

/-- Whether laying out a range gives edits that can be carried out and keep the code of the
source. -/
def KeepsCode (source : List Char) (span : Span) (width : Nat) : Prop :=
  ∃ edits result, edits? source (some span) width = some edits ∧
    Edit.applied? source edits = some result ∧ code result = code source

theorem edits?_eq_some_iff {source : List Char} {span : Span} {width : Nat} {edits : List Edit} :
    edits? source (some span) width = some edits ↔
      ∃ laid all, reindent? source (some span) width = some laid ∧
        Edit.between? source laid = some all ∧
        edits = all.filter fun edit => span.covers edit.span := by
  simp only [edits?, Option.bind_eq_bind, Option.pure_def, Option.bind_eq_some_iff,
    Option.some.injEq, Option.all_some]
  constructor
  · rintro ⟨laid, laidEq, all, allEq, rfl⟩
    exact ⟨laid, all, laidEq, allEq, rfl⟩
  · rintro ⟨laid, all, laidEq, allEq, rfl⟩
    exact ⟨laid, laidEq, all, allEq, rfl⟩

theorem edits?_upright {source : List Char} {span : Span} {width : Nat} {edits : List Edit}
    (editsEq : edits? source (some span) width = some edits) :
    ∀ edit ∈ edits, edit.span.start ≤ edit.span.stop := by
  rcases edits?_eq_some_iff.mp editsEq with ⟨laid, all, laidEq, allEq, rfl⟩
  intro edit member
  exact Edit.between?_upright allEq edit (List.mem_of_mem_filter member)

/-- Laying out a range keeps the code of the source exactly when the edits inside the span have a
stretch and put in the code that they take out of it.  When all edits of the comparison lead from
the source to its layout, it does so exactly when the edits that reach beyond the span would keep
the code on their own. -/
theorem keepsCode_iff (source : List Char) (span : Span) (width : Nat) :
    (KeepsCode source span width ↔
      ∃ edits old new, edits? source (some span) width = some edits ∧
        Edit.stretch? source edits = some (old, new) ∧ code old = code new) ∧
    ∀ laid all, reindent? source (some span) width = some laid →
      Edit.between? source laid = some all → Edit.applied? source all = some laid →
      (KeepsCode source span width ↔
        ∃ uncovered, Edit.applied? source (all.filter fun edit => !span.covers edit.span) =
          some uncovered ∧ code uncovered = code source) := by
  constructor
  · constructor
    · rintro ⟨edits, result, editsEq, applied, sameCode⟩
      rcases (Edit.applied?_code_eq_iff (edits?_upright editsEq)).mp ⟨result, applied, sameCode⟩
        with ⟨old, new, stretchEq, stretchCode⟩
      exact ⟨edits, old, new, editsEq, stretchEq, stretchCode⟩
    · rintro ⟨edits, old, new, editsEq, stretchEq, stretchCode⟩
      rcases (Edit.applied?_code_eq_iff (edits?_upright editsEq)).mpr
        ⟨old, new, stretchEq, stretchCode⟩ with ⟨result, applied, sameCode⟩
      exact ⟨edits, result, editsEq, applied, sameCode⟩
  · intro laid all laidEq allEq leads
    have replaces : Edit.Replaces [] source all laid :=
      Edit.replaces_of_applyFrom?_eq (Edit.between?_upright allEq) leads
    rw [← Edit.code_covered_iff_code_uncovered replaces (code_reindent? laidEq)]
    have editsEq : edits? source (some span) width =
        some (all.filter fun edit => span.covers edit.span) :=
      edits?_eq_some_iff.mpr ⟨laid, all, laidEq, allEq, rfl⟩
    simp [KeepsCode, editsEq]

/-- With both edits of a moved line inside the span, the code is kept. -/
theorem keepsCode_of_whole_move :
    reindent? "    a!\x7b\nb\x7d".toList (some ⟨0, 8⟩) 4 = some "a!\x7b\n    b\x7d".toList ∧
    Edit.between? "    a!\x7b\nb\x7d".toList "a!\x7b\n    b\x7d".toList =
      some [⟨⟨0, 0⟩, "a!\x7b\n".toList⟩, ⟨⟨4, 8⟩, []⟩] ∧
    Edit.applied? "    a!\x7b\nb\x7d".toList [⟨⟨0, 0⟩, "a!\x7b\n".toList⟩, ⟨⟨4, 8⟩, []⟩] =
      some "a!\x7b\n    b\x7d".toList ∧
    KeepsCode "    a!\x7b\nb\x7d".toList ⟨0, 8⟩ 4 := by
  have laidEq : reindent? "    a!\x7b\nb\x7d".toList (some ⟨0, 8⟩) 4 =
      some "a!\x7b\n    b\x7d".toList := by
    cbv
  have allEq : Edit.between? "    a!\x7b\nb\x7d".toList "a!\x7b\n    b\x7d".toList =
      some [⟨⟨0, 0⟩, "a!\x7b\n".toList⟩, ⟨⟨4, 8⟩, []⟩] := by
    cbv
  have leads : Edit.applied? "    a!\x7b\nb\x7d".toList
      [⟨⟨0, 0⟩, "a!\x7b\n".toList⟩, ⟨⟨4, 8⟩, []⟩] = some "a!\x7b\n    b\x7d".toList := by
    cbv
  refine ⟨laidEq, allEq, leads, ?_⟩
  rw [(keepsCode_iff _ _ _).2 _ _ laidEq allEq leads]
  exact ⟨"    a!\x7b\nb\x7d".toList, by cbv, rfl⟩

/-- The comparison moves the opening line to the front of the text instead of its indentation to the
end, and only the edit that takes the line out lies inside the span. -/
theorem not_keepsCode_of_moved_line :
    ¬KeepsCode "    a!\x7b\nb\x7d".toList ⟨4, 8⟩ 4 := by
  have editsEq : edits? "    a!\x7b\nb\x7d".toList (some ⟨4, 8⟩) 4 = some [⟨⟨4, 8⟩, []⟩] := by
    cbv
  rintro ⟨edits, result, laid, applied, sameCode⟩
  rw [editsEq, Option.some.injEq] at laid
  subst laid
  have resultEq : Edit.applied? "    a!\x7b\nb\x7d".toList [⟨⟨4, 8⟩, []⟩] =
      some "    b\x7d".toList := by
    cbv
  rw [resultEq, Option.some.injEq] at applied
  subst applied
  revert sameCode
  decide

end Layout

end SourceLens
