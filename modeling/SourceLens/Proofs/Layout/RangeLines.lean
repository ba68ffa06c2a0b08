import SourceLens.Proofs.Layout.Lines
import SourceLens.Proofs.Text.Boundary

/-!
# The lines of a range

What is known when a line starts is read off the lines of the source before it, laid out or not.  So
the layout of a range takes the lines that meet the span from the layout of the whole source and the
other lines from the source.
-/

namespace SourceLens

namespace Text

/-- The byte offset at which a line starts. -/
def lineOffset (text : List Char) (index : Nat) : Nat :=
  byteLength ((linesWithEnds text).take index).flatten

theorem ne_nil_of_mem_linesWithEnds {text line : List Char} (member : line ∈ linesWithEnds text) :
    line ≠ [] := by
  have sameLines := (areLines_linesWithEnds text).linesWithEnds_flatten
  rw [flatten_linesWithEnds] at sameLines
  rw [sameLines] at member
  simpa using List.of_mem_filter member

end Text

namespace Layout

open Text

section Runs

variable {width offset : Nat} {start : LineStart} {lines laid : List (List Char)}

/-- A line that meets the span is laid out with what is known after the lines of the source before
it. -/
theorem getElem?_layLines? {span : Option Span}
    (laidEq : layLines? span width offset start lines = some laid) (index : Nat) :
    laid[index]? = lines[index]?.bind fun line =>
      if isWanted span (offset + byteLength (lines.take index).flatten)
          (offset + byteLength (lines.take index).flatten + byteLength line) then
        layLine? width (start.after (lines.take index)) line
      else some line := by
  induction lines generalizing offset start laid index with
  | nil =>
      cases laidEq
      rfl
  | cons line lines ih =>
      rcases layLines?_cons_eq_some_iff.mp laidEq with ⟨first, rest, rfl, firstEq, restEq⟩
      cases index with
      | zero => exact firstEq.symm
      | succ index =>
          have laterEq := ih restEq index
          simpa [Nat.add_assoc] using laterEq

/-- If all lines can be laid out, so can those that meet a span. -/
theorem exists_layLines?_of_whole (whole : layLines? none width offset start lines = some laid)
    (span : Option Span) (offset' : Nat) :
    ∃ ranged, layLines? span width offset' start lines = some ranged := by
  induction lines generalizing offset offset' start laid with
  | nil => exact ⟨[], rfl⟩
  | cons line lines ih =>
      rcases layLines?_cons_eq_some_iff.mp whole with ⟨first, rest, rfl, firstEq, restEq⟩
      rcases ih restEq (offset' + byteLength line) with ⟨ranged, rangedEq⟩
      by_cases wanted : isWanted span offset' (offset' + byteLength line) = true
      · refine ⟨first :: ranged, layLines?_cons_eq_some_iff.mpr ⟨first, ranged, rfl, ?_, rangedEq⟩⟩
        rw [if_pos wanted]
        exact firstEq
      · refine ⟨line :: ranged, layLines?_cons_eq_some_iff.mpr ⟨line, ranged, rfl, ?_, rangedEq⟩⟩
        rw [if_neg wanted]

end Runs

/-- If the whole source can be laid out, so can every range, and a line of its layout is the line of
the whole layout when the line of the source meets the span, and the line of the source when it does
not. -/
theorem linesWithEnds_reindent?_span {source whole : List Char} {width : Nat}
    (wholeEq : reindent? source none width = some whole) (span : Span) :
    ∃ ranged, reindent? source (some span) width = some ranged ∧
      ∀ index, (linesWithEnds ranged)[index]? = (linesWithEnds source)[index]?.bind fun line =>
        if lineOffset source index ≤ span.stop ∧
            span.start ≤ lineOffset source index + byteLength line then
          (linesWithEnds whole)[index]?
        else some line := by
  rcases reindent?_eq_some_iff.mp wholeEq with ⟨wholeLines, wholeLinesEq, rfl⟩
  rcases exists_layLines?_of_whole wholeLinesEq (some span) 0 with ⟨rangedLines, rangedLinesEq⟩
  refine ⟨rangedLines.flatten, reindent?_eq_some_iff.mpr ⟨rangedLines, rangedLinesEq, rfl⟩, ?_⟩
  intro index
  have areLines := areLines_linesWithEnds source
  rw [(areLines_layLines? areLines rangedLinesEq).getElem?_linesWithEnds_flatten,
    (areLines_layLines? areLines wholeLinesEq).getElem?_linesWithEnds_flatten,
    getElem?_layLines? rangedLinesEq, getElem?_layLines? wholeLinesEq]
  cases lineEq : (linesWithEnds source)[index]? with
  | none => rfl
  | some line =>
      have notEmpty : line ≠ [] := ne_nil_of_mem_linesWithEnds (List.mem_of_getElem? lineEq)
      simp only [Option.bind_some, isWanted, Option.all_some, Option.all_none, Nat.zero_add,
        Bool.and_eq_true, decide_eq_true_eq, lineOffset, if_true]
      split
      next => rfl
      next => simp [Option.filter, notEmpty]

/-- A span inside the second of three lines: the last line stays out although the whole layout moves
it. -/
theorem linesWithEnds_reindent?_span_middle :
    reindent? "a(\n b\r\n )".toList none 2 = some "a(\n  b\r\n)".toList ∧
    ∃ ranged, reindent? "a(\n b\r\n )".toList (some ⟨4, 5⟩) 2 = some ranged ∧
      (linesWithEnds ranged)[1]? = some "  b\r\n".toList ∧
      (linesWithEnds ranged)[2]? = some " )".toList := by
  have wholeEq : reindent? "a(\n b\r\n )".toList none 2 = some "a(\n  b\r\n)".toList := by
    decide +kernel
  rcases linesWithEnds_reindent?_span wholeEq ⟨4, 5⟩ with ⟨ranged, rangedEq, lines⟩
  refine ⟨wholeEq, ranged, rangedEq, ?_, ?_⟩
  · rw [lines 1]
    rfl
  · rw [lines 2]
    rfl

end Layout

end SourceLens
