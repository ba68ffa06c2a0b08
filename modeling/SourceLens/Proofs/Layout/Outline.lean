import SourceLens.Proofs.Layout.Lines

/-!
# The outline of a text

The outline of a text is its code together with its line feeds.  A line has the same outline in its
layout, so a source has the same outline in its layout, whichever lines are laid out.  The outline
tells the code of a text, the number of its line feeds, and the code before each of them.
-/

namespace SourceLens

namespace Text

/-- The characters of a text that are not blank, and its line feeds. -/
def outline (chars : List Char) : List Char :=
  chars.filter fun char => !isBlank char || char == '\n'

@[simp]
theorem outline_append (left right : List Char) :
    outline (left ++ right) = outline left ++ outline right :=
  List.filter_append left right

theorem outline_of_blank {blanks : List Char} (blank : ∀ char ∈ blanks, isBlank char = true)
    (noFeed : '\n' ∉ blanks) : outline blanks = [] := by
  rw [outline, List.filter_eq_nil_iff]
  intro char member
  have notFeed : char ≠ '\n' := fun feed => noFeed (feed ▸ member)
  simp [blank char member, notFeed]

theorem code_outline (chars : List Char) : code (outline chars) = code chars := by
  rw [code, outline, List.filter_filter]
  apply List.filter_congr
  intro char _
  cases isBlank char <;> simp

theorem count_outline (chars : List Char) : (outline chars).count '\n' = chars.count '\n' := by
  rw [outline, List.count_filter]
  simp

theorem outline_flatten {lines changed : List (List Char)}
    (sameOutlines : List.Forall₂ (fun line line' => outline line' = outline line) lines changed) :
    outline changed.flatten = outline lines.flatten := by
  induction sameOutlines with
  | nil => rfl
  | cons sameOutline _ ih => simp [sameOutline, ih]

/-- Texts with one outline have their line feeds in the same places of the code. -/
theorem exists_feed_of_outline_eq {chars before after : List Char}
    (sameOutline : outline chars = outline (before ++ '\n' :: after)) :
    ∃ before' after', chars = before' ++ '\n' :: after' ∧ outline before' = outline before := by
  have feedStays : outline ('\n' :: after) = '\n' :: outline after := rfl
  rw [outline_append, feedStays] at sameOutline
  rcases List.filter_eq_append_iff.mp sameOutline with ⟨front, rest, rfl, frontEq, restEq⟩
  rcases List.filter_eq_cons_iff.mp restEq with ⟨dropped, after', rfl, noneKept, -, -⟩
  refine ⟨front ++ dropped, after', by simp, ?_⟩
  have droppedEq : outline dropped = [] := List.filter_eq_nil_iff.mpr noneKept
  rw [outline_append, droppedEq, List.append_nil]
  exact frontEq

end Text

namespace Layout

open Text

/-- Only blanks are put in front of what is kept of a body or taken off around it. -/
theorem outline_laidBody {width : Nat} {start : LineStart} {body : List Char}
    (noFeed : '\n' ∉ body) : outline (laidBody width start body) = outline body := by
  rcases exists_takenOff start.state body with ⟨lead, trail, takenOff⟩
  have noFeedBody := noFeed
  rw [takenOff.bodyEq, List.mem_append, List.mem_append, not_or, not_or] at noFeedBody
  have noIndentation : ∀ count, outline (List.replicate count ' ') = [] := by
    intro count
    apply outline_of_blank isBlank_of_mem_replicate
    simp [List.mem_replicate]
  have noLead : outline lead = [] := outline_of_blank takenOff.blankLead noFeedBody.1
  have noTrail : outline trail = [] :=
    outline_of_blank takenOff.blankTrail noFeedBody.2.2
  calc outline (laidBody width start body)
      = outline (kept start.state body) := by simp [laidBody, noIndentation]
    _ = outline (lead ++ (kept start.state body ++ trail)) := by simp [noLead, noTrail]
    _ = outline body := by rw [← takenOff.bodyEq]

/-- A source has the same outline in its layout. -/
theorem outline_reindent? {source laid : List Char} {span : Option Span} {width : Nat}
    (laidEq : reindent? source span width = some laid) : outline laid = outline source := by
  rcases reindent?_eq_some_iff.mp laidEq with ⟨lines, linesEq, rfl⟩
  have noFeed := (areLines_linesWithEnds source).noFeed
  have sameOutlines : List.Forall₂ (fun line laid => outline laid = outline line)
      (linesWithEnds source) lines := by
    apply forall₂_layLines? _ _ linesEq
    · intro start line member laid laidEq
      rcases layLine?_eq_some_iff.mp laidEq with ⟨-, rfl⟩
      rw [outline_append, outline_laidBody (noFeed line member), ← outline_append,
        dropLineBreak_append_lineBreak]
    · intro line _
      rfl
  rw [outline_flatten sameOutlines, flatten_linesWithEnds]

/-- Laying out a source or a part of it moves blanks only: the code stays, there are as many line
feeds, and each stands behind the same code. -/
theorem code_and_feeds_reindent? {source laid : List Char} {span : Option Span} {width : Nat}
    (laidEq : reindent? source span width = some laid) :
    code laid = code source ∧ laid.count '\n' = source.count '\n' ∧
      ∀ before after, source = before ++ '\n' :: after →
        ∃ before' after', laid = before' ++ '\n' :: after' ∧
          before'.count '\n' = before.count '\n' ∧ code before' = code before := by
  have sameOutline := outline_reindent? laidEq
  refine ⟨?_, ?_, ?_⟩
  · exact code_reindent? laidEq
  · rw [← count_outline laid, sameOutline, count_outline]
  · rintro before after rfl
    rcases exists_feed_of_outline_eq sameOutline with ⟨before', after', laidEq', beforeEq⟩
    refine ⟨before', after', laidEq', ?_, ?_⟩
    · rw [← count_outline before', beforeEq, count_outline]
    · rw [← code_outline before', beforeEq, code_outline]

/-- The layout of a range trims a line inside a string and indents the lines around it, and its
second line feed stands behind the same code. -/
theorem code_and_feeds_reindent?_of_string_line :
    reindent? "a \x7b\r\nb(\"c \n d\"); \t\n.e\n\t\x7d".toList (some ⟨5, 20⟩) 2 =
      some "a \x7b\r\n  b(\"c\n d\");\n    .e\n\t\x7d".toList ∧
    ∃ before' after',
      "a \x7b\r\n  b(\"c\n d\");\n    .e\n\t\x7d".toList = before' ++ '\n' :: after' ∧
      before'.count '\n' = 1 ∧ code before' = "a\x7bb(\"c".toList := by
  have laidEq : reindent? "a \x7b\r\nb(\"c \n d\"); \t\n.e\n\t\x7d".toList (some ⟨5, 20⟩) 2 =
      some "a \x7b\r\n  b(\"c\n d\");\n    .e\n\t\x7d".toList := by
    decide +kernel
  have feeds := (code_and_feeds_reindent? laidEq).2.2
  exact ⟨laidEq, feeds "a \x7b\r\nb(\"c ".toList " d\"); \t\n.e\n\t\x7d".toList rfl⟩

end Layout

end SourceLens
