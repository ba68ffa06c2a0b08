import SourceLens.Proofs.Layout.Lines

/-!
# Laying out twice

In a source whose carriage returns all belong to line breaks, a line and its layout break at the
same place, so a line in its layout is laid out as it is.  Since the next line starts the same
behind the line and behind its layout, a second run over the layout meets every line with what the
first run knew of it, and changes nothing.

A carriage return elsewhere may come to stand in front of a line feed when blanks between the two
are dropped.  It then belongs to the line break, and blanks in front of it are dropped by the second
run only.
-/

namespace SourceLens

namespace Text

/-- Every carriage return is directly followed by a line feed. -/
def ReturnsBreak (text : List Char) : Prop :=
  ∀ index < text.length, text[index]? = some '\r' → text[index + 1]? = some '\n'

instance (text : List Char) : Decidable (ReturnsBreak text) :=
  inferInstanceAs (Decidable (∀ index < text.length, _ → _))

theorem ReturnsBreak.head?_of_return {before after : List Char}
    (returnsBreak : ReturnsBreak (before ++ '\r' :: after)) : after.head? = some '\n' := by
  have followed := returnsBreak before.length (by simp) (by simp)
  simpa [List.getElem?_append_right, List.head?_eq_getElem?] using followed

theorem ReturnsBreak.of_append {front text : List Char}
    (returnsBreak : ReturnsBreak (front ++ text)) : ReturnsBreak text := by
  intro index inside isReturn
  have followed := returnsBreak (front.length + index) (by simp [inside])
    (by simpa [List.getElem?_append_right] using isReturn)
  simpa [List.getElem?_append_right, Nat.add_assoc] using followed

/-- A line that ends with a line feed or with the text has no carriage return before its break. -/
theorem ReturnsBreak.noReturn {line rest : List Char} (returnsBreak : ReturnsBreak (line ++ rest))
    (noFeed : '\n' ∉ dropLineBreak line) (ends : line.getLast? = some '\n' ∨ rest = []) :
    '\r' ∉ dropLineBreak line := by
  intro isReturn
  rcases List.append_of_mem isReturn with ⟨before, after, bodyEq⟩
  have lineEq := Layout.dropLineBreak_append_lineBreak line
  rw [bodyEq] at lineEq noFeed
  have textEq : line ++ rest = before ++ '\r' :: (after ++ (Layout.lineBreak line ++ rest)) := by
    simpa using congrArg (· ++ rest) lineEq.symm
  rw [textEq] at returnsBreak
  have followed := returnsBreak.head?_of_return
  cases after with
  | cons next after =>
      rw [List.cons_append, List.head?_cons, Option.some.injEq] at followed
      apply noFeed
      simp [followed]
  | nil =>
      -- The carriage return ends the body, so what follows it is the line break.
      rcases dropLineBreak_cases line with returnFeed | ⟨-, noReturn⟩ | ⟨openLine, openEnd⟩
      · rw [Layout.lineBreak_of_eq_append returnFeed] at followed
        simp at followed
      · rw [bodyEq] at noReturn
        simp at noReturn
      · have noBreak : Layout.lineBreak line = [] :=
          Layout.lineBreak_of_eq_append (by simpa using openLine)
        rw [noBreak] at followed
        rcases ends with closed | rfl
        · exact openEnd closed
        · simp at followed

/-- If carriage returns only break lines, the bodies of lines have none. -/
theorem AreLines.noReturn {lines : List (List Char)} (areLines : AreLines lines)
    (returnsBreak : ReturnsBreak lines.flatten) :
    ∀ line ∈ lines, '\r' ∉ dropLineBreak line := by
  have noFeeds := areLines.noFeed
  induction areLines with
  | nil => simp
  | @last body noFeed =>
      intro line member
      rw [List.mem_singleton.mp member]
      apply ReturnsBreak.noReturn returnsBreak (noFeeds body List.mem_cons_self)
      exact .inr rfl
  | @cons body lines noFeed later ih =>
      intro line member
      rw [List.forall_mem_cons] at noFeeds
      rcases List.mem_cons.mp member with rfl | member
      · apply ReturnsBreak.noReturn returnsBreak noFeeds.1
        simp
      · exact ih returnsBreak.of_append noFeeds.2 line member

end Text

namespace Layout

open Text

section Runs

variable {width offset : Nat} {start : LineStart} {lines laid : List (List Char)}

/-- A line without stray carriage returns is laid out as it is once it is in its layout. -/
theorem layLine?_laid {line laidLine : List Char} (noFeed : '\n' ∉ dropLineBreak line)
    (noReturn : '\r' ∉ dropLineBreak line) (laidEq : layLine? width start line = some laidLine) :
    layLine? width start laidLine = some laidLine := by
  have noReturnLaid : '\r' ∉ laidBody width start (dropLineBreak line) :=
    not_mem_laidBody (by decide) noReturn
  rcases exists_dropLineBreak_laid laidEq noFeed with ⟨returns, areReturns, bodyEq, breakEq⟩
  have noReturns : returns = [] := by
    rw [List.eq_nil_iff_forall_not_mem]
    intro char member
    apply noReturnLaid
    rw [← bodyEq, ← areReturns char member]
    exact List.mem_append_right _ member
  rw [noReturns, List.append_nil] at bodyEq
  rw [noReturns, List.nil_append] at breakEq
  rcases layLine?_eq_some_iff.mp laidEq with ⟨fits, laidLineEq⟩
  apply layLine?_eq_some_iff.mpr
  rw [bodyEq, breakEq, kept_laidBody, laidBody_laidBody]
  exact ⟨fits, laidLineEq⟩

/-- Lines in their layout are laid out as they are. -/
theorem layLines?_laid (noFeed : ∀ line ∈ lines, '\n' ∉ dropLineBreak line)
    (noReturn : ∀ line ∈ lines, '\r' ∉ dropLineBreak line)
    (laidEq : layLines? none width offset start lines = some laid) (offset' : Nat) :
    layLines? none width offset' start laid = some laid := by
  induction lines generalizing offset offset' start laid with
  | nil =>
      cases laidEq
      rfl
  | cons line lines ih =>
      rcases layLines?_cons_eq_some_iff.mp laidEq with ⟨first, rest, rfl, firstEq, restEq⟩
      rw [List.forall_mem_cons] at noFeed noReturn
      apply layLines?_cons_eq_some_iff.mpr
      refine ⟨first, rest, rfl, layLine?_laid noFeed.1 noReturn.1 firstEq, ?_⟩
      rw [next_laid firstEq noFeed.1]
      exact ih noFeed.2 noReturn.2 restEq _

/-- An empty last line does not matter to the layout. -/
theorem layLines?_filter (areLines : AreLines lines)
    (fixed : layLines? none width offset start lines = some lines) :
    layLines? none width offset start (lines.filter fun line => !line.isEmpty) =
      some (lines.filter fun line => !line.isEmpty) := by
  induction areLines generalizing offset start with
  | nil => rfl
  | @last body noFeed =>
      cases body with
      | nil => rfl
      | cons char body => exact fixed
  | @cons body lines noFeed later ih =>
      rcases layLines?_cons_eq_some_iff.mp fixed with ⟨first, rest, linesEq, firstEq, restEq⟩
      rcases List.cons.inj linesEq with ⟨rfl, rfl⟩
      rw [List.filter_cons_of_pos (by simp)]
      exact layLines?_cons_eq_some_iff.mpr ⟨_, _, rfl, firstEq, ih restEq⟩

end Runs

/-- Laying out a layout changes nothing, if every carriage return of the source is directly followed
by a line feed. -/
theorem reindent?_idempotent {source laid : List Char} {width : Nat}
    (returnsBreak : ReturnsBreak source) (laidEq : reindent? source none width = some laid) :
    reindent? laid none width = some laid := by
  rcases reindent?_eq_some_iff.mp laidEq with ⟨lines, linesEq, rfl⟩
  have areLines := areLines_linesWithEnds source
  have noReturn : ∀ line ∈ linesWithEnds source, '\r' ∉ dropLineBreak line := by
    apply areLines.noReturn
    rwa [flatten_linesWithEnds]
  have areLaid := areLines_layLines? areLines linesEq
  have fixed := layLines?_laid areLines.noFeed noReturn linesEq 0
  apply reindent?_eq_some_iff.mpr
  refine ⟨lines.filter fun line => !line.isEmpty, ?_, ?_⟩
  · rw [areLaid.linesWithEnds_flatten]
    exact layLines?_filter areLaid fixed
  · rw [← areLaid.linesWithEnds_flatten, flatten_linesWithEnds]

/-- A chain inside brackets, a string over two lines and a trailing blank line: the layout stays. -/
theorem reindent?_idempotent_of_chain :
    ReturnsBreak "a(\r\n.b, \"c\n  d\" )\n ".toList ∧
    reindent? "a(\r\n.b, \"c\n  d\" )\n ".toList none 2 =
      some "a(\r\n    .b, \"c\n  d\" )\n".toList ∧
    reindent? "a(\r\n    .b, \"c\n  d\" )\n".toList none 2 =
      some "a(\r\n    .b, \"c\n  d\" )\n".toList := by
  have returnsBreak : ReturnsBreak "a(\r\n.b, \"c\n  d\" )\n ".toList := by
    decide
  have laidEq : reindent? "a(\r\n.b, \"c\n  d\" )\n ".toList none 2 =
      some "a(\r\n    .b, \"c\n  d\" )\n".toList := by
    decide +kernel
  exact ⟨returnsBreak, laidEq, reindent?_idempotent returnsBreak laidEq⟩

/-- A stray carriage return in a string joins the line break, and uncovers a space. -/
example : ∃ laid again, reindent? "\"\nx \r \n".toList none 2 = some laid ∧
    reindent? laid none 2 = some again ∧ again ≠ laid :=
  ⟨"\"\nx \r\n".toList, "\"\nx\r\n".toList, by decide +kernel, by decide +kernel, by decide⟩

end Layout

end SourceLens
