import SourceLens.Layout

/-!
# The code of a text

The code of a text is what is left of it without blanks.  Laying out a source changes blanks only:
the lines of the layout have, one by one, the code of the lines of the source, whether they meet the
span or not.
-/

namespace SourceLens

namespace Text

/-- The characters of a text that are not blank. -/
def code (chars : List Char) : List Char :=
  chars.filter fun char => !isBlank char

@[simp]
theorem code_nil : code [] = [] := rfl

@[simp]
theorem code_append (left right : List Char) : code (left ++ right) = code left ++ code right :=
  List.filter_append left right

theorem code_reverse (chars : List Char) : code chars.reverse = (code chars).reverse :=
  List.filter_reverse

theorem code_replicate_space (count : Nat) : code (List.replicate count ' ') = [] := by
  rw [code, List.filter_eq_nil_iff]
  intro char member
  rw [List.eq_of_mem_replicate member]
  decide

theorem code_dropLeading {isDropped : Char → Bool}
    (blank : ∀ char, isDropped char = true → isBlank char = true) (chars : List Char) :
    code (dropLeading isDropped chars) = code chars := by
  induction chars with
  | nil => rfl
  | cons char chars ih =>
      rw [dropLeading] at ih ⊢
      rw [List.dropWhile_cons]
      split
      next dropped =>
        rw [ih]
        simp [code, blank char dropped]
      next => rfl

theorem code_dropTrailing {isDropped : Char → Bool}
    (blank : ∀ char, isDropped char = true → isBlank char = true) (chars : List Char) :
    code (dropTrailing isDropped chars) = code chars := by
  have leading := code_dropLeading blank chars.reverse
  rw [dropLeading] at leading
  rw [dropTrailing, code_reverse, leading, code_reverse, List.reverse_reverse]

@[simp]
theorem code_trim (chars : List Char) : code (trim chars) = code chars := by
  rw [trim, code_dropTrailing (fun char isBlank => isBlank), trimLeading,
    code_dropLeading (fun char isBlank => isBlank)]

theorem isPrefix_of_dropSuffix? {suffix chars body : List Char}
    (dropped : dropSuffix? suffix chars = some body) : body <+: chars := by
  unfold dropSuffix? at dropped
  split at dropped
  · cases dropped
    exact List.take_prefix _ _
  · cases dropped

theorem isPrefix_dropLineBreak (line : List Char) : dropLineBreak line <+: line := by
  unfold dropLineBreak
  split
  next body dropped => exact isPrefix_of_dropSuffix? dropped
  next =>
    cases dropped : dropSuffix? ['\n'] line with
    | none => exact List.prefix_refl line
    | some body => exact isPrefix_of_dropSuffix? dropped

/-- The lines of a text, one after the other, are the text. -/
theorem flatten_linesWithEnds (chars : List Char) : (linesWithEnds chars).flatten = chars := by
  fun_induction linesWithEnds chars with
  | case1 => rfl
  | case2 chars ih => simp [ih]
  | case3 char chars notBreak noLines ih =>
      rw [noLines] at ih
      simp [← ih]
  | case4 char chars notBreak line lines someLines ih =>
      rw [someLines] at ih
      simp [← ih]

end Text

namespace Layout

open Text

/-- A line is its body and its line break. -/
theorem dropLineBreak_append_lineBreak (line : List Char) :
    dropLineBreak line ++ lineBreak line = line :=
  List.prefix_iff_eq_append.mp (isPrefix_dropLineBreak line)

/-- A line has the same code in its layout. -/
theorem code_layLine? {width : Nat} {start : LineStart} {line laid : List Char}
    (laidEq : layLine? width start line = some laid) : code laid = code line := by
  have lineEq : code line = code (dropLineBreak line) ++ code (lineBreak line) := by
    rw [← code_append, dropLineBreak_append_lineBreak]
  simp only [layLine?] at laidEq
  rw [lineEq]
  split at laidEq
  next =>
    cases laidEq
    rw [code_append, code_dropTrailing]
    intro char dropped
    simp only [Bool.or_eq_true, beq_iff_eq] at dropped
    rcases dropped with rfl | rfl <;> decide
  next =>
    split at laidEq
    next blankLine =>
      cases laidEq
      have noCode : code (dropLineBreak line) = [] := by
        rw [← code_trim, List.isEmpty_iff.mp blankLine]
        rfl
      rw [noCode, List.nil_append]
    next =>
      split at laidEq
      next =>
        cases laidEq
        simp [code_replicate_space]
      next => cases laidEq

/-- The layout of lines starts with the first line, in its layout if it meets the span. -/
theorem layLines?_cons_eq_some_iff {span : Option Span} {width offset : Nat} {start : LineStart}
    {line : List Char} {lines laid : List (List Char)} :
    layLines? span width offset start (line :: lines) = some laid ↔
      ∃ first rest, laid = first :: rest ∧
        (if isWanted span offset (offset + byteLength line) then layLine? width start line
          else some line) = some first ∧
        layLines? span width (offset + byteLength line) (start.next line) lines = some rest := by
  rw [layLines?]
  split <;> simp only [Option.bind_eq_bind, Option.pure_def, Option.bind_eq_some_iff,
    Option.some.injEq] <;> grind

theorem code_layLines? {span : Option Span} {width offset : Nat} {start : LineStart}
    {lines laid : List (List Char)} (laidEq : layLines? span width offset start lines = some laid) :
    code laid.flatten = code lines.flatten := by
  induction lines generalizing offset start laid with
  | nil =>
      cases laidEq
      rfl
  | cons line lines ih =>
      rcases layLines?_cons_eq_some_iff.mp laidEq with ⟨first, rest, rfl, firstEq, restEq⟩
      have sameCode : code first = code line := by
        split at firstEq
        · exact code_layLine? firstEq
        · cases firstEq
          rfl
      rw [List.flatten_cons, List.flatten_cons, code_append, code_append, sameCode, ih restEq]

/-- A source has the same code in its layout. -/
theorem code_reindent? {source laid : List Char} {span : Option Span} {width : Nat}
    (laidEq : reindent? source span width = some laid) : code laid = code source := by
  rw [reindent?, Option.map_eq_some_iff] at laidEq
  rcases laidEq with ⟨lines, linesEq, rfl⟩
  rw [code_layLines? linesEq, flatten_linesWithEnds]

end Layout

end SourceLens
