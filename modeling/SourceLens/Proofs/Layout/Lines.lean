import SourceLens.Proofs.Layout.Scan
import SourceLens.Proofs.Text.Lines

/-!
# Laying out lines

A line in its layout is an indentation, what is kept of its body, and its line break.  Only blanks
are taken off the body, and blanks do not matter to a scan, so the next line starts the same whether
the line or its layout is scanned.
-/

namespace SourceLens

namespace Text

variable {isDropped : Char → Bool} {chars : List Char}

theorem exists_eq_append_dropLeading (isDropped : Char → Bool) (chars : List Char) :
    ∃ lead, chars = lead ++ dropLeading isDropped chars ∧ ∀ char ∈ lead, isDropped char = true :=
  ⟨chars.takeWhile isDropped, List.takeWhile_append_dropWhile.symm,
    List.all_eq_true.mp List.all_takeWhile⟩

theorem exists_eq_dropTrailing_append (isDropped : Char → Bool) (chars : List Char) :
    ∃ trail, chars = dropTrailing isDropped chars ++ trail ∧
      ∀ char ∈ trail, isDropped char = true := by
  rcases exists_eq_append_dropLeading isDropped chars.reverse with ⟨lead, charsEq, dropped⟩
  refine ⟨lead.reverse, ?_, by simpa using dropped⟩
  rw [dropTrailing, ← List.reverse_append, ← dropLeading, ← charsEq, List.reverse_reverse]

theorem head?_dropLeading {char : Char}
    (isFirst : (dropLeading isDropped chars).head? = some char) : isDropped char = false := by
  have notDropped := List.head?_dropWhile_not isDropped chars
  rw [dropLeading] at isFirst
  simpa [isFirst] using notDropped

theorem getLast?_dropTrailing {char : Char}
    (isLast : (dropTrailing isDropped chars).getLast? = some char) : isDropped char = false := by
  rw [dropTrailing, List.getLast?_reverse] at isLast
  exact head?_dropLeading isLast

theorem dropLeading_eq_self (stays : ∀ char, chars.head? = some char → isDropped char = false) :
    dropLeading isDropped chars = chars := by
  cases chars with
  | nil => rfl
  | cons char chars => simp [dropLeading, stays char rfl]

theorem dropTrailing_eq_self (stays : ∀ char, chars.getLast? = some char → isDropped char = false) :
    dropTrailing isDropped chars = chars := by
  have reversed : dropLeading isDropped chars.reverse = chars.reverse :=
    dropLeading_eq_self fun char isFirst => stays char (by simpa using isFirst)
  rw [dropTrailing, ← dropLeading, reversed, List.reverse_reverse]

@[simp]
theorem dropTrailing_dropTrailing :
    dropTrailing isDropped (dropTrailing isDropped chars) = dropTrailing isDropped chars :=
  dropTrailing_eq_self fun _ => getLast?_dropTrailing

theorem head?_trim {char : Char} (isFirst : (trim chars).head? = some char) :
    isBlank char = false := by
  rcases exists_eq_dropTrailing_append isBlank (trimLeading chars) with ⟨trail, charsEq, -⟩
  apply @head?_dropLeading isBlank chars
  rw [← trimLeading, charsEq, ← trim, List.head?_append, isFirst, Option.some_or]

@[simp]
theorem trim_trim : trim (trim chars) = trim chars := by
  rw [trim, trimLeading, dropLeading_eq_self fun _ => head?_trim]
  exact dropTrailing_dropTrailing

theorem trim_blanks_append {blanks : List Char} (blank : ∀ char ∈ blanks, isBlank char = true) :
    trim (blanks ++ chars) = trim chars := by
  rw [trim, trim, trimLeading, trimLeading, dropLeading, dropLeading,
    List.dropWhile_append_of_pos blank]

theorem dropTrailing_append_of_all {trail : List Char} (dropped : ∀ char ∈ trail, isDropped char = true) :
    dropTrailing isDropped (chars ++ trail) = dropTrailing isDropped chars := by
  rw [dropTrailing, dropTrailing, List.reverse_append,
    List.dropWhile_append_of_pos (by simpa using dropped)]

theorem dropTrailing_append_cons {char : Char} (kept : isDropped char = false)
    (front tail : List Char) :
    dropTrailing isDropped (front ++ char :: tail) = front ++ char :: dropTrailing isDropped tail := by
  rw [dropTrailing, dropTrailing, List.reverse_append, List.reverse_cons, List.append_assoc,
    List.dropWhile_append]
  split
  next allDropped =>
    have noneLeft : tail.reverse.dropWhile isDropped = [] := by simpa using allDropped
    simp [noneLeft, kept]
  next => simp

theorem trimLeading_eq_self (trimmed : trim chars = chars) : trimLeading chars = chars :=
  dropLeading_eq_self fun _ isFirst => head?_trim (by rwa [trimmed])

theorem dropTrailing_eq_of_trim (trimmed : trim chars = chars) : dropTrailing isBlank chars = chars := by
  rwa [trim, trimLeading_eq_self trimmed] at trimmed

/-- Blanks around a trimmed text are all that trimming takes off. -/
theorem trim_surrounded {lead trail : List Char} (blankLead : ∀ char ∈ lead, isBlank char = true)
    (blankTrail : ∀ char ∈ trail, isBlank char = true) (nonempty : chars ≠ [])
    (trimmed : trim chars = chars) : trim (lead ++ (chars ++ trail)) = chars := by
  have startsSolid : trimLeading (chars ++ trail) = chars ++ trail := by
    apply dropLeading_eq_self
    intro char isFirst
    rw [List.head?_append_of_ne_nil _ nonempty] at isFirst
    exact head?_trim (by rwa [trimmed])
  rw [trim_blanks_append blankLead, trim, startsSolid, dropTrailing_append_of_all blankTrail,
    dropTrailing_eq_of_trim trimmed]

end Text

namespace Layout

open Text

/-- The characters that are taken off the end of a line that starts in a state. -/
def isTrailing (state : ScanState) (char : Char) : Bool :=
  if state = .code then isBlank char else char == ' ' || char == '\t'

/-- What is kept of the body of a line that starts in a state. -/
def kept (state : ScanState) (body : List Char) : List Char :=
  dropTrailing (isTrailing state) (if state = .code then trimLeading body else body)

theorem kept_code (body : List Char) : kept .code body = trim body := by
  have sameClass : isTrailing .code = isBlank := by
    funext char
    simp [isTrailing]
  rw [kept, sameClass, if_pos rfl, trim]

theorem kept_of_ne_code {state : ScanState} (notCode : state ≠ .code) (body : List Char) :
    kept state body = dropTrailing (fun char => char == ' ' || char == '\t') body := by
  have sameClass : isTrailing state = fun char => char == ' ' || char == '\t' := by
    funext char
    simp [isTrailing, notCode]
  rw [kept, sameClass, if_neg notCode]

/-- What is taken off a body: blanks off its front, in code only, and trailing characters off its
end. -/
structure TakenOff (state : ScanState) (body lead trail : List Char) : Prop where
  bodyEq : body = lead ++ (kept state body ++ trail)
  blankLead : ∀ char ∈ lead, isBlank char = true
  noLead : state ≠ .code → lead = []
  trailing : ∀ char ∈ trail, isTrailing state char = true

theorem TakenOff.blankTrail {state : ScanState} {body lead trail : List Char}
    (takenOff : TakenOff state body lead trail) : ∀ char ∈ trail, isBlank char = true := by
  intro char member
  have isTaken := takenOff.trailing char member
  unfold isTrailing at isTaken
  split at isTaken
  · exact isTaken
  · simp only [Bool.or_eq_true, beq_iff_eq] at isTaken
    rcases isTaken with rfl | rfl <;> decide

theorem exists_takenOff (state : ScanState) (body : List Char) :
    ∃ lead trail, TakenOff state body lead trail := by
  by_cases inCode : state = .code
  · rcases exists_eq_append_dropLeading isBlank body with ⟨lead, bodyEq, blankLead⟩
    rcases exists_eq_dropTrailing_append (isTrailing state) (trimLeading body) with
      ⟨trail, frontEq, trailing⟩
    refine ⟨lead, trail, ?_, blankLead, fun notCode => absurd inCode notCode, trailing⟩
    rw [kept, if_pos inCode, ← frontEq]
    exact bodyEq
  · rcases exists_eq_dropTrailing_append (isTrailing state) body with ⟨trail, bodyEq, trailing⟩
    refine ⟨[], trail, ?_, by simp, fun _ => rfl, trailing⟩
    rwa [kept, if_neg inCode, List.nil_append]

/-- The number of blanks in front of what is kept of a line. -/
def indentation (width : Nat) (start : LineStart) (core : List Char) : Nat :=
  if start.state = .code ∧ core ≠ [] then level start.depth core * width else 0

/-- The body of a line in its layout. -/
def laidBody (width : Nat) (start : LineStart) (body : List Char) : List Char :=
  List.replicate (indentation width start (kept start.state body)) ' ' ++ kept start.state body

section Bodies

variable {width : Nat} {start : LineStart} {line laid body : List Char}

theorem laidBody_of_ne_code (notCode : start.state ≠ .code) :
    laidBody width start body = kept start.state body := by
  simp [laidBody, indentation, notCode]

/-- A line is laid out by its body, unless its indentation is too long. -/
theorem layLine?_eq (width : Nat) (start : LineStart) (line : List Char) :
    layLine? width start line =
      if indentation width start (kept start.state (dropLineBreak line)) ≤ maxLength then
        some (laidBody width start (dropLineBreak line) ++ lineBreak line)
      else none := by
  by_cases inCode : start.state = .code
  · simp only [layLine?, laidBody, indentation, inCode, kept_code]
    by_cases blankLine : trim (dropLineBreak line) = []
    · simp [blankLine]
    · simp [blankLine]
  · rw [laidBody_of_ne_code inCode, kept_of_ne_code inCode]
    simp [layLine?, indentation, inCode]

theorem layLine?_eq_some_iff :
    layLine? width start line = some laid ↔
      indentation width start (kept start.state (dropLineBreak line)) ≤ maxLength ∧
        laidBody width start (dropLineBreak line) ++ lineBreak line = laid := by
  rw [layLine?_eq, Option.ite_none_right_eq_some, Option.some.injEq]

theorem isBlank_of_mem_replicate {count : Nat} :
    ∀ char ∈ List.replicate count ' ', isBlank char = true := by
  intro char member
  rw [List.eq_of_mem_replicate member]
  decide

theorem kept_laidBody : kept start.state (laidBody width start body) = kept start.state body := by
  by_cases inCode : start.state = .code
  · rw [laidBody, inCode, kept_code, kept_code, trim_blanks_append isBlank_of_mem_replicate,
      trim_trim]
  · rw [laidBody_of_ne_code inCode, kept_of_ne_code inCode, kept_of_ne_code inCode,
      dropTrailing_dropTrailing]

/-- Laying out a body again changes nothing. -/
theorem laidBody_laidBody :
    laidBody width start (laidBody width start body) = laidBody width start body := by
  rw [laidBody, kept_laidBody, ← laidBody]

theorem not_mem_laidBody {char : Char} (notSpace : char ≠ ' ') (notMember : char ∉ body) :
    char ∉ laidBody width start body := by
  intro member
  rcases List.mem_append.mp member with inFront | inKept
  · exact notSpace (List.eq_of_mem_replicate inFront)
  · rcases exists_takenOff start.state body with ⟨lead, trail, takenOff⟩
    apply notMember
    rw [takenOff.bodyEq]
    exact List.mem_append_right _ (List.mem_append_left _ inKept)

theorem scan_kept (state : ScanState) (body : List Char) :
    scan state (kept state body) = scan state body := by
  rcases exists_takenOff state body with ⟨lead, trail, takenOff⟩
  have sameScan := congrArg (scan state) takenOff.bodyEq
  by_cases inCode : state = .code
  · subst inCode
    rw [sameScan, scan, scan, scanFrom_blanks_append takenOff.blankLead rfl,
      scanFrom_append_blanks takenOff.blankTrail]
  · rw [sameScan, takenOff.noLead inCode, List.nil_append, scan, scan,
      scanFrom_append_blanks takenOff.blankTrail]

/-- The body of a line is scanned the same in its layout. -/
theorem scan_laidBody : scan start.state (laidBody width start body) = scan start.state body := by
  rw [← scan_kept start.state body]
  by_cases inCode : start.state = .code
  · rw [laidBody, inCode, scan, scan, scanFrom_blanks_append isBlank_of_mem_replicate rfl]
  · rw [laidBody_of_ne_code inCode]

/-- A line in its layout has the break of the line, with carriage returns that the body leaves to
it. -/
theorem exists_dropLineBreak_laid (laidEq : layLine? width start line = some laid)
    (noFeed : '\n' ∉ dropLineBreak line) :
    ∃ returns, (∀ char ∈ returns, char = '\r') ∧
      dropLineBreak laid ++ returns = laidBody width start (dropLineBreak line) ∧
      lineBreak laid = returns ++ lineBreak line := by
  rcases layLine?_eq_some_iff.mp laidEq with ⟨-, rfl⟩
  apply exists_dropLineBreak_append
  · exact not_mem_laidBody (by decide) noFeed
  · exact isBreak_lineBreak line

theorem isBlank_of_areReturns {returns : List Char} (areReturns : ∀ char ∈ returns, char = '\r') :
    ∀ char ∈ returns, isBlank char = true := by
  intro char member
  rw [areReturns char member]
  decide

/-- The next line starts the same whether a line or its layout stands before it. -/
theorem next_laid (laidEq : layLine? width start line = some laid)
    (noFeed : '\n' ∉ dropLineBreak line) : start.next laid = start.next line := by
  rcases exists_dropLineBreak_laid laidEq noFeed with ⟨returns, areReturns, bodyEq, -⟩
  have sameScan : scan start.state (laidBody width start (dropLineBreak line)) =
      scan start.state (dropLineBreak line) := scan_laidBody
  rw [← bodyEq, scan, scanFrom_append_blanks (isBlank_of_areReturns areReturns), ← scan] at sameScan
  rw [LineStart.next, LineStart.next, sameScan]

end Bodies

/-- What is known after some lines. -/
def LineStart.after (start : LineStart) (lines : List (List Char)) : LineStart :=
  lines.foldl LineStart.next start

@[simp]
theorem LineStart.after_nil (start : LineStart) : start.after [] = start := rfl

@[simp]
theorem LineStart.after_cons (start : LineStart) (line : List Char) (lines : List (List Char)) :
    start.after (line :: lines) = (start.next line).after lines := rfl

section Runs

variable {span : Option Span} {width offset : Nat} {start : LineStart}
  {lines laid : List (List Char)}

/-- What holds between a line and its layout, and between a line and itself, holds between the lines
and their layout. -/
theorem forall₂_layLines? {related : List Char → List Char → Prop}
    (layout : ∀ start, ∀ line ∈ lines, ∀ laid, layLine? width start line = some laid →
      related line laid)
    (same : ∀ line ∈ lines, related line line)
    (laidEq : layLines? span width offset start lines = some laid) :
    List.Forall₂ related lines laid := by
  induction lines generalizing offset start laid with
  | nil =>
      cases laidEq
      exact .nil
  | cons line lines ih =>
      rcases layLines?_cons_eq_some_iff.mp laidEq with ⟨first, rest, rfl, firstEq, restEq⟩
      rw [List.forall_mem_cons] at same
      have laterLayout := fun start line member =>
        layout start line (List.mem_cons_of_mem _ member)
      refine .cons ?_ (ih laterLayout same.2 restEq)
      split at firstEq
      · exact layout start line List.mem_cons_self first firstEq
      · cases firstEq
        exact same.1

/-- The layouts of lines are lines, save that the last may be empty. -/
theorem areLines_layLines? (areLines : AreLines lines)
    (laidEq : layLines? span width offset start lines = some laid) : AreLines laid := by
  apply areLines.of_forall₂
  apply forall₂_layLines? _ _ laidEq
  · intro start line member laid laidEq
    rcases layLine?_eq_some_iff.mp laidEq with ⟨-, rfl⟩
    exact ⟨_, not_mem_laidBody (by decide) (areLines.noFeed line member), rfl⟩
  · intro line member
    exact ⟨_, areLines.noFeed line member, (dropLineBreak_append_lineBreak line).symm⟩

theorem reindent?_eq_some_iff {source text : List Char} :
    reindent? source span width = some text ↔
      ∃ laid, layLines? span width 0 .first (linesWithEnds source) = some laid ∧
        laid.flatten = text := by
  rw [reindent?, Option.map_eq_some_iff]

end Runs

end Layout

end SourceLens
