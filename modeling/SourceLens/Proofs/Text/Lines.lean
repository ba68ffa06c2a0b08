import Mathlib.Data.List.Forall2
import SourceLens.Proofs.Layout.Code

/-!
# Lines

A text is put together from its lines, and lists that look like the lines of a text are the lines of
what they make together, save for an empty last one.  So a text can be rewritten line by line, and
the result has the rewritten lines.

A line is a body and a line break.  A break that is only a line feed takes a carriage return that
comes to stand in front of it.
-/

namespace SourceLens

namespace Text

theorem linesWithEnds_append_feed {body : List Char} (noFeed : '\n' ∉ body) (rest : List Char) :
    linesWithEnds (body ++ '\n' :: rest) = (body ++ ['\n']) :: linesWithEnds rest := by
  induction body with
  | nil => simp [linesWithEnds]
  | cons char body ih =>
      rw [List.mem_cons, not_or] at noFeed
      simp [linesWithEnds, Ne.symm noFeed.1, ih noFeed.2]

theorem linesWithEnds_of_not_mem {body : List Char} (noFeed : '\n' ∉ body) :
    linesWithEnds body = if body.isEmpty then [] else [body] := by
  induction body with
  | nil => rfl
  | cons char body ih =>
      rw [List.mem_cons, not_or] at noFeed
      cases body with
      | nil => simp [linesWithEnds, Ne.symm noFeed.1]
      | cons next body => simp [linesWithEnds, Ne.symm noFeed.1, ih noFeed.2]

/-- Lists that end with a line feed and have no other, save that the last may have none. -/
inductive AreLines : List (List Char) → Prop where
  | nil : AreLines []
  | last {body : List Char} (noFeed : '\n' ∉ body) : AreLines [body]
  | cons {body : List Char} {lines : List (List Char)} (noFeed : '\n' ∉ body)
      (later : AreLines lines) : AreLines ((body ++ ['\n']) :: lines)

theorem areLines_linesWithEnds (chars : List Char) : AreLines (linesWithEnds chars) := by
  fun_induction linesWithEnds chars with
  | case1 => exact .nil
  | case2 chars ih => exact @AreLines.cons [] _ List.not_mem_nil ih
  | case3 char chars notFeed noLines ih =>
      exact .last (by simpa using Ne.symm notFeed)
  | case4 char chars notFeed line lines someLines ih =>
      rw [someLines] at ih
      cases ih with
      | last noFeed => exact .last (by simpa [noFeed] using Ne.symm notFeed)
      | @cons body _ noFeed later =>
          exact @AreLines.cons (char :: body) _ (by simpa [noFeed] using Ne.symm notFeed) later

/-- Lists that look like lines are the lines of the text that they make, save for an empty last
one. -/
theorem AreLines.linesWithEnds_flatten {lines : List (List Char)} (areLines : AreLines lines) :
    linesWithEnds lines.flatten = lines.filter fun line => !line.isEmpty := by
  induction areLines with
  | nil => rfl
  | @last body noFeed =>
      rw [List.flatten_singleton, linesWithEnds_of_not_mem noFeed]
      cases body <;> rfl
  | @cons body lines noFeed later ih =>
      rw [List.flatten_cons, List.append_assoc, List.singleton_append,
        linesWithEnds_append_feed noFeed, ih]
      simp

theorem AreLines.getElem?_linesWithEnds_flatten {lines : List (List Char)}
    (areLines : AreLines lines) (index : Nat) :
    (linesWithEnds lines.flatten)[index]? = lines[index]?.filter fun line => !line.isEmpty := by
  rw [areLines.linesWithEnds_flatten]
  induction areLines generalizing index with
  | nil => rfl
  | @last body noFeed => cases body <;> cases index <;> simp [Option.filter]
  | @cons body lines noFeed later ih =>
      rw [List.filter_cons_of_pos (by simp)]
      cases index with
      | zero => simp [Option.filter]
      | succ index => exact ih index

section Breaks

theorem dropSuffix?_eq_some_iff {suffix chars body : List Char} :
    dropSuffix? suffix chars = some body ↔ chars = body ++ suffix := by
  constructor
  · intro dropped
    simp only [dropSuffix?, List.isSuffixOf_iff_suffix, Option.ite_none_right_eq_some,
      Option.some.injEq] at dropped
    rcases dropped with ⟨⟨front, rfl⟩, rfl⟩
    simp
  · rintro rfl
    simp [dropSuffix?]

/-- A line breaks with a carriage return and a line feed, with a line feed, or not at all. -/
theorem dropLineBreak_cases (line : List Char) :
    line = dropLineBreak line ++ ['\r', '\n'] ∨
      line = dropLineBreak line ++ ['\n'] ∧ (dropLineBreak line).getLast? ≠ some '\r' ∨
      line = dropLineBreak line ∧ line.getLast? ≠ some '\n' := by
  unfold dropLineBreak
  cases returnFeed : dropSuffix? ['\r', '\n'] line with
  | some body => exact .inl (dropSuffix?_eq_some_iff.mp returnFeed)
  | none =>
      have noReturnFeed : ∀ body, line ≠ body ++ ['\r', '\n'] := by
        intro body lineEq
        rw [dropSuffix?_eq_some_iff.mpr lineEq] at returnFeed
        cases returnFeed
      cases feed : dropSuffix? ['\n'] line with
      | some body =>
          have lineEq := dropSuffix?_eq_some_iff.mp feed
          refine .inr (.inl ⟨lineEq, ?_⟩)
          intro lastReturn
          rcases List.getLast?_eq_some_iff.mp lastReturn with ⟨front, bodyEq⟩
          rw [Option.getD_some] at bodyEq
          exact noReturnFeed front (by simp [lineEq, bodyEq])
      | none =>
          refine .inr (.inr ⟨rfl, ?_⟩)
          intro lastFeed
          rcases List.getLast?_eq_some_iff.mp lastFeed with ⟨front, lineEq⟩
          rw [dropSuffix?_eq_some_iff.mpr lineEq] at feed
          cases feed

end Breaks

end Text

namespace Layout

open Text

theorem lineBreak_of_eq_append {line ending : List Char}
    (lineEq : line = dropLineBreak line ++ ending) : lineBreak line = ending := by
  have same := dropLineBreak_append_lineBreak line
  exact List.append_cancel_left (same.trans lineEq)

/-- The ways in which a line can end. -/
def IsBreak (ending : List Char) : Prop :=
  ending = [] ∨ ending = ['\n'] ∨ ending = ['\r', '\n']

theorem isBreak_lineBreak (line : List Char) : IsBreak (lineBreak line) := by
  rcases dropLineBreak_cases line with lineEq | ⟨lineEq, -⟩ | ⟨lineEq, -⟩
  · exact .inr (.inr (lineBreak_of_eq_append lineEq))
  · exact .inr (.inl (lineBreak_of_eq_append lineEq))
  · exact .inl (lineBreak_of_eq_append (by simpa using lineEq))

/-- A break after a body without line feeds stays the break, save that it takes a carriage return
that it finds in front of it. -/
theorem exists_dropLineBreak_append {body ending : List Char} (noFeed : '\n' ∉ body)
    (isBreak : IsBreak ending) :
    ∃ returns, (∀ char ∈ returns, char = '\r') ∧
      dropLineBreak (body ++ ending) ++ returns = body ∧
      lineBreak (body ++ ending) = returns ++ ending := by
  -- Without a carriage return to take, the body and the break stay apart.
  have apart : body = dropLineBreak (body ++ ending) → ∃ returns,
      (∀ char ∈ returns, char = '\r') ∧ dropLineBreak (body ++ ending) ++ returns = body ∧
        lineBreak (body ++ ending) = returns ++ ending :=
    fun bodyEq => ⟨[], by simp, by simpa using bodyEq.symm,
      lineBreak_of_eq_append (congrArg (· ++ ending) bodyEq)⟩
  have lineCases := dropLineBreak_cases (body ++ ending)
  rcases isBreak with rfl | rfl | rfl
  · rw [List.append_nil] at lineCases apart ⊢
    rcases lineCases with lineEq | ⟨lineEq, -⟩ | ⟨lineEq, -⟩
    · exact absurd (by rw [lineEq]; simp) noFeed
    · exact absurd (by rw [lineEq]; simp) noFeed
    · exact apart lineEq
  · rcases lineCases with lineEq | ⟨lineEq, -⟩ | ⟨-, openEnd⟩
    · have bodyEq : body = dropLineBreak (body ++ ['\n']) ++ ['\r'] := by
        apply List.append_cancel_right
        simpa using lineEq
      exact ⟨['\r'], by simp, bodyEq.symm, lineBreak_of_eq_append lineEq⟩
    · exact apart (List.append_cancel_right lineEq)
    · simp at openEnd
  · rcases lineCases with lineEq | ⟨lineEq, noReturn⟩ | ⟨-, openEnd⟩
    · exact apart (List.append_cancel_right lineEq)
    · have bodyEq : body ++ ['\r'] = dropLineBreak (body ++ ['\r', '\n']) := by
        apply List.append_cancel_right
        simpa using lineEq
      simp [← bodyEq] at noReturn
    · simp at openEnd

end Layout

namespace Text

theorem AreLines.noFeed {lines : List (List Char)} (areLines : AreLines lines) :
    ∀ line ∈ lines, '\n' ∉ dropLineBreak line := by
  induction areLines with
  | nil => simp
  | @last body noFeed =>
      intro line member feed
      rw [List.mem_singleton.mp member] at feed
      exact noFeed ((isPrefix_dropLineBreak body).subset feed)
  | @cons body lines noFeed later ih =>
      intro line member
      rcases List.mem_cons.mp member with rfl | member
      · rcases Layout.exists_dropLineBreak_append noFeed (.inr (.inl rfl)) with
          ⟨returns, -, bodyEq, -⟩
        rw [← bodyEq] at noFeed
        exact fun feed => noFeed (List.mem_append_left _ feed)
      · exact ih line member

/-- Lines stay lines when each keeps its break and is given no line feeds in front of it. -/
theorem AreLines.of_forall₂ {lines changed : List (List Char)} (areLines : AreLines lines)
    (keepBreaks : List.Forall₂ (fun line line' => ∃ body, '\n' ∉ body ∧
      line' = body ++ Layout.lineBreak line) lines changed) : AreLines changed := by
  induction areLines generalizing changed with
  | nil =>
      cases keepBreaks
      exact .nil
  | @last body noFeed =>
      rcases keepBreaks with _ | ⟨⟨body', noFeed', rfl⟩, _ | _⟩
      have noBreak : '\n' ∉ Layout.lineBreak body := by
        intro feed
        apply noFeed
        rw [← Layout.dropLineBreak_append_lineBreak body]
        exact List.mem_append_right _ feed
      exact .last (by simp [noFeed', noBreak])
  | @cons body lines noFeed later ih =>
      rcases keepBreaks with _ | ⟨⟨body', noFeed', rfl⟩, keepLater⟩
      rcases Layout.exists_dropLineBreak_append noFeed (.inr (.inl rfl)) with
        ⟨returns, areReturns, -, breakEq⟩
      have noReturnFeed : '\n' ∉ returns := fun feed => absurd (areReturns _ feed) (by decide)
      rw [breakEq, ← List.append_assoc]
      exact .cons (by simp [noFeed', noReturnFeed]) (ih keepLater)

end Text

end SourceLens
