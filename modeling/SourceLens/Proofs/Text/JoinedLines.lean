import SourceLens.Proofs.Text.Lines

/-!
# Joined lines

Lines are joined with line feeds, and a text is split at its line feeds.  Splitting undoes joining, whatever
number of lines the joined texts have, and empty lines around others become line feeds around them.

The lines of a text are its parts between line feeds, save for what carriage returns and an empty last part
do to them (`lines_eq_splitOn`).
-/

namespace SourceLens.Text

variable {chars line : List Char} {lines : List (List Char)}

theorem dropLineBreak_of_not_mem (noFeed : '\n' ∉ line) : dropLineBreak line = line := by
  rcases dropLineBreak_cases line with lineEq | ⟨lineEq, -⟩ | ⟨lineEq, -⟩
  · exact absurd (by rw [lineEq]; simp) noFeed
  · exact absurd (by rw [lineEq]; simp) noFeed
  · exact lineEq.symm

theorem dropLineBreak_append_feed (noReturn : line.getLast? ≠ some '\r') :
    dropLineBreak (line ++ ['\n']) = line := by
  rcases dropLineBreak_cases (line ++ ['\n']) with lineEq | ⟨lineEq, -⟩ | ⟨-, openEnd⟩
  · have endsWithReturn : line = dropLineBreak (line ++ ['\n']) ++ ['\r'] := by
      apply List.append_cancel_right
      simpa using lineEq
    rw [endsWithReturn] at noReturn
    simp at noReturn
  · exact (List.append_cancel_right lineEq).symm
  · simp at openEnd

theorem joinLines_cons_cons (first second : List Char) (lines : List (List Char)) :
    joinLines (first :: second :: lines) = first ++ '\n' :: joinLines (second :: lines) := by
  simp [joinLines]

theorem mem_joinLines {char : Char} (member : line ∈ lines) (inLine : char ∈ line) :
    char ∈ joinLines lines := by
  induction lines with
  | nil => cases member
  | cons first rest ih =>
      cases rest with
      | nil => simp_all [joinLines]
      | cons next rest =>
          rw [joinLines_cons_cons, List.mem_append, List.mem_cons]
          rcases List.mem_cons.mp member with rfl | later
          · exact .inl inLine
          · exact .inr (.inr (ih later))

theorem joinLines_append {first second : List (List Char)} (someFirst : first ≠ [])
    (someSecond : second ≠ []) :
    joinLines (first ++ second) = joinLines first ++ '\n' :: joinLines second := by
  induction first with
  | nil => contradiction
  | cons line rest ih =>
      cases rest with
      | nil =>
          rcases List.exists_cons_of_ne_nil someSecond with ⟨next, later, rfl⟩
          simp [joinLines]
      | cons next rest =>
          rw [List.cons_append, List.cons_append, joinLines_cons_cons, ← List.cons_append, ih (by simp),
            joinLines_cons_cons, List.append_assoc, List.cons_append]

theorem joinLines_replicate_nil (count : Nat) :
    joinLines (List.replicate (count + 1) []) = List.replicate count '\n' := by
  induction count with
  | zero => rfl
  | succ count ih =>
      rw [List.replicate_succ, List.replicate_succ, joinLines_cons_cons, ← List.replicate_succ, ih]
      rfl

theorem joinLines_append_empty (nonempty : lines ≠ []) (count : Nat) :
    joinLines (lines ++ List.replicate count []) = joinLines lines ++ List.replicate count '\n' := by
  cases count with
  | zero => simp
  | succ count =>
      rw [joinLines_append nonempty (by simp), joinLines_replicate_nil, List.replicate_succ]

theorem joinLines_empty_append (nonempty : lines ≠ []) (count : Nat) :
    joinLines (List.replicate count [] ++ lines) = List.replicate count '\n' ++ joinLines lines := by
  cases count with
  | zero => simp
  | succ count =>
      rw [joinLines_append (by simp) nonempty, joinLines_replicate_nil, List.replicate_succ']
      simp

theorem not_mem_of_mem_splitOn {mark : Char} (member : line ∈ chars.splitOn mark) : mark ∉ line := by
  induction chars generalizing line with
  | nil => simp_all
  | cons char chars ih =>
      rw [List.splitOn_cons_eq_if_modifyHead] at member
      cases parts : chars.splitOn mark with
      | nil => exact absurd parts (List.splitOn_ne_nil mark chars)
      | cons first rest =>
          simp only [parts, List.modifyHead_cons] at member ih
          grind

/-- The lines of a text are its parts between line feeds, if none of these ends with a carriage return and
the last is not empty. -/
theorem lines_eq_splitOn (noReturn : ∀ line ∈ chars.splitOn '\n', line.getLast? ≠ some '\r')
    (closed : (chars.splitOn '\n').getLast? ≠ some []) : Text.lines chars = chars.splitOn '\n' := by
  have noFeed : ∀ line ∈ chars.splitOn '\n', '\n' ∉ line := fun _ => not_mem_of_mem_splitOn
  have joined : joinLines (chars.splitOn '\n') = chars := List.intercalate_splitOn '\n'
  nth_rewrite 1 [← joined]
  generalize chars.splitOn '\n' = lines at noReturn closed noFeed
  induction lines with
  | nil => rfl
  | cons line rest ih =>
      rw [List.forall_mem_cons] at noFeed noReturn
      cases rest with
      | nil =>
          have nonempty : line ≠ [] := by simpa using closed
          rw [joinLines, List.intercalate_singleton, Text.lines, linesWithEnds_of_not_mem noFeed.1,
            if_neg (by simpa using nonempty), List.map_singleton, dropLineBreak_of_not_mem noFeed.1]
      | cons next rest =>
          have later := ih noReturn.2 (by simpa using closed) noFeed.2
          rw [joinLines_cons_cons, Text.lines, linesWithEnds_append_feed noFeed.1, List.map_cons,
            ← Text.lines, later, dropLineBreak_append_feed noReturn.1]

theorem splitOn_joinLines {parts : List (List Char)} (nonempty : parts ≠ []) :
    (joinLines parts).splitOn '\n' = parts.flatMap fun part => part.splitOn '\n' := by
  induction parts with
  | nil => contradiction
  | cons part rest ih =>
      cases rest with
      | nil => simp [joinLines]
      | cons next rest =>
          rw [joinLines_cons_cons, List.splitOn_append_cons_self, ih (by simp), ← List.flatMap_cons]

theorem flatMap_splitOn_of_not_mem (noFeed : ∀ line ∈ lines, '\n' ∉ line) :
    (lines.flatMap fun line => line.splitOn '\n') = lines := by
  induction lines with
  | nil => rfl
  | cons line rest ih =>
      rw [List.forall_mem_cons] at noFeed
      rw [List.flatMap_cons, List.splitOn_eq_singleton noFeed.1, ih noFeed.2, List.singleton_append]

end SourceLens.Text
