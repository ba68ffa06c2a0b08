import SourceLens.Text.Units

/-!
# Boundaries of characters

A byte offset is a boundary when some first characters of the text take up exactly that many bytes.
This file says so of `Text.isBoundary`, and describes the cuts and parts of a text by the way in
which the text is put together, so that later proofs never look at bytes again.
-/

namespace SourceLens.Text

section Lengths

/-- The length of a text, given the width of each character. -/
def lengthBy (width : Char → Nat) (chars : List Char) : Nat :=
  chars.foldr (fun char length => width char + length) 0

variable {width : Char → Nat}

@[simp]
theorem lengthBy_nil : lengthBy width [] = 0 := rfl

@[simp]
theorem lengthBy_cons (char : Char) (chars : List Char) :
    lengthBy width (char :: chars) = width char + lengthBy width chars := rfl

@[simp]
theorem lengthBy_append (left right : List Char) :
    lengthBy width (left ++ right) = lengthBy width left + lengthBy width right := by
  induction left with
  | nil => simp
  | cons char chars ih => simp [ih, Nat.add_assoc]

theorem lengthBy_le_of_isPrefix {first second : List Char} (isPrefix : first <+: second) :
    lengthBy width first ≤ lengthBy width second := by
  rcases isPrefix with ⟨rest, rfl⟩
  simp

end Lengths

@[simp]
theorem byteLength_nil : byteLength [] = 0 := rfl

@[simp]
theorem byteLength_cons (char : Char) (chars : List Char) :
    byteLength (char :: chars) = char.utf8Size + byteLength chars := rfl

@[simp]
theorem byteLength_append (left right : List Char) :
    byteLength (left ++ right) = byteLength left + byteLength right :=
  lengthBy_append left right

@[simp]
theorem unitLength_nil : unitLength [] = 0 := rfl

@[simp]
theorem unitLength_cons (char : Char) (chars : List Char) :
    unitLength (char :: chars) = unitWidth char + unitLength chars := rfl

@[simp]
theorem unitLength_append (left right : List Char) :
    unitLength (left ++ right) = unitLength left + unitLength right :=
  lengthBy_append left right

/-- Characters take up at least one byte, so only the empty text takes up none. -/
theorem byteLength_eq_zero_iff {chars : List Char} : byteLength chars = 0 ↔ chars = [] := by
  cases chars with
  | nil => simp
  | cons char chars =>
      have positive := char.utf8Size_pos
      simp only [byteLength_cons, reduceCtorEq, iff_false]
      omega

/-- Of two beginnings of one text, the one with fewer bytes is a beginning of the other. -/
theorem exists_eq_append_of_byteLength_le {before after before' after' : List Char}
    (sameText : before ++ after = before' ++ after')
    (shorter : byteLength before ≤ byteLength before') :
    ∃ middle, before' = before ++ middle ∧ after = middle ++ after' := by
  rcases List.append_eq_append_iff.mp sameText with
    ⟨middle, beforeEq, afterEq⟩ | ⟨middle, beforeEq, afterEq⟩
  · exact ⟨middle, beforeEq, afterEq⟩
  · rw [beforeEq, byteLength_append] at shorter
    have nothing : middle = [] := byteLength_eq_zero_iff.mp (by omega)
    exact ⟨[], by simp [beforeEq, nothing], by simp [afterEq, nothing]⟩

theorem eq_of_byteLength_eq {before after before' after' : List Char}
    (sameText : before ++ after = before' ++ after')
    (sameLength : byteLength before = byteLength before') : before = before' ∧ after = after' := by
  rcases exists_eq_append_of_byteLength_le sameText (Nat.le_of_eq sameLength) with
    ⟨middle, beforeEq, afterEq⟩
  rw [beforeEq, byteLength_append] at sameLength
  have nothing : middle = [] := byteLength_eq_zero_iff.mp (by omega)
  subst nothing
  exact ⟨by simpa using beforeEq.symm, by simpa using afterEq⟩

theorem utf8ByteSize_ofList (chars : List Char) :
    (String.ofList chars).utf8ByteSize = byteLength chars := by
  induction chars with
  | nil => rfl
  | cons char chars ih =>
      rw [String.ofList_cons, String.utf8ByteSize_append, ih]
      simp

/-- The boundaries of a text are the ends of its beginnings. -/
theorem isBoundary_iff {text : String} {offset : Nat} :
    isBoundary text offset = true ↔
      ∃ before after, text.toList = before ++ after ∧ byteLength before = offset := by
  rw [isBoundary, String.Pos.Raw.isValid_eq_true_iff, String.Pos.Raw.isValid_iff_exists_take_toList]
  simp only [utf8ByteSize_ofList]
  constructor
  · rintro ⟨count, offsetEq⟩
    exact ⟨text.toList.take count, text.toList.drop count, by simp, offsetEq.symm⟩
  · rintro ⟨before, after, textEq, lengthEq⟩
    exact ⟨before.length, by simp [textEq, lengthEq]⟩

/-- A cut succeeds exactly at the end of a beginning, and gives the two parts. -/
theorem cut?_eq_some_iff {offset : Nat} {chars before after : List Char} :
    cut? offset chars = some (before, after) ↔
      chars = before ++ after ∧ byteLength before = offset := by
  fun_induction cut? offset chars generalizing before with
  | case1 chars =>
      rw [byteLength_eq_zero_iff]
      constructor
      · rintro ⟨⟩
        exact ⟨rfl, rfl⟩
      · rintro ⟨rfl, rfl⟩
        rfl
  | case2 offset =>
      simp only [reduceCtorEq, List.nil_eq_append_iff, false_iff, not_and]
      rintro ⟨rfl, -⟩
      simp
  | case3 offset char chars fits ih =>
      simp only [Option.map_eq_some_iff, Prod.exists, Prod.mk.injEq]
      constructor
      · rintro ⟨before', after', cutEq, rfl, rfl⟩
        rcases ih.mp cutEq with ⟨charsEq, lengthEq⟩
        refine ⟨by simp [charsEq], ?_⟩
        rw [byteLength_cons, lengthEq]
        omega
      · rintro ⟨charsEq, lengthEq⟩
        cases before with
        | nil => simp at lengthEq
        | cons first before =>
            rw [List.cons_append, List.cons.injEq] at charsEq
            rcases charsEq with ⟨rfl, charsEq⟩
            refine ⟨before, after, ih.mpr ⟨charsEq, ?_⟩, rfl, rfl⟩
            rw [byteLength_cons] at lengthEq
            omega
  | case4 offset char chars tooWide =>
      simp only [reduceCtorEq, false_iff, not_and]
      intro charsEq
      cases before with
      | nil => simp
      | cons first before =>
          rw [List.cons_append, List.cons.injEq] at charsEq
          rw [byteLength_cons, ← charsEq.1]
          omega

/-- A part lies between the end of a beginning and the end of a longer one. -/
theorem part?_eq_some_iff {chars part : List Char} {start stop : Nat} :
    part? chars start stop = some part ↔
      ∃ before after, chars = before ++ (part ++ after) ∧ byteLength before = start ∧
        byteLength (before ++ part) = stop := by
  simp only [part?, Option.bind_eq_bind, Option.pure_def]
  constructor
  · intro partEq
    split at partEq
    next inOrder =>
      simp only [Option.bind_eq_some_iff, Prod.exists, Option.some.injEq] at partEq
      rcases partEq with ⟨before, tail, cutStart, part', after, cutStop, rfl⟩
      rcases cut?_eq_some_iff.mp cutStart with ⟨rfl, startEq⟩
      rcases cut?_eq_some_iff.mp cutStop with ⟨rfl, stopEq⟩
      refine ⟨before, after, rfl, startEq, ?_⟩
      rw [byteLength_append]
      omega
    next => simp at partEq
  · rintro ⟨before, after, rfl, rfl, rfl⟩
    have inOrder : byteLength before ≤ byteLength (before ++ part) := by simp
    have cutStart : cut? (byteLength before) (before ++ (part ++ after)) =
        some (before, part ++ after) := cut?_eq_some_iff.mpr ⟨rfl, rfl⟩
    have cutStop : cut? (byteLength (before ++ part) - byteLength before) (part ++ after) =
        some (part, after) := cut?_eq_some_iff.mpr ⟨rfl, by simp⟩
    rw [if_pos inOrder, cutStart, Option.bind_some, cutStop, Option.bind_some]

end SourceLens.Text
