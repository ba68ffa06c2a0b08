import SourceLens.Proofs.Layout.Code
import SourceLens.Symbol.TypeText

/-!
# Types up to layout

Two texts denote one type exactly if they differ in layout only.  What the layout of a type may be is
said of the texts alone (`SameUpToLayout`): without blanks they are the same, and two neighbours that are
both word characters are separated in both of them or in none.

The normal layout is computed in one pass.  Here the pass is taken apart: a text is read as its characters,
each with a mark that says whether blanks stand before it (`marked`); the marks are replaced by those of
the normal layout (`spacing`); and the characters are written with a space for each mark (`render`).
Reading undoes writing, so that texts with one normal layout have the same marks in it.
-/

namespace SourceLens

namespace Text

/-- Whether a blank stands in a text after so many characters that are not blank. -/
def BlankAfter (chars : List Char) (count : Nat) : Prop :=
  ∃ before char after, chars = before ++ char :: after ∧ isBlank char = true ∧
    (code before).length = count

variable {char : Char} {chars : List Char} {count : Nat}

theorem code_cons_of_blank (blank : isBlank char = true) : code (char :: chars) = code chars := by
  simp [code, blank]

theorem code_cons_of_not_blank (solid : isBlank char = false) :
    code (char :: chars) = char :: code chars := by
  simp [code, solid]

theorem blankAfter_cons_of_blank (blank : isBlank char = true) :
    BlankAfter (char :: chars) count ↔ count = 0 ∨ BlankAfter chars count := by
  constructor
  · rintro ⟨_ | ⟨first, before⟩, found, after, textEq, isFound, rfl⟩
    · exact .inl rfl
    · rw [List.cons_append, List.cons.injEq] at textEq
      rcases textEq with ⟨rfl, rfl⟩
      rw [code_cons_of_blank blank]
      exact .inr ⟨before, found, after, rfl, isFound, rfl⟩
  · rintro (rfl | ⟨before, found, after, rfl, isFound, rfl⟩)
    · exact ⟨[], char, chars, rfl, blank, rfl⟩
    · exact ⟨char :: before, found, after, rfl, isFound, by rw [code_cons_of_blank blank]⟩

theorem blankAfter_cons_of_not_blank (solid : isBlank char = false) :
    BlankAfter (char :: chars) count ↔ ∃ earlier, count = earlier + 1 ∧ BlankAfter chars earlier := by
  constructor
  · rintro ⟨_ | ⟨first, before⟩, found, after, textEq, isFound, rfl⟩
    · rw [List.nil_append, List.cons.injEq] at textEq
      rw [← textEq.1, solid] at isFound
      cases isFound
    · rw [List.cons_append, List.cons.injEq] at textEq
      rcases textEq with ⟨rfl, rfl⟩
      exact ⟨(code before).length, by simp [code_cons_of_not_blank solid],
        before, found, after, rfl, isFound, rfl⟩
  · rintro ⟨_, rfl, before, found, after, rfl, isFound, rfl⟩
    exact ⟨char :: before, found, after, rfl, isFound, by simp [code_cons_of_not_blank solid]⟩

end Text

namespace TypeText

open Text (isBlank code BlankAfter)

/-- Whether two texts differ in layout only. -/
structure SameUpToLayout (first second : List Char) : Prop where
  /-- Without blanks they are the same. -/
  sameCode : code first = code second
  /-- Neighbours that are both word characters are separated in both or in none. -/
  sameGaps : ∀ index left right, (code first)[index]? = some left →
    (code first)[index + 1]? = some right → isWordChar left = true → isWordChar right = true →
      (BlankAfter first (index + 1) ↔ BlankAfter second (index + 1))

/-- The characters of a text that are not blank, each with whether blanks stand before it, given whether
blanks have been passed already. -/
def marked : Bool → List Char → List (Char × Bool)
  | _, [] => []
  | separated, char :: chars =>
      if isBlank char then marked true chars else (char, separated) :: marked false chars

/-- The marks of the normal layout of what follows a character, if there is one. -/
def spacing : Option Char → List (Char × Bool) → List (Char × Bool)
  | _, [] => []
  | previous, (char, separated) :: rest =>
      (char, previous.any fun previous => spaced previous char separated) :: spacing (some char) rest

/-- The text with a space before each character that is marked. -/
def render : List (Char × Bool) → List Char
  | [] => []
  | (char, false) :: rest => char :: render rest
  | (char, true) :: rest => ' ' :: char :: render rest

theorem layoutFrom_eq_render (previous : Option Char) (separated : Bool) (chars : List Char) :
    layoutFrom previous separated chars = render (spacing previous (marked separated chars)) := by
  fun_induction layoutFrom previous separated chars with
  | case1 => rfl
  | case2 previous separated char chars blank ih => simp [marked, blank, ih]
  | case3 separated char chars solid written previous space ih =>
      simp [marked, solid, spacing, space, render, written, ih]
  | case4 separated char chars solid written previous space ih =>
      simp [marked, solid, spacing, space, render, written, ih]
  | case5 separated char chars solid written ih =>
      simp [marked, solid, spacing, render, written, ih]

section Marks

variable {separated : Bool} {chars : List Char} {marks : List (Char × Bool)}

theorem map_fst_marked (separated : Bool) (chars : List Char) :
    (marked separated chars).map Prod.fst = code chars := by
  fun_induction marked separated chars with
  | case1 => rfl
  | case2 separated char chars blank ih => rw [ih, Text.code_cons_of_blank blank]
  | case3 separated char chars solid ih =>
      rw [List.map_cons, ih, Text.code_cons_of_not_blank (by simpa using solid)]

/-- A mark says whether blanks stand before its character. -/
theorem mark_iff_blankAfter {index : Nat} {char : Char} {mark : Bool}
    (found : (marked separated chars)[index]? = some (char, mark)) :
    mark = true ↔ index = 0 ∧ separated = true ∨ BlankAfter chars index := by
  fun_induction marked separated chars generalizing index with
  | case1 => simp at found
  | case2 separated first chars blank ih =>
      rw [ih found, Text.blankAfter_cons_of_blank blank]
      grind
  | case3 separated first chars solid ih =>
      rw [Text.blankAfter_cons_of_not_blank (by simpa using solid)]
      cases index with
      | zero =>
          simp only [List.getElem?_cons_zero, Option.some.injEq, Prod.mk.injEq] at found
          simp [found.2]
      | succ index =>
          rw [List.getElem?_cons_succ] at found
          simp [ih found]

theorem map_fst_spacing (previous : Option Char) (marks : List (Char × Bool)) :
    (spacing previous marks).map Prod.fst = marks.map Prod.fst := by
  fun_induction spacing previous marks with
  | case1 => rfl
  | case2 previous char separated rest ih => simp [ih]

theorem getElem?_spacing_zero :
    (spacing none marks)[0]? = (marks.map Prod.fst)[0]?.map fun char => (char, false) := by
  cases marks <;> rfl

/-- Whether a character is marked in the normal layout depends on its neighbour and on its mark. -/
theorem getElem?_spacing_succ (previous : Option Char) (index : Nat) :
    (spacing previous marks)[index + 1]? =
      marks[index]?.bind fun left => marks[index + 1]?.map fun right =>
        (right.1, spaced left.1 right.1 right.2) := by
  induction marks generalizing previous index with
  | nil => rfl
  | cons first rest ih =>
      cases index with
      | zero => cases rest <;> simp [spacing]
      | succ index => simpa [spacing] using ih (some first.1) index

/-- Reading undoes writing. -/
theorem marked_render (solid : ∀ entry ∈ marks, isBlank entry.1 = false) :
    marked false (render marks) = marks := by
  have space : isBlank ' ' = true := by decide
  fun_induction render marks with
  | case1 => rfl
  | case2 char rest ih =>
      rw [List.forall_mem_cons] at solid
      simp [marked, solid.1, ih solid.2]
  | case3 char rest ih =>
      rw [List.forall_mem_cons] at solid
      simp [marked, space, solid.1, ih solid.2]

/-- The characters of a text in its normal layout, with the marks of that layout. -/
def normalMarks (chars : List Char) : List (Char × Bool) :=
  spacing none (marked false chars)

theorem map_fst_normalMarks (chars : List Char) : (normalMarks chars).map Prod.fst = code chars := by
  rw [normalMarks, map_fst_spacing, map_fst_marked]

theorem layout_eq_render (chars : List Char) : layout chars = render (normalMarks chars) :=
  layoutFrom_eq_render none false chars

theorem marked_layout (chars : List Char) : marked false (layout chars) = normalMarks chars := by
  rw [layout_eq_render]
  apply marked_render
  intro entry member
  have inCode : entry.1 ∈ code chars := by
    rw [← map_fst_normalMarks]
    exact List.mem_map_of_mem member
  simpa [code] using (List.mem_filter.mp inCode).2

theorem layout_eq_layout_iff {first second : List Char} :
    layout first = layout second ↔ normalMarks first = normalMarks second := by
  constructor
  · intro same
    rw [← marked_layout, ← marked_layout, same]
  · intro same
    rw [layout_eq_render, layout_eq_render, same]

end Marks

section Spaced

variable {left right : Char} {mark other : Bool}

/-- Only between two word characters does it matter whether they are separated. -/
theorem spaced_eq_spaced_iff :
    spaced left right mark = spaced left right other ↔
      (isWordChar left = true → isWordChar right = true → mark = other) := by
  have comma : isWordChar ',' = false := by decide
  by_cases afterComma : left = ','
  · simp [spaced, afterComma, comma]
  · simp only [spaced, if_neg afterComma]
    cases isWordChar left <;> cases isWordChar right <;> simp

theorem spaced_spaced : spaced left right (spaced left right mark) = spaced left right mark := by
  rw [spaced_eq_spaced_iff]
  intro leftWord rightWord
  have noComma : left ≠ ',' := by
    rintro rfl
    exact absurd leftWord (by decide)
  simp [spaced, noComma, leftWord, rightWord]

theorem spacing_spacing (previous : Option Char) (marks : List (Char × Bool)) :
    spacing previous (spacing previous marks) = spacing previous marks := by
  fun_induction spacing previous marks with
  | case1 => rfl
  | case2 previous char separated rest ih =>
      cases previous <;> simp [spacing, ih, spaced_spaced]

theorem layout_layout (chars : List Char) : layout (layout chars) = layout chars := by
  rw [layout_eq_render, normalMarks, marked_layout, normalMarks, spacing_spacing, ← normalMarks,
    ← layout_eq_render]

end Spaced

section SameLayout

variable {chars first second : List Char}

theorem length_normalMarks (chars : List Char) : (normalMarks chars).length = (code chars).length := by
  rw [← map_fst_normalMarks, List.length_map]

/-- A mark of the normal layout comes from the two neighbours and the blanks between them. -/
theorem exists_normalMark {index : Nat} {left right : Char}
    (leftAt : (code chars)[index]? = some left) (rightAt : (code chars)[index + 1]? = some right) :
    ∃ separated : Bool, (normalMarks chars)[index + 1]? = some (right, spaced left right separated) ∧
      (separated = true ↔ BlankAfter chars (index + 1)) := by
  rw [← map_fst_marked false, List.getElem?_map, Option.map_eq_some_iff] at leftAt rightAt
  rcases leftAt with ⟨⟨_, _⟩, leftFound, rfl⟩
  rcases rightAt with ⟨⟨_, separated⟩, rightFound, rfl⟩
  refine ⟨separated, ?_, by simpa using mark_iff_blankAfter rightFound⟩
  rw [normalMarks, getElem?_spacing_succ, leftFound, rightFound]
  rfl

/-- Texts differ in layout only exactly if they have the same marks in the normal layout. -/
theorem sameUpToLayout_iff :
    SameUpToLayout first second ↔ normalMarks first = normalMarks second := by
  constructor
  · rintro ⟨sameCode, sameGaps⟩
    apply List.ext_getElem?
    rintro (_ | index)
    · rw [normalMarks, normalMarks, getElem?_spacing_zero, getElem?_spacing_zero, map_fst_marked,
        map_fst_marked, sameCode]
    · by_cases inside : index + 1 < (code first).length
      · obtain ⟨left, leftAt⟩ : ∃ left, (code first)[index]? = some left :=
          ⟨_, List.getElem?_eq_getElem (Nat.lt_of_succ_lt inside)⟩
        obtain ⟨right, rightAt⟩ : ∃ right, (code first)[index + 1]? = some right :=
          ⟨_, List.getElem?_eq_getElem inside⟩
        have sameGap := sameGaps index left right leftAt rightAt
        rcases exists_normalMark leftAt rightAt with ⟨separated, markFirst, separatedFirst⟩
        rw [sameCode] at leftAt rightAt
        rcases exists_normalMark leftAt rightAt with ⟨separated', markSecond, separatedSecond⟩
        rw [← separatedFirst, ← separatedSecond, ← Bool.eq_iff_iff] at sameGap
        rw [markFirst, markSecond, spaced_eq_spaced_iff.mpr sameGap]
      · rw [List.getElem?_eq_none (by simpa [length_normalMarks] using inside),
          List.getElem?_eq_none (by simpa [length_normalMarks, ← sameCode] using inside)]
  · intro same
    have sameCode : code first = code second := by
      rw [← map_fst_normalMarks, same, map_fst_normalMarks]
    refine ⟨sameCode, ?_⟩
    intro index left right leftAt rightAt leftWord rightWord
    rcases exists_normalMark leftAt rightAt with ⟨separated, markFirst, separatedFirst⟩
    rw [sameCode] at leftAt rightAt
    rcases exists_normalMark leftAt rightAt with ⟨separated', markSecond, separatedSecond⟩
    rw [same, markSecond, Option.some.injEq, Prod.mk.injEq] at markFirst
    have sameGap := spaced_eq_spaced_iff.mp markFirst.2 leftWord rightWord
    rw [← separatedFirst, ← separatedSecond, sameGap]

end SameLayout

/-- Two texts denote one type exactly if they differ in layout only.  In particular, the text of a type
denotes the type. -/
theorem ofText_eq_iff_sameUpToLayout :
    (∀ first second : String,
      ofText first = ofText second ↔ SameUpToLayout first.toList second.toList) ∧
    ∀ text : String, ofText (ofText text).text = ofText text := by
  constructor
  · intro first second
    rw [sameUpToLayout_iff, ← layout_eq_layout_iff]
    simp [ofText, Text.mapChars, String.ofList_inj]
  · intro text
    simp [ofText, Text.mapChars, layout_layout]

end TypeText

end SourceLens
