import SourceLens.Layout

/-!
# Scanning blanks

No step of a scan is about a blank: a blank keeps the state, and what a step does is the same
whether blanks or nothing follow the rest of the line.  So a line can be scanned without its
trailing blanks, and in code without its leading ones.
-/

namespace SourceLens

namespace Text

/-- The code points of the blank characters. -/
def blankCodes : List Nat :=
  [0x9, 0xA, 0xB, 0xC, 0xD, 0x20, 0x85, 0xA0, 0x1680, 0x2000, 0x2001, 0x2002, 0x2003, 0x2004,
    0x2005, 0x2006, 0x2007, 0x2008, 0x2009, 0x200A, 0x2028, 0x2029, 0x202F, 0x205F, 0x3000]

theorem toNat_mem_blankCodes {char : Char} (blank : isBlank char = true) :
    char.toNat ∈ blankCodes := by
  simp only [isBlank, Bool.or_eq_true, Bool.and_eq_true, beq_iff_eq, decide_eq_true_eq] at blank
  simp only [blankCodes, List.mem_cons, List.not_mem_nil, or_false]
  omega

/-- Blanks are not parts of words. -/
theorem isWordChar_of_isBlank {char : Char} (blank : isBlank char = true) :
    isWordChar char = false := by
  have noWordChar : ∀ code ∈ blankCodes, isWordChar (Char.ofNat code) = false := by
    -- An array of ranges is slow to go through in the kernel, a list is not.
    simp only [isWordChar, isAlphanumeric, inRanges, ← Array.any_toList]
    decide +kernel
  have notWordChar := noWordChar _ (toNat_mem_blankCodes blank)
  rwa [Char.ofNat_toNat] at notWordChar

theorem ne_of_isBlank {char other : Char} (blank : isBlank char = true)
    (notBlank : isBlank other = false) : char ≠ other := by
  rintro rfl
  rw [blank] at notBlank
  cases notBlank

end Text

namespace Layout

open Text

theorem scanFrom_nil (state : ScanState) (previous : Option Char) :
    scanFrom state previous [] = (state, 0) := by
  rw [scanFrom]

theorem scanFrom_cons_of_finish {state : ScanState} {previous : Option Char} {char : Char}
    {rest : List Char} (stepEq : scanStep state previous char rest = .finish) :
    scanFrom state previous (char :: rest) = (state, 0) := by
  rw [scanFrom, stepEq]

theorem scanFrom_cons_of_proceed {state next : ScanState} {previous : Option Char} {char : Char}
    {rest : List Char} {change : Int} {skipped : Nat}
    (stepEq : scanStep state previous char rest = .proceed next change skipped) :
    scanFrom state previous (char :: rest) =
      ((scanFrom next (char :: rest.take skipped).getLast? (rest.drop skipped)).1,
        change + (scanFrom next (char :: rest.take skipped).getLast? (rest.drop skipped)).2) := by
  rw [scanFrom, stepEq]

/-- A blank keeps the state. -/
theorem scanStep_of_isBlank {char : Char} (blank : isBlank char = true) (state : ScanState)
    (previous : Option Char) (rest : List Char) :
    scanStep state previous char rest = .proceed state 0 0 := by
  cases state with
  | code =>
      simp only [scanStep, codeStep]
      split
      case h_11 => rfl
      all_goals exact absurd blank (by decide)
  | string =>
      simp only [scanStep, stringStep]
      split
      case h_3 => rfl
      all_goals exact absurd blank (by decide)
  | rawString marks =>
      have noQuote : char ≠ '"' := ne_of_isBlank blank (by decide)
      simp [scanStep, rawStringStep, noQuote]
  | comment depth =>
      simp only [scanStep, commentStep]
      split
      case h_3 => rfl
      all_goals exact absurd blank (by decide)

/-- A character literal with an escape ends at the next quote, any other takes up three
characters. -/
theorem literalLength_eq (rest : List Char) :
    literalLength rest =
      if rest[0]? = some '\\' then (((rest.drop 2).findIdx? (· == '\'')).map (· + 3)).getD 0
      else if rest[1]? = some '\'' then 2 else 0 := by
  cases rest with
  | nil => rfl
  | cons first tail =>
      by_cases escape : first = '\\'
      · subst escape
        rw [literalLength]
        cases ((('\\' :: tail).drop 2).findIdx? (· == '\'')) <;> rfl
      · cases tail with
        | nil => simp [literalLength, escape]
        | cons second tail =>
            by_cases quote : second = '\'' <;> simp [literalLength, escape, quote]

section TrailingBlanks

variable {blanks : List Char} (blank : ∀ char ∈ blanks, isBlank char = true)
include blank

/-- Another character than a blank is not found among the blanks. -/
theorem getElem?_append_blanks {char : Char} (notBlank : isBlank char = false) (rest : List Char)
    (index : Nat) : (rest ++ blanks)[index]? = some char ↔ rest[index]? = some char := by
  rw [List.getElem?_append]
  split
  next => rfl
  next beyond =>
    constructor
    · intro found
      have isBlankChar := blank char (List.mem_of_getElem? found)
      rw [notBlank] at isBlankChar
      cases isBlankChar
    · intro found
      rw [List.getElem?_eq_none (by omega)] at found
      cases found

theorem leadingMarks_append_blanks (rest : List Char) :
    leadingMarks (rest ++ blanks) = leadingMarks rest := by
  induction rest with
  | nil =>
      cases blanks with
      | nil => rfl
      | cons first blanks =>
          have noMark : first ≠ '#' := ne_of_isBlank (blank first List.mem_cons_self) (by decide)
          simp [leadingMarks, noMark]
  | cons char rest ih =>
      rw [leadingMarks, leadingMarks] at ih
      by_cases mark : char = '#'
      · simp [leadingMarks, mark, ih]
      · simp [leadingMarks, mark]

theorem opensRawString_append_blanks (previous : Option Char) (rest : List Char) :
    opensRawString previous (rest ++ blanks) = opensRawString previous rest := by
  have quote := getElem?_append_blanks blank (show isBlank '"' = false by decide) rest
  rw [opensRawString, opensRawString, leadingMarks_append_blanks blank, Bool.eq_iff_iff]
  simp only [Bool.and_eq_true, beq_iff_eq, quote]

theorem literalLength_append_blanks (rest : List Char) :
    literalLength (rest ++ blanks) = literalLength rest := by
  have escape := getElem?_append_blanks blank (show isBlank '\\' = false by decide) rest 0
  have quote := getElem?_append_blanks blank (show isBlank '\'' = false by decide) rest 1
  have noQuote : ∀ count, (blanks.drop count).findIdx? (· == '\'') = none := by
    intro count
    rw [List.findIdx?_eq_none_iff]
    intro char member
    simpa using ne_of_isBlank (blank char (List.mem_of_mem_drop member)) (by decide)
  rw [literalLength_eq, literalLength_eq, List.drop_append, List.findIdx?_append, noQuote]
  simp only [escape, quote, Option.map_none, Option.or_none]

theorem codeStep_append_blanks (previous : Option Char) (char : Char) (rest : List Char) :
    codeStep previous char (rest ++ blanks) = codeStep previous char rest := by
  simp only [codeStep, opensRawString_append_blanks blank, leadingMarks_append_blanks blank,
    literalLength_append_blanks blank]
  cases rest with
  | cons next rest => rfl
  | nil =>
      cases blanks with
      | nil => rfl
      | cons first blanks =>
          have blankFirst := blank first List.mem_cons_self
          have noSlash : first ≠ '/' := ne_of_isBlank blankFirst (by decide)
          have noStar : first ≠ '*' := ne_of_isBlank blankFirst (by decide)
          simp [noSlash, noStar]

theorem rawStringStep_append_blanks (marks : Nat) (char : Char) (rest : List Char) :
    rawStringStep marks char (rest ++ blanks) = rawStringStep marks char rest := by
  have noMarks : ∀ count, (blanks.take count).filter (· == '#') = [] := by
    intro count
    rw [List.filter_eq_nil_iff]
    intro char member
    simpa using ne_of_isBlank (blank char (List.mem_of_mem_take member)) (by decide)
  rw [rawStringStep, rawStringStep, List.take_append, List.filter_append, noMarks, List.append_nil]

theorem commentStep_append_blanks (depth : Nat) (char : Char) (rest : List Char) :
    commentStep depth char (rest ++ blanks) = commentStep depth char rest := by
  cases rest with
  | cons next rest => rfl
  | nil =>
      cases blanks with
      | nil => rfl
      | cons first blanks =>
          have blankFirst := blank first List.mem_cons_self
          have noSlash : first ≠ '/' := ne_of_isBlank blankFirst (by decide)
          have noStar : first ≠ '*' := ne_of_isBlank blankFirst (by decide)
          simp [commentStep, noSlash, noStar]

/-- A step is the same whether blanks or nothing follow. -/
theorem scanStep_append_blanks (state : ScanState) (previous : Option Char) (char : Char)
    (rest : List Char) :
    scanStep state previous char (rest ++ blanks) = scanStep state previous char rest := by
  cases state with
  | code => exact codeStep_append_blanks blank previous char rest
  | string => rfl
  | rawString marks => exact rawStringStep_append_blanks blank marks char rest
  | comment depth => exact commentStep_append_blanks blank depth char rest

theorem scanFrom_blanks (state : ScanState) (previous : Option Char) :
    scanFrom state previous blanks = (state, 0) := by
  induction blanks generalizing previous with
  | nil => exact scanFrom_nil state previous
  | cons char blanks ih =>
      rw [List.forall_mem_cons] at blank
      rw [scanFrom_cons_of_proceed (scanStep_of_isBlank blank.1 state previous blanks)]
      simp [ih blank.2]

/-- Trailing blanks do not matter to a scan. -/
theorem scanFrom_append_blanks (state : ScanState) (previous : Option Char) (chars : List Char) :
    scanFrom state previous (chars ++ blanks) = scanFrom state previous chars := by
  fun_induction scanFrom state previous chars with
  | case1 state previous => exact scanFrom_blanks blank state previous
  | case2 state previous char rest stepEq =>
      rw [← scanStep_append_blanks blank] at stepEq
      exact scanFrom_cons_of_finish stepEq
  | case3 state previous char rest next change skipped stepEq last final further laterEq ih =>
      have sameLater : scanFrom next (char :: (rest ++ blanks).take skipped).getLast?
          ((rest ++ blanks).drop skipped) = (final, further) := by
        by_cases within : skipped ≤ rest.length
        · rw [List.take_append_of_le_length within, List.drop_append_of_le_length within]
          exact ih.trans laterEq
        · have nothingLeft : rest.drop skipped = [] := List.drop_eq_nil_of_le (by omega)
          rw [nothingLeft, scanFrom_nil] at laterEq
          rw [List.drop_append, nothingLeft, List.nil_append, ← laterEq]
          exact scanFrom_blanks (fun char member => blank char (List.mem_of_mem_drop member)) _ _
      rw [← scanStep_append_blanks blank] at stepEq
      rw [List.cons_append, scanFrom_cons_of_proceed stepEq, sameLater]

end TrailingBlanks

/-- Of the character before it, a step asks only whether it is part of a word. -/
theorem scanStep_congr_previous {previous previous' : Option Char}
    (sameKind : previous.any isWordChar = previous'.any isWordChar) (state : ScanState)
    (char : Char) (rest : List Char) :
    scanStep state previous char rest = scanStep state previous' char rest := by
  have sameOpening : opensRawString previous rest = opensRawString previous' rest := by
    rw [opensRawString, opensRawString, sameKind]
  cases state with
  | code =>
      unfold scanStep codeStep
      rw [sameOpening]
  | string => rfl
  | rawString marks => rfl
  | comment depth => rfl

theorem scanFrom_congr_previous {previous previous' : Option Char}
    (sameKind : previous.any isWordChar = previous'.any isWordChar) (state : ScanState)
    (chars : List Char) : scanFrom state previous chars = scanFrom state previous' chars := by
  cases chars with
  | nil => rw [scanFrom_nil, scanFrom_nil]
  | cons char rest => rw [scanFrom, scanFrom, scanStep_congr_previous sameKind]

/-- Leading blanks do not matter to a scan of code. -/
theorem scanFrom_blanks_append {blanks : List Char} (blank : ∀ char ∈ blanks, isBlank char = true)
    {previous : Option Char} (noWord : previous.any isWordChar = false) (chars : List Char) :
    scanFrom .code previous (blanks ++ chars) = scanFrom .code none chars := by
  induction blanks generalizing previous with
  | nil => exact scanFrom_congr_previous noWord .code chars
  | cons char blanks ih =>
      rw [List.forall_mem_cons] at blank
      rw [List.cons_append, scanFrom_cons_of_proceed (scanStep_of_isBlank blank.1 _ _ _)]
      simp [ih blank.2, isWordChar_of_isBlank blank.1]

end Layout

end SourceLens
