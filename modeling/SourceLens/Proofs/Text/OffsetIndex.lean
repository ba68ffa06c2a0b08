import Mathlib.Order.Monotone.Basic
import SourceLens.Proofs.Bisection
import SourceLens.Proofs.Text.Boundary
import SourceLens.Text.OffsetIndex

/-!
# What the offset index computes

The index of a text converts an offset by its distance from the last wide character at or before it,
which is found by bisection.  A scan of the whole text would come to the same: it would take the longest
beginning that fits into the offset by one count, and measure it by the other.

The two conversions are one with the counts swapped.  So all but the last statement is about any two
counts that advance together over ASCII characters, with an index in which bytes and code units stand
for the first and the second of them (`indexBy`).
-/

namespace SourceLens

/-- Whether a beginning of a text is the longest one whose length is within a limit. -/
structure Text.IsLongestWithin (length : List Char → Nat) (chars : List Char) (limit : Nat)
    (longest : List Char) : Prop where
  isPrefix : longest <+: chars
  fits : length longest ≤ limit
  covers : ∀ other, other <+: chars → length other ≤ limit → other <+: longest

namespace OffsetIndex

open Text

/-- Two counts of characters that advance together over ASCII and stand still at no character. -/
structure Counts (width other : Char → Nat) : Prop where
  ascii : ∀ char : Char, char.toNat < 128 → width char = 1 ∧ other char = 1
  positive : ∀ char, 0 < width char ∧ 0 < other char

theorem Counts.symm {width other : Char → Nat} (counts : Counts width other) :
    Counts other width :=
  ⟨fun char isAscii => (counts.ascii char isAscii).symm, fun char => (counts.positive char).symm⟩

theorem counts_bytes_units : Counts Char.utf8Size unitWidth := by
  refine ⟨?_, ?_⟩
  · intro char isAscii
    have small : char.val ≤ 0x7f := by
      rw [UInt32.le_iff_toNat_le]
      exact Nat.le_of_lt_succ isAscii
    refine ⟨by simp [Char.utf8Size, small], ?_⟩
    rw [unitWidth, if_pos (by omega)]
  · intro char
    refine ⟨char.utf8Size_pos, ?_⟩
    unfold unitWidth
    split <;> omega

/-- The wide characters of a text that starts at the given offsets, by any two counts. -/
def wideBy (width other : Char → Nat) : Nat → Nat → List Char → List WideChar
  | _, _, [] => []
  | here, there, char :: chars =>
      let rest := wideBy width other (here + width char) (there + other char) chars
      if char.toNat < 128 then rest else ⟨here, there, width char, other char⟩ :: rest

/-- The index of a text by any two counts. -/
def indexBy (width other : Char → Nat) (chars : List Char) : OffsetIndex where
  wide := (wideBy width other 0 0 chars).toArray
  byteLength := lengthBy width chars
  unitLength := lengthBy other chars

/-- A wide character with its counts swapped. -/
def swapWide (wide : WideChar) : WideChar :=
  ⟨wide.unit, wide.byte, wide.units, wide.bytes⟩

/-- The index with its counts swapped. -/
def swap (index : OffsetIndex) : OffsetIndex :=
  ⟨index.wide.map swapWide, index.unitLength, index.byteLength⟩

theorem wideChars_eq_wideBy (byte unit : Nat) (chars : List Char) :
    wideChars byte unit chars = wideBy Char.utf8Size unitWidth byte unit chars := by
  induction chars generalizing byte unit with
  | nil => rfl
  | cons char chars ih => simp only [wideChars, wideBy, ih]

theorem map_swapWide_wideBy (width other : Char → Nat) (here there : Nat) (chars : List Char) :
    (wideBy width other here there chars).map swapWide = wideBy other width there here chars := by
  induction chars generalizing here there with
  | nil => rfl
  | cons char chars ih =>
      simp only [wideBy]
      split
      · exact ih _ _
      · simp [ih, swapWide]

theorem ofChars_eq_indexBy (chars : List Char) :
    ofChars chars = indexBy Char.utf8Size unitWidth chars := by
  rw [ofChars, wideChars_eq_wideBy]
  rfl

theorem swap_indexBy (width other : Char → Nat) (chars : List Char) :
    (indexBy width other chars).swap = indexBy other width chars := by
  simp only [swap, indexBy, List.map_toArray, map_swapWide_wideBy]

theorem toByte_eq_toUnit_swap (index : OffsetIndex) (unit : Nat) :
    index.toByte unit = index.swap.toUnit unit := by
  have found : lastPassing? (fun wide => wide.byte ≤ unit) index.swap.wide =
      (lastPassing? (fun wide => wide.unit ≤ unit) index.wide).map swapWide :=
    lastPassing?_map swapWide index.wide
  unfold toByte toUnit
  rw [found]
  cases lastPassing? (fun wide => wide.unit ≤ unit) index.wide <;> rfl

theorem toByte_ofChars (chars : List Char) (unit : Nat) :
    (ofChars chars).toByte unit = (indexBy unitWidth Char.utf8Size chars).toUnit unit := by
  rw [toByte_eq_toUnit_swap, ofChars_eq_indexBy, swap_indexBy]

section Conversion

/-- The conversion of an offset by the wide characters of a text that starts at the given offsets. -/
def unitFrom (byte unit : Nat) (wide : List WideChar) (offset : Nat) : Nat :=
  match (wide.takeWhile fun wide => wide.byte ≤ offset).getLast? with
  | none => unit + (offset - byte)
  | some last =>
      if offset < last.byte + last.bytes then last.unit
      else last.unit + last.units + (offset - last.byte - last.bytes)

/-- Before a text starts, none of its wide characters counts. -/
theorem takeWhile_eq_nil_of_forall_lt {offset : Nat} {wide : List WideChar}
    (later : ∀ char ∈ wide, offset < char.byte) :
    (wide.takeWhile fun char => char.byte ≤ offset) = [] := by
  cases wide with
  | nil => rfl
  | cons first rest =>
      have notYet := later first List.mem_cons_self
      rw [List.takeWhile_cons, if_neg (by simpa using notYet)]

/-- After a wide character, an offset is converted as if the text started behind it. -/
theorem unitFrom_cons {byte unit offset : Nat} {first : WideChar} {rest : List WideChar}
    (passed : first.byte + first.bytes ≤ offset) :
    unitFrom byte unit (first :: rest) offset =
      unitFrom (first.byte + first.bytes) (first.unit + first.units) rest offset := by
  have reached : first.byte ≤ offset := by omega
  unfold unitFrom
  rw [List.takeWhile_cons, if_pos (by simpa using reached), List.getLast?_cons]
  cases (rest.takeWhile fun wide => wide.byte ≤ offset).getLast? with
  | none =>
      have behind : ¬offset < first.byte + first.bytes := by omega
      simp only [Option.getD_none, if_neg behind]
      omega
  | some last => rfl

variable {width other : Char → Nat}

/-- The wide characters of a text start at or after the text. -/
theorem le_byte_of_mem_wideBy {here there : Nat} {chars : List Char} {wide : WideChar}
    (member : wide ∈ wideBy width other here there chars) : here ≤ wide.byte := by
  induction chars generalizing here there with
  | nil => simp [wideBy] at member
  | cons char chars ih =>
      simp only [wideBy] at member
      split at member
      next =>
        have later := ih member
        omega
      next =>
        rcases List.mem_cons.mp member with rfl | member
        · exact Nat.le_refl _
        · have later := ih member
          omega

theorem pairwise_wideBy (here there : Nat) (chars : List Char) :
    (wideBy width other here there chars).Pairwise fun first second => first.byte ≤ second.byte := by
  induction chars generalizing here there with
  | nil => exact List.Pairwise.nil
  | cons char chars ih =>
      simp only [wideBy]
      split
      · exact ih _ _
      · refine List.pairwise_cons.mpr ⟨?_, ih _ _⟩
        intro wide member
        exact Nat.le_trans (Nat.le_add_right here _) (le_byte_of_mem_wideBy member)

/-- Inside the text, an offset is converted by a scan of the wide characters. -/
theorem toUnit_indexBy_of_lt {chars : List Char} {offset : Nat}
    (inside : offset < lengthBy width chars) :
    (indexBy width other chars).toUnit offset =
      unitFrom 0 0 (wideBy width other 0 0 chars) offset := by
  have front : (wideBy width other 0 0 chars).Pairwise fun first second =>
      decide (second.byte ≤ offset) = true → decide (first.byte ≤ offset) = true := by
    refine (pairwise_wideBy 0 0 chars).imp ?_
    intro first second inOrder
    simp only [decide_eq_true_eq]
    exact Nat.le_trans inOrder
  rw [toUnit, indexBy, if_neg (Nat.not_le.mpr inside), lastPassing?_eq_getLast? front, unitFrom]
  cases ((wideBy width other 0 0 chars).takeWhile fun wide => wide.byte ≤ offset).getLast? with
  | none => simp
  | some last => rfl

variable (counts : Counts width other)
include counts

/-- An offset within a character, its start included, is converted to the other length of what stands
before the character. -/
theorem unitFrom_wideBy {here there offset : Nat} {before after : List Char} {char : Char}
    (reached : here + lengthBy width before ≤ offset)
    (within : offset < here + lengthBy width before + width char) :
    unitFrom here there (wideBy width other here there (before ++ char :: after)) offset =
      there + lengthBy other before := by
  induction before generalizing here there with
  | nil =>
      simp only [lengthBy_nil, Nat.add_zero] at reached within
      have later : ∀ wide ∈ wideBy width other (here + width char) (there + other char) after,
          offset < wide.byte := by
        intro wide member
        have start := le_byte_of_mem_wideBy member
        omega
      simp only [List.nil_append, wideBy, lengthBy_nil, Nat.add_zero]
      split
      next isAscii =>
        have one := (counts.ascii char isAscii).1
        simp only [unitFrom, takeWhile_eq_nil_of_forall_lt later, List.getLast?_nil]
        omega
      next =>
        simp [unitFrom, reached, takeWhile_eq_nil_of_forall_lt later, within]
  | cons first before ih =>
      rw [lengthBy_cons] at reached within
      have step := @ih (here + width first) (there + other first) (by omega) (by omega)
      simp only [List.cons_append, wideBy, lengthBy_cons]
      split
      next isAscii =>
        have one := counts.ascii first isAscii
        rw [← Nat.add_assoc, ← step]
        unfold unitFrom
        split
        · omega
        · rfl
      next =>
        rw [unitFrom_cons (by simp only; omega), step]
        omega

theorem toUnit_indexBy_of_within {before after : List Char} {char : Char} {offset : Nat}
    (reached : lengthBy width before ≤ offset)
    (within : offset < lengthBy width before + width char) :
    (indexBy width other (before ++ char :: after)).toUnit offset = lengthBy other before := by
  have inside : offset < lengthBy width (before ++ char :: after) := by
    simp only [lengthBy_append, lengthBy_cons]
    omega
  have converted := @unitFrom_wideBy _ _ counts 0 0 offset before after char
    (by omega) (by omega)
  rw [toUnit_indexBy_of_lt inside]
  simpa using converted

omit counts in
/-- An offset inside of a text is within one of its characters. -/
theorem exists_within {chars : List Char} {offset : Nat} (inside : offset < lengthBy width chars) :
    ∃ before char after, chars = before ++ char :: after ∧ lengthBy width before ≤ offset ∧
      offset < lengthBy width before + width char := by
  induction chars generalizing offset with
  | nil => simp at inside
  | cons first chars ih =>
      rw [lengthBy_cons] at inside
      by_cases here : offset < width first
      · exact ⟨[], first, chars, rfl, by simp, by simpa using here⟩
      · rcases @ih (offset - width first) (by omega) with
          ⟨before, char, after, rfl, reached, within⟩
        refine ⟨first :: before, char, after, rfl, ?_, ?_⟩
        · rw [lengthBy_cons]
          omega
        · rw [lengthBy_cons]
          omega

omit counts in
/-- What stands before a character is the longest beginning for all offsets within the character. -/
theorem isLongestWithin_of_within {before after : List Char} {char : Char} {offset : Nat}
    (reached : lengthBy width before ≤ offset)
    (within : offset < lengthBy width before + width char) :
    IsLongestWithin (lengthBy width) (before ++ char :: after) offset before := by
  refine ⟨List.prefix_append _ _, reached, ?_⟩
  intro other isPrefix fits
  by_cases short : other.length ≤ before.length
  · exact List.prefix_of_prefix_length_le isPrefix (List.prefix_append _ _) short
  · have next : before ++ [char] <+: before ++ char :: after := ⟨after, by simp⟩
    have beyond : before ++ [char] <+: other :=
      List.prefix_of_prefix_length_le next isPrefix (by simp; omega)
    have tooLong := @lengthBy_le_of_isPrefix width _ _ beyond
    simp only [lengthBy_append, lengthBy_cons, lengthBy_nil] at tooLong
    omega

/-- An offset is converted to the other length of the longest beginning within it. -/
theorem exists_isLongestWithin (chars : List Char) (offset : Nat) :
    ∃ longest, IsLongestWithin (lengthBy width) chars offset longest ∧
      (indexBy width other chars).toUnit offset = lengthBy other longest := by
  by_cases inside : offset < lengthBy width chars
  · rcases exists_within inside with ⟨before, char, after, rfl, reached, within⟩
    exact ⟨before, isLongestWithin_of_within reached within,
      toUnit_indexBy_of_within counts reached within⟩
  · have past : lengthBy width chars ≤ offset := Nat.le_of_not_lt inside
    exact ⟨chars, ⟨List.prefix_refl chars, past, fun _ isPrefix _ => isPrefix⟩,
      by simp [toUnit, indexBy, past]⟩

theorem monotone_toUnit_indexBy (chars : List Char) :
    Monotone (indexBy width other chars).toUnit := by
  intro first second inOrder
  rcases exists_isLongestWithin counts chars first with ⟨short, isShort, firstEq⟩
  rcases exists_isLongestWithin counts chars second with ⟨long, isLong, secondEq⟩
  rw [firstEq, secondEq]
  apply lengthBy_le_of_isPrefix
  exact isLong.covers short isShort.isPrefix (Nat.le_trans isShort.fits inOrder)

theorem toUnit_indexBy_lengthBy {before chars : List Char} (isPrefix : before <+: chars) :
    (indexBy width other chars).toUnit (lengthBy width before) = lengthBy other before := by
  rcases exists_isLongestWithin counts chars (lengthBy width before) with ⟨longest, isLongest, same⟩
  rcases isLongest.covers before isPrefix (Nat.le_refl _) with ⟨rest, rfl⟩
  have fits := isLongest.fits
  rw [same]
  cases rest with
  | nil => simp
  | cons char rest =>
      have positive := (counts.positive char).1
      simp only [lengthBy_append, lengthBy_cons] at fits
      omega

/-- Converting an offset there and back gives it again exactly if it is the end of a beginning. -/
theorem toUnit_toUnit_indexBy_eq_iff (chars : List Char) (offset : Nat) :
    (indexBy other width chars).toUnit ((indexBy width other chars).toUnit offset) = offset ↔
      ∃ before, before <+: chars ∧ lengthBy width before = offset := by
  rcases exists_isLongestWithin counts chars offset with ⟨longest, isLongest, there⟩
  rw [there, toUnit_indexBy_lengthBy counts.symm isLongest.isPrefix]
  constructor
  · intro same
    exact ⟨longest, isLongest.isPrefix, same⟩
  · rintro ⟨before, isPrefix, rfl⟩
    apply Nat.le_antisymm isLongest.fits
    exact lengthBy_le_of_isPrefix (isLongest.covers before isPrefix (Nat.le_refl _))

end Conversion

/-- The end of a beginning is converted to the length of the beginning in code units. -/
theorem toUnit_byteLength (before after : List Char) :
    (ofChars (before ++ after)).toUnit (Text.byteLength before) = Text.unitLength before := by
  rw [ofChars_eq_indexBy]
  exact toUnit_indexBy_lengthBy counts_bytes_units (List.prefix_append before after)

theorem isBoundary_iff_exists_isPrefix {text : String} {offset : Nat} :
    isBoundary text offset = true ↔
      ∃ before, before <+: text.toList ∧ Text.byteLength before = offset := by
  rw [isBoundary_iff]
  constructor
  · rintro ⟨before, after, textEq, lengthEq⟩
    exact ⟨before, ⟨after, textEq.symm⟩, lengthEq⟩
  · rintro ⟨before, ⟨after, textEq⟩, lengthEq⟩
    exact ⟨before, after, textEq.symm, lengthEq⟩

theorem exists_isLongestWithin_toByte (text : String) (unit : Nat) :
    ∃ longest, IsLongestWithin Text.unitLength text.toList unit longest ∧
      (ofText text).toByte unit = Text.byteLength longest := by
  rw [ofText, toByte_ofChars]
  exact exists_isLongestWithin counts_bytes_units.symm text.toList unit

theorem isBoundary_toByte (text : String) (unit : Nat) :
    isBoundary text ((ofText text).toByte unit) = true := by
  rcases exists_isLongestWithin_toByte text unit with ⟨longest, isLongest, offsetEq⟩
  exact isBoundary_iff_exists_isPrefix.mpr ⟨longest, isLongest.isPrefix, offsetEq.symm⟩

/-- The index converts offsets as a scan of the text does.  A code-unit offset goes to the byte length of
the longest beginning of whole characters within it, a byte offset to the code-unit length of the longest
beginning within it.  So both conversions are monotone, byte offsets are always boundaries, and the
conversions undo each other at boundaries and nowhere else. -/
theorem toByte_toUnit_eq_scan (text : String) :
    (∀ unit, ∃ longest, IsLongestWithin Text.unitLength text.toList unit longest ∧
      (ofText text).toByte unit = Text.byteLength longest) ∧
    (∀ byte, ∃ longest, IsLongestWithin Text.byteLength text.toList byte longest ∧
      (ofText text).toUnit byte = Text.unitLength longest) ∧
    Monotone (ofText text).toByte ∧ Monotone (ofText text).toUnit ∧
    (∀ unit, isBoundary text ((ofText text).toByte unit) = true) ∧
    (∀ byte, (ofText text).toByte ((ofText text).toUnit byte) = byte ↔
      isBoundary text byte = true) ∧
    (∀ unit, (ofText text).toUnit ((ofText text).toByte unit) = unit ↔
      ∃ before, before <+: text.toList ∧ Text.unitLength before = unit) := by
  have toByteEq : (ofText text).toByte = (indexBy unitWidth Char.utf8Size text.toList).toUnit :=
    funext (toByte_ofChars text.toList)
  have toUnitEq : (ofText text).toUnit = (indexBy Char.utf8Size unitWidth text.toList).toUnit := by
    rw [ofText, ofChars_eq_indexBy]
  refine ⟨exists_isLongestWithin_toByte text, ?_, ?_, ?_, isBoundary_toByte text, ?_, ?_⟩
  · rw [toUnitEq]
    exact exists_isLongestWithin counts_bytes_units text.toList
  · rw [toByteEq]
    exact monotone_toUnit_indexBy counts_bytes_units.symm text.toList
  · rw [toUnitEq]
    exact monotone_toUnit_indexBy counts_bytes_units text.toList
  · intro byte
    rw [isBoundary_iff_exists_isPrefix, toByteEq, toUnitEq]
    exact toUnit_toUnit_indexBy_eq_iff counts_bytes_units text.toList byte
  · intro unit
    rw [toByteEq, toUnitEq]
    exact toUnit_toUnit_indexBy_eq_iff counts_bytes_units.symm text.toList unit

example : (ofText "x😀y").toByte 2 = 1 ∧ (ofText "x😀y").toUnit 4 = 1 := by decide

end OffsetIndex

end SourceLens
