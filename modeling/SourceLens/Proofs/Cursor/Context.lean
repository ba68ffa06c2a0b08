import SourceLens.Cursor
import SourceLens.Proofs.Text.Boundary

/-!
# The context of a cursor can always be read

What stands before a cursor is read byte by byte, while texts may only be cut at the boundaries of
characters.  Every place where the reading stops is next to an ASCII byte or is where the reading
began, and an ASCII byte is a character of its own.  So a reading that begins at a boundary looks at
no byte outside of the source, makes no cut inside of a character and takes no step below zero.
-/

namespace SourceLens

namespace Text

theorem toList_bytes (text : String) :
    (bytes text).toList = text.toList.flatMap String.utf8EncodeChar := by
  have encoded : text.toUTF8 = text.toList.utf8Encode := String.utf8Encode_toList.symm
  rw [bytes, encoded, List.utf8Encode, List.data_toByteArray]

theorem not_ascii_of_marked {low mark : UInt8} (marked : 128 ≤ mark.toNat) :
    ¬(low ||| mark).toNat < 128 := by
  rw [UInt8.toNat_or, Nat.not_lt]
  exact Nat.le_trans marked Nat.right_le_or

/-- Only characters of one byte are written with an ASCII byte. -/
theorem utf8Size_eq_one_of_mem_encode {char : Char} {byte : UInt8}
    (member : byte ∈ String.utf8EncodeChar char) (ascii : byte.toNat < 128) :
    char.utf8Size = 1 := by
  -- All bytes of longer characters have their highest bit set.
  rcases char.utf8Size_eq with one | two | three | four
  · exact one
  · rw [String.utf8EncodeChar_eq_cons_cons two] at member
    simp only [List.mem_cons, List.not_mem_nil, or_false] at member
    rcases member with rfl | rfl <;> exact absurd ascii (not_ascii_of_marked (by decide))
  · rw [String.utf8EncodeChar_eq_cons_cons_cons three] at member
    simp only [List.mem_cons, List.not_mem_nil, or_false] at member
    rcases member with rfl | rfl | rfl <;> exact absurd ascii (not_ascii_of_marked (by decide))
  · rw [String.utf8EncodeChar_eq_cons_cons_cons_cons four] at member
    simp only [List.mem_cons, List.not_mem_nil, or_false] at member
    rcases member with rfl | rfl | rfl | rfl <;>
      exact absurd ascii (not_ascii_of_marked (by decide))

/-- A byte belongs to the character around its offset. -/
theorem exists_char_of_byte {chars : List Char} {offset : Nat} {byte : UInt8}
    (found : (chars.flatMap String.utf8EncodeChar)[offset]? = some byte) :
    ∃ before char after, chars = before ++ char :: after ∧ byteLength before ≤ offset ∧
      offset < byteLength before + char.utf8Size ∧ byte ∈ String.utf8EncodeChar char := by
  induction chars generalizing offset with
  | nil => simp at found
  | cons first rest ih =>
    rw [List.flatMap_cons] at found
    by_cases within : offset < first.utf8Size
    · rw [List.getElem?_append_left (by rwa [String.length_utf8EncodeChar])] at found
      exact ⟨[], first, rest, rfl, by simp, by simpa using within, List.mem_of_getElem? found⟩
    · rw [List.getElem?_append_right (by rw [String.length_utf8EncodeChar]; omega),
        String.length_utf8EncodeChar] at found
      rcases ih found with ⟨before, char, after, rfl, reached, notPassed, member⟩
      refine ⟨first :: before, char, after, rfl, ?_, ?_, member⟩
      · rw [byteLength_cons]
        omega
      · rw [byteLength_cons]
        omega

/-- Before and after an ASCII byte there are boundaries. -/
theorem isBoundary_of_ascii {text : String} {offset : Nat} {byte : UInt8}
    (found : (bytes text)[offset]? = some byte) (ascii : byte.toNat < 128) :
    isBoundary text offset = true ∧ isBoundary text (offset + 1) = true := by
  rw [← Array.getElem?_toList, toList_bytes] at found
  rcases exists_char_of_byte found with ⟨before, char, after, textEq, reached, notPassed, member⟩
  have single := utf8Size_eq_one_of_mem_encode member ascii
  have here : byteLength before = offset := by omega
  constructor
  · exact isBoundary_iff.mpr ⟨before, char :: after, textEq, here⟩
  · refine isBoundary_iff.mpr ⟨before ++ [char], after, by simp [textEq], ?_⟩
    simp [here, single]

theorem isBoundary_zero (text : String) : isBoundary text 0 = true :=
  isBoundary_iff.mpr ⟨[], text.toList, rfl, rfl⟩

theorem le_utf8ByteSize_of_isBoundary {text : String} {offset : Nat}
    (boundary : isBoundary text offset = true) : offset ≤ text.utf8ByteSize :=
  (String.Pos.Raw.isValid_eq_true_iff.mp boundary).le_utf8ByteSize

theorem exists_byte_of_lt {text : String} {offset : Nat} (inside : offset < text.utf8ByteSize) :
    ∃ byte, (bytes text)[offset]? = some byte :=
  ⟨_, Array.getElem?_eq_getElem inside⟩

theorem exists_slice? {text : String} {start stop : Nat} (inOrder : start ≤ stop)
    (startBoundary : isBoundary text start = true) (stopBoundary : isBoundary text stop = true) :
    ∃ part, slice? text start stop = some part := by
  simp [slice?, inOrder, startBoundary, stopBoundary]

end Text

namespace Cursor

open Text

variable {source : String} {offset : Nat}

theorem stepBack?_of_le {distance : Nat} (enough : distance ≤ offset) :
    stepBack? offset distance = some (offset - distance) :=
  if_pos enough

/-- An offset moved back as little as possible to be a boundary. -/
structure IsLastBoundary (source : String) (offset cursor : Nat) : Prop where
  notAfter : cursor ≤ offset
  isBoundary : isBoundary source cursor = true
  isLast : ∀ other ≤ offset, Text.isBoundary source other = true → other ≤ cursor

/-- Going back to a boundary ends at zero at the latest. -/
theorem exists_boundaryBefore? (source : String) (offset : Nat) :
    ∃ cursor, boundaryBefore? source offset = some cursor ∧ IsLastBoundary source offset cursor := by
  fun_induction boundaryBefore? source offset with
  | case1 boundary => exact ⟨0, rfl, Nat.le_refl 0, boundary, fun _ notAfter _ => notAfter⟩
  | case2 inside => exact absurd (isBoundary_zero source) inside
  | case3 offset boundary =>
    exact ⟨offset + 1, rfl, Nat.le_refl _, boundary, fun _ notAfter _ => notAfter⟩
  | case4 offset inside ih =>
    rcases ih with ⟨cursor, moved, notAfter, boundary, isLast⟩
    refine ⟨cursor, moved, Nat.le_succ_of_le notAfter, boundary, ?_⟩
    intro other within otherBoundary
    have notHere : other ≠ offset + 1 := by
      rintro rfl
      exact inside otherBoundary
    exact isLast other (by omega) otherBoundary

theorem exists_clamp? (source : String) (offset : Nat) :
    ∃ cursor, clamp? source offset = some cursor ∧ IsLastBoundary source offset cursor := by
  rcases exists_boundaryBefore? source (min offset source.utf8ByteSize) with
    ⟨cursor, moved, notAfter, boundary, isLast⟩
  refine ⟨cursor, moved, by omega, boundary, ?_⟩
  intro other within otherBoundary
  have inside := le_utf8ByteSize_of_isBoundary otherBoundary
  exact isLast other (by omega) otherBoundary

theorem toNat_lt_of_isNameByte {byte : UInt8} (isName : isNameByte byte = true) :
    byte.toNat < 128 := by
  simp only [isNameByte, Bool.or_eq_true, Bool.and_eq_true, decide_eq_true_eq, beq_iff_eq,
    UInt8.le_iff_toNat_le, ← UInt8.toNat_inj] at isName
  simp at isName
  omega

/-- The name before a boundary starts at a boundary. -/
theorem exists_nameStart? (boundary : isBoundary source offset = true) :
    ∃ start ≤ offset, nameStart? (bytes source) offset = some start ∧
      isBoundary source start = true := by
  induction offset with
  | zero => exact ⟨0, Nat.le_refl 0, rfl, boundary⟩
  | succ offset ih =>
    rcases exists_byte_of_lt (le_utf8ByteSize_of_isBoundary boundary) with ⟨byte, found⟩
    by_cases isName : isNameByte byte = true
    · rcases ih (isBoundary_of_ascii found (toNat_lt_of_isNameByte isName)).1 with
        ⟨start, notAfter, started, startBoundary⟩
      refine ⟨start, by omega, ?_, startBoundary⟩
      simp [nameStart?, found, isName, started]
    · exact ⟨offset + 1, Nat.le_refl _, by simp [nameStart?, found, isName], boundary⟩

/-- While some closing bracket waits for its opening bracket, the search for it has an answer. -/
theorem exists_argumentsStart? {depth : Nat} (inside : offset ≤ source.utf8ByteSize)
    (waiting : 0 < depth) :
    ∃ found, argumentsStart? (bytes source) offset depth = some found ∧
      ∀ start ∈ found, start ≤ offset ∧ isBoundary source start = true := by
  induction offset generalizing depth with
  | zero => exact ⟨none, rfl, by simp⟩
  | succ offset ih =>
    rcases exists_byte_of_lt inside with ⟨byte, here⟩
    have continued : ∀ {depth' : Nat}, 0 < depth' →
        argumentsStart? (bytes source) (offset + 1) depth =
          argumentsStart? (bytes source) offset depth' →
        ∃ found, argumentsStart? (bytes source) (offset + 1) depth = some found ∧
          ∀ start ∈ found, start ≤ offset + 1 ∧ isBoundary source start = true := by
      intro depth' waiting' same
      rcases ih (Nat.le_of_succ_le inside) waiting' with ⟨found, answered, starts⟩
      refine ⟨found, same.trans answered, ?_⟩
      intro start member
      exact ⟨Nat.le_succ_of_le (starts start member).1, (starts start member).2⟩
    by_cases closing : byte = 41
    · exact continued (Nat.succ_pos depth) (by simp [argumentsStart?, here, closing])
    · by_cases opening : byte = 40
      · subst opening
        have boundary := (isBoundary_of_ascii here (by decide)).1
        rcases depth with _ | _ | depth
        · contradiction
        · refine ⟨some offset, by simp [argumentsStart?, here], ?_⟩
          rintro start ⟨⟩
          exact ⟨Nat.le_succ offset, boundary⟩
        · exact continued (Nat.succ_pos depth) (by simp [argumentsStart?, here])
      · exact continued waiting (by simp [argumentsStart?, here, closing, opening])

/-- The name of a segment that ends at a boundary ends at a boundary itself. -/
theorem exists_nameEnd? (boundary : isBoundary source offset = true) :
    ∃ found, nameEnd? (bytes source) offset = some found ∧
      ∀ stop isCall, found = some (stop, isCall) → stop ≤ offset ∧ isBoundary source stop = true := by
  cases offset with
  | zero =>
    refine ⟨some (0, false), rfl, ?_⟩
    rintro stop isCall ⟨⟩
    exact ⟨Nat.le_refl 0, boundary⟩
  | succ before =>
    have inside := le_utf8ByteSize_of_isBoundary boundary
    rcases exists_byte_of_lt inside with ⟨byte, here⟩
    by_cases closing : byte = 41
    · subst closing
      rcases exists_argumentsStart? (Nat.le_of_succ_le inside) Nat.one_pos with
        ⟨found, answered, starts⟩
      refine ⟨found.map fun start => (start, true), ?_, ?_⟩
      · simp [nameEnd?, here, argumentsStart?, answered]
      · intro stop isCall same
        rcases Option.map_eq_some_iff.mp same with ⟨start, rfl, ⟨⟩⟩
        exact ⟨Nat.le_succ_of_le (starts _ rfl).1, (starts _ rfl).2⟩
    · refine ⟨some (before + 1, false), by simp [nameEnd?, here, closing], ?_⟩
      rintro stop isCall ⟨⟩
      exact ⟨Nat.le_refl _, boundary⟩

/-- Whether a dot stands before a boundary can be seen, and the dot starts at a boundary. -/
theorem exists_followsDot? (boundary : isBoundary source offset = true) :
    ∃ follows, followsDot? (bytes source) offset = some follows ∧
      (follows = true → 1 ≤ offset ∧ isBoundary source (offset - 1) = true) := by
  cases offset with
  | zero => exact ⟨false, rfl, by simp⟩
  | succ before =>
    rcases exists_byte_of_lt (le_utf8ByteSize_of_isBoundary boundary) with ⟨byte, here⟩
    refine ⟨byte = 46, by simp [followsDot?, here], ?_⟩
    intro isDot
    simp only [decide_eq_true_eq] at isDot
    exact ⟨Nat.succ_pos before, (isBoundary_of_ascii here (by rw [isDot]; decide)).1⟩

/-- The chain that ends at a boundary can be read, and each of its segments starts further back, so that
there are not more of them than bytes. -/
theorem exists_chainWithin? {bound : Nat} (enough : offset < bound)
    (boundary : isBoundary source offset = true) :
    ∃ chain, chainWithin? source (bytes source) bound offset = some chain := by
  induction bound generalizing offset with
  | zero => contradiction
  | succ bound ih =>
    rcases exists_nameEnd? boundary with ⟨found, ended, ends⟩
    rcases found with _ | ⟨stop, isCall⟩
    · exact ⟨[], by simp [chainWithin?, ended]⟩
    · rcases ends stop isCall rfl with ⟨notAfter, stopBoundary⟩
      rcases exists_nameStart? stopBoundary with ⟨start, inOrder, started, startBoundary⟩
      by_cases empty : start = stop
      · exact ⟨[], by simp [chainWithin?, ended, started, empty]⟩
      · rcases exists_slice? inOrder startBoundary stopBoundary with ⟨name, cut⟩
        rcases exists_followsDot? startBoundary with ⟨follows, seen, dotBefore⟩
        cases follows with
        | false => exact ⟨[⟨name, isCall⟩], by simp [chainWithin?, ended, started, empty, cut, seen]⟩
        | true =>
          rcases dotBefore rfl with ⟨positive, dotBoundary⟩
          have stepped := stepBack?_of_le positive
          rcases ih (by omega) dotBoundary with ⟨outer, read⟩
          exact ⟨_, by
            simp [chainWithin?, ended, started, empty, cut, seen, stepped, read]; rfl⟩

theorem exists_chain? (boundary : isBoundary source offset = true) :
    ∃ chain, chain? source offset = some chain :=
  exists_chainWithin? (Nat.lt_succ_self offset) boundary

theorem stepBack?_of_hasByteBefore {distance : Nat} {byte : UInt8} (ascii : byte.toNat < 128)
    (seen : hasByteBefore (bytes source) offset distance byte = true) :
    stepBack? offset distance = some (offset - distance) ∧
      isBoundary source (offset - distance) = true := by
  simp only [hasByteBefore, Bool.and_eq_true, decide_eq_true_eq, beq_iff_eq] at seen
  exact ⟨stepBack?_of_le seen.1, (isBoundary_of_ascii seen.2 ascii).1⟩

/-- What stands before a boundary can be read. -/
theorem exists_context? (boundary : isBoundary source offset = true) :
    ∃ context, context? source offset = some context := by
  rcases exists_nameStart? boundary with ⟨wordStart, -, started, wordBoundary⟩
  rcases exists_slice? (Nat.zero_le wordStart) (isBoundary_zero source) wordBoundary with ⟨_, cut⟩
  by_cases isPath : (hasByteBefore (bytes source) wordStart 1 58 &&
      hasByteBefore (bytes source) wordStart 2 58) = true
  · have colons := (Bool.and_eq_true_iff.mp isPath).2
    rcases stepBack?_of_hasByteBefore (by decide) colons with ⟨stepped, pathBoundary⟩
    rcases exists_nameStart? pathBoundary with ⟨start, inOrder, pathStarted, startBoundary⟩
    rcases exists_slice? inOrder startBoundary pathBoundary with ⟨name, pathCut⟩
    exact ⟨.path name wordStart, by
      simp only [context?, bind, Option.bind, started, cut, if_pos isPath, stepped, pathStarted,
        pathCut]; rfl⟩
  · by_cases isReceiver : (hasByteBefore (bytes source) wordStart 1 46 &&
        !hasByteBefore (bytes source) wordStart 2 46) = true
    · have dot := (Bool.and_eq_true_iff.mp isReceiver).1
      rcases stepBack?_of_hasByteBefore (by decide) dot with ⟨stepped, dotBoundary⟩
      rcases exists_chain? dotBoundary with ⟨chain, read⟩
      exact ⟨.receiver chain, by
        simp only [context?, bind, Option.bind, started, cut, if_neg isPath, if_pos isReceiver,
          stepped, read]; rfl⟩
    · exact ⟨.scope, by
        simp only [context?, bind, Option.bind, started, cut, if_neg isPath, if_neg isReceiver]; rfl⟩

end Cursor

end SourceLens
