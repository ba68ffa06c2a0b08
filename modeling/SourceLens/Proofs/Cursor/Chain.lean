import Mathlib.Data.List.Induction
import Mathlib.Data.String.Basic
import SourceLens.Proofs.Cursor.Context

/-!
# Chains of receivers are read back

A chain is written as its links with dots between them, and a link as a name that may be followed by
arguments in brackets (`Link`).  Reading the bytes before a cursor backwards gives the links back, whatever
the arguments hold, as long as their brackets are well nested: they may have dots, names, calls and
characters of several bytes.

The reader goes through bytes, and a link is put together from characters.  The two meet in the byte before
the end of a character (`exists_byte_before`): every test that the reader makes is for an ASCII byte, and such
a byte is a character of its own.
-/

namespace SourceLens

namespace Text

variable {source : String} {before part after : List Char} {char : Char} {byte : UInt8}

theorem utf8Size_eq_one_iff_ascii : char.utf8Size = 1 ↔ char.toNat < 128 := by
  rw [Char.utf8Size_eq_one_iff, UInt32.le_iff_toNat_le]
  exact Nat.lt_succ_iff.symm

/-- A byte of a character is the code of the character, if that is ASCII, and else no ASCII byte. -/
theorem mem_encode_cases (member : byte ∈ String.utf8EncodeChar char) :
    char.toNat < 128 ∧ byte.toNat = char.toNat ∨ 128 ≤ char.toNat ∧ 128 ≤ byte.toNat := by
  by_cases ascii : char.toNat < 128
  · have single := utf8Size_eq_one_iff_ascii.mpr ascii
    rw [String.utf8EncodeChar_eq_singleton single, List.mem_singleton] at member
    refine .inl ⟨ascii, ?_⟩
    rw [member, UInt32.toNat_toUInt8]
    exact Nat.mod_eq_of_lt (Nat.lt_trans ascii (by decide))
  · refine .inr ⟨Nat.not_lt.mp ascii, Nat.not_lt.mp fun asciiByte => ascii ?_⟩
    exact utf8Size_eq_one_iff_ascii.mp (utf8Size_eq_one_of_mem_encode member asciiByte)

/-- A byte of a character is that of an ASCII character exactly if the two characters are the same. -/
theorem byte_eq_iff (mark : Char) (code : UInt8) (isCode : code.toNat = mark.toNat)
    (ascii : code.toNat < 128) (member : byte ∈ String.utf8EncodeChar char) :
    byte = code ↔ char = mark := by
  rw [← UInt8.toNat_inj, ← Char.toNat_inj, isCode]
  rcases mem_encode_cases member with ⟨-, same⟩ | ⟨charBeyond, byteBeyond⟩
  · rw [same]
  · omega

theorem length_flatMap_encode (chars : List Char) :
    (chars.flatMap String.utf8EncodeChar).length = byteLength chars := by
  induction chars with
  | nil => rfl
  | cons char chars ih => simp [ih]

/-- The bytes of a character are found in the text where it stands. -/
theorem exists_byte_within {index : Nat} (textEq : source.toList = before ++ char :: after)
    (inside : index < char.utf8Size) :
    ∃ byte ∈ String.utf8EncodeChar char, (bytes source)[byteLength before + index]? = some byte := by
  have inEncoding : index < (String.utf8EncodeChar char).length := by
    rwa [String.length_utf8EncodeChar]
  refine ⟨(String.utf8EncodeChar char)[index], List.getElem_mem inEncoding, ?_⟩
  rw [← Array.getElem?_toList, toList_bytes, textEq, List.flatMap_append, List.flatMap_cons,
    List.getElem?_append_right (by rw [length_flatMap_encode]; omega), length_flatMap_encode,
    Nat.add_sub_cancel_left, List.getElem?_append_left inEncoding, List.getElem?_eq_getElem inEncoding]

/-- The byte before the end of a character is one of its own. -/
theorem exists_byte_before (textEq : source.toList = before ++ char :: after) :
    ∃ offset, byteLength (before ++ [char]) = offset + 1 ∧
      ∃ byte ∈ String.utf8EncodeChar char, (bytes source)[offset]? = some byte := by
  have positive := char.utf8Size_pos
  refine ⟨byteLength before + (char.utf8Size - 1), ?_, exists_byte_within textEq (by omega)⟩
  simp
  omega

theorem exists_byte_of_ascii (textEq : source.toList = before ++ char :: after)
    (ascii : char.toNat < 128) :
    byteLength (before ++ [char]) = byteLength before + 1 ∧
      ∃ byte ∈ String.utf8EncodeChar char, (bytes source)[byteLength before]? = some byte := by
  have single : char.utf8Size = 1 := utf8Size_eq_one_iff_ascii.mpr ascii
  exact ⟨by simp [single], @exists_byte_within _ _ _ _ 0 textEq char.utf8Size_pos⟩

theorem utf8Len_eq_byteLength (chars : List Char) : String.utf8Len chars = byteLength chars := by
  induction chars with
  | nil => rfl
  | cons char chars ih => simp [ih, Nat.add_comm]

theorem slice?_of_toList (textEq : source.toList = before ++ (part ++ after)) :
    slice? source (byteLength before) (byteLength (before ++ part)) = some (String.ofList part) := by
  have startBoundary : isBoundary source (byteLength before) = true :=
    isBoundary_iff.mpr ⟨before, part ++ after, textEq, rfl⟩
  have stopBoundary : isBoundary source (byteLength (before ++ part)) = true :=
    isBoundary_iff.mpr ⟨before ++ part, after, by simpa using textEq, rfl⟩
  have sourceEq : source = String.ofList (before ++ part ++ after) := by
    rw [List.append_assoc, ← textEq, String.ofList_toList]
  have extracted := String.extract_of_valid before part after
  rw [utf8Len_eq_byteLength, utf8Len_eq_byteLength, ← sourceEq, ← byteLength_append] at extracted
  have inOrder : byteLength before ≤ byteLength (before ++ part) := by simp
  rw [slice?, if_pos (by simp only [inOrder, startBoundary, stopBoundary, decide_true, Bool.and_self]),
    extracted]

end Text

namespace Cursor

open Text

/-- Letters, digits and the underscore of ASCII. -/
def isNameChar (char : Char) : Bool :=
  char.isAlphanum || char == '_'

/-- Whether the brackets of a text are well nested, given how many have been opened before: none is closed
that was not opened, and none stays open. -/
def nestsFrom : Nat → List Char → Bool
  | depth, [] => depth == 0
  | depth, char :: chars =>
      if char = '(' then nestsFrom (depth + 1) chars
      else if char = ')' then 0 < depth && nestsFrom (depth - 1) chars
      else nestsFrom depth chars

/-- A link of a chain as it is written: a name and, if it is called, the text of the arguments. -/
structure Link where
  name : String
  arguments : Option String
  nonempty : name ≠ ""
  isName : ∀ char ∈ name.toList, isNameChar char = true
  isNested : ∀ text ∈ arguments, nestsFrom 0 text.toList = true

namespace Link

/-- The text of a link. -/
def text (link : Link) : String :=
  match link.arguments with
  | none => link.name
  | some arguments => link.name ++ "(" ++ arguments ++ ")"

/-- The segment that a link is. -/
def segment (link : Link) : Segment :=
  ⟨link.name, link.arguments.isSome⟩

theorem exists_toList_text (link : Link) : ∃ tail, link.text.toList = link.name.toList ++ tail := by
  cases called : link.arguments with
  | none => exact ⟨[], by simp [text, called]⟩
  | some arguments => exact ⟨'(' :: arguments.toList ++ [')'], by simp [text, called]⟩

theorem byteLength_name_pos (link : Link) : 0 < Text.byteLength link.name.toList := by
  rw [Nat.pos_iff_ne_zero, ne_eq, Text.byteLength_eq_zero_iff, String.toList_eq_nil_iff]
  exact link.nonempty

end Link

/-- The text of a chain of links. -/
def chainText (links : List Link) : String :=
  String.intercalate "." (links.map Link.text)

section Bytes

variable {source : String} {before part after name : List Char} {char : Char} {byte : UInt8}

theorem toNat_lt_of_isNameChar (isName : isNameChar char = true) : char.toNat < 128 := by
  delta isNameChar Char.isAlphanum Char.isAlpha Char.isUpper Char.isLower Char.isDigit at isName
  simp only [Bool.or_eq_true, Bool.and_eq_true, decide_eq_true_eq, beq_iff_eq, ge_iff_le,
    UInt32.le_iff_toNat_le] at isName
  rcases isName with ((⟨-, upper⟩ | ⟨-, lower⟩) | ⟨-, digit⟩) | rfl
  · exact Nat.lt_of_le_of_lt upper (by decide)
  · exact Nat.lt_of_le_of_lt lower (by decide)
  · exact Nat.lt_of_le_of_lt digit (by decide)
  · decide

theorem isNameByte_eq_isNameChar (member : byte ∈ String.utf8EncodeChar char) :
    isNameByte byte = isNameChar char := by
  have table : ∀ code < 128, isNameByte (UInt8.ofNat code) = isNameChar (Char.ofNat code) := by
    decide +kernel
  rcases mem_encode_cases member with ⟨ascii, same⟩ | ⟨charBeyond, byteBeyond⟩
  · have entry := table char.toNat ascii
    rwa [← same, UInt8.ofNat_toNat, same, Char.ofNat_toNat] at entry
  · have noNameByte : isNameByte byte = false := by
      rw [← Bool.not_eq_true]
      exact fun isName => Nat.not_lt.mpr byteBeyond (toNat_lt_of_isNameByte isName)
    have noNameChar : isNameChar char = false := by
      rw [← Bool.not_eq_true]
      exact fun isName => Nat.not_lt.mpr charBeyond (toNat_lt_of_isNameChar isName)
    rw [noNameByte, noNameChar]

/-- Going backwards over characters of names stays in the name. -/
theorem nameStart?_append (isName : ∀ char ∈ name, isNameChar char = true)
    (textEq : source.toList = before ++ (name ++ after)) :
    nameStart? (bytes source) (byteLength (before ++ name)) =
      nameStart? (bytes source) (byteLength before) := by
  induction name generalizing before with
  | nil => simp
  | cons char name ih =>
      rw [List.forall_mem_cons] at isName
      have regrouped : before ++ char :: name = (before ++ [char]) ++ name := by simp
      rw [regrouped, ih isName.2 (by simpa using textEq)]
      rcases exists_byte_of_ascii textEq (toNat_lt_of_isNameChar isName.1) with
        ⟨lengthEq, byte, member, found⟩
      have isNameByte' := (isNameByte_eq_isNameChar member).trans isName.1
      rw [lengthEq, nameStart?, found]
      simp [isNameByte']

/-- A name starts where no character of a name stands before it. -/
theorem nameStart?_of_getLast? (textEq : source.toList = before ++ after)
    (noName : ∀ char, before.getLast? = some char → isNameChar char = false) :
    nameStart? (bytes source) (byteLength before) = some (byteLength before) := by
  cases last : before.getLast? with
  | none =>
      rw [List.getLast?_eq_none_iff] at last
      simp [last, nameStart?]
  | some char =>
      rcases List.getLast?_eq_some_iff.mp last with ⟨front, rfl⟩
      rcases @exists_byte_before source front after char (by simpa using textEq) with
        ⟨offset, lengthEq, byte, member, found⟩
      have noNameByte := (isNameByte_eq_isNameChar member).trans (noName char last)
      rw [lengthEq, nameStart?, found]
      simp [noNameByte]

theorem followsDot?_of_toList (textEq : source.toList = before ++ after) :
    followsDot? (bytes source) (byteLength before) = some (decide (before.getLast? = some '.')) := by
  cases last : before.getLast? with
  | none =>
      rw [List.getLast?_eq_none_iff] at last
      simp [last, followsDot?]
  | some char =>
      rcases List.getLast?_eq_some_iff.mp last with ⟨front, rfl⟩
      rcases @exists_byte_before source front after char (by simpa using textEq) with
        ⟨offset, lengthEq, byte, member, found⟩
      have isDot := byte_eq_iff '.' 46 rfl (by decide) member
      rw [lengthEq, followsDot?, found]
      simp [isDot]

section Arguments

variable {depth waiting : Nat}

theorem argumentsStart?_closing (textEq : source.toList = before ++ ')' :: after) (waiting : Nat) :
    argumentsStart? (bytes source) (byteLength (before ++ [')'])) waiting =
      argumentsStart? (bytes source) (byteLength before) (waiting + 1) := by
  rcases exists_byte_of_ascii textEq (by decide) with ⟨lengthEq, byte, member, found⟩
  obtain rfl : byte = 41 := (byte_eq_iff ')' 41 rfl (by decide) member).mpr rfl
  rw [lengthEq]
  simp [argumentsStart?, found]

theorem argumentsStart?_opening (textEq : source.toList = before ++ '(' :: after) (waiting : Nat) :
    argumentsStart? (bytes source) (byteLength (before ++ ['('])) (waiting + 1) =
      if waiting = 0 then some (some (byteLength before))
      else argumentsStart? (bytes source) (byteLength before) waiting := by
  rcases exists_byte_of_ascii textEq (by decide) with ⟨lengthEq, byte, member, found⟩
  obtain rfl : byte = 40 := (byte_eq_iff '(' 40 rfl (by decide) member).mpr rfl
  rw [lengthEq]
  cases waiting <;> simp [argumentsStart?, found]

/-- A character that is no bracket is passed byte by byte. -/
theorem argumentsStart?_other (notOpening : char ≠ '(') (notClosing : char ≠ ')')
    (textEq : source.toList = before ++ char :: after) (waiting : Nat) :
    argumentsStart? (bytes source) (byteLength (before ++ [char])) waiting =
      argumentsStart? (bytes source) (byteLength before) waiting := by
  have passed : ∀ index ≤ char.utf8Size,
      argumentsStart? (bytes source) (byteLength before + index) waiting =
        argumentsStart? (bytes source) (byteLength before) waiting := by
    intro index inside
    induction index with
    | zero => rfl
    | succ index ih =>
        rcases exists_byte_within textEq inside with ⟨byte, member, found⟩
        have noOpening := mt (byte_eq_iff '(' 40 rfl (by decide) member).mp notOpening
        have noClosing := mt (byte_eq_iff ')' 41 rfl (by decide) member).mp notClosing
        rw [← ih (Nat.le_of_succ_le inside), ← Nat.add_assoc]
        simp [argumentsStart?, found, noOpening, noClosing]
  simpa using passed char.utf8Size (Nat.le_refl _)

/-- At the start of arguments as many brackets are waited for as before their end, and those that they
close from outside. -/
theorem argumentsStart?_append (nests : nestsFrom depth part = true)
    (textEq : source.toList = before ++ (part ++ after)) :
    argumentsStart? (bytes source) (byteLength (before ++ part)) (waiting + 1) =
      argumentsStart? (bytes source) (byteLength before) (waiting + 1 + depth) := by
  induction part generalizing before depth with
  | nil =>
      obtain rfl : depth = 0 := by simpa [nestsFrom] using nests
      simp
  | cons char part ih =>
      have regrouped : before ++ char :: part = (before ++ [char]) ++ part := by simp
      have textEq' : source.toList = (before ++ [char]) ++ (part ++ after) := by simpa using textEq
      rw [regrouped]
      by_cases opening : char = '('
      · subst opening
        rw [ih (by simpa [nestsFrom] using nests) textEq', ← Nat.add_assoc, argumentsStart?_opening textEq]
        simp
      · by_cases closing : char = ')'
        · subst closing
          simp only [nestsFrom, opening, if_false, if_true, Bool.and_eq_true, decide_eq_true_eq] at nests
          rw [ih nests.2 textEq', argumentsStart?_closing textEq]
          congr 1
          omega
        · rw [ih (by simpa [nestsFrom, opening, closing] using nests) textEq',
            argumentsStart?_other opening closing textEq]

end Arguments

end Bytes

section Links

variable {source : String} {before after : List Char} {char : Char} {link : Link}

/-- A closing bracket ends arguments, and any other character the name itself. -/
theorem nameEnd?_append_singleton (textEq : source.toList = before ++ char :: after) :
    nameEnd? (bytes source) (byteLength (before ++ [char])) =
      if char = ')' then
        (argumentsStart? (bytes source) (byteLength (before ++ [char])) 0).map
          fun start => start.map fun start => (start, true)
      else some (some (byteLength (before ++ [char]), false)) := by
  rcases exists_byte_before textEq with ⟨offset, lengthEq, byte, member, found⟩
  have closing := byte_eq_iff ')' 41 rfl (by decide) member
  rw [lengthEq]
  simp only [nameEnd?, found, Option.bind_eq_bind, Option.bind_some, closing]
  split
  · cases argumentsStart? (bytes source) (offset + 1) 0 <;> rfl
  · rfl

theorem nameEnd?_link (textEq : source.toList = before ++ (link.text.toList ++ after)) :
    nameEnd? (bytes source) (byteLength (before ++ link.text.toList)) =
      some (some (byteLength (before ++ link.name.toList), link.arguments.isSome)) := by
  cases called : link.arguments with
  | none =>
      have textIsName : link.text = link.name := by simp [Link.text, called]
      rcases List.eq_nil_or_concat link.name.toList with empty | ⟨front, last, nameEq⟩
      · exact absurd (String.toList_eq_nil_iff.mp empty) link.nonempty
      · rw [List.concat_eq_append] at nameEq
        have notClosing : last ≠ ')' := by
          rintro rfl
          exact absurd (link.isName ')' (by simp [nameEq])) (by decide)
        rw [textIsName, nameEq] at textEq ⊢
        have endsAt : source.toList = (before ++ front) ++ last :: after := by simpa using textEq
        rw [← List.append_assoc, nameEnd?_append_singleton endsAt, if_neg notClosing]
        rfl
  | some arguments =>
      have textIsCall : link.text.toList = link.name.toList ++ ['('] ++ arguments.toList ++ [')'] := by
        simp [Link.text, called]
      rw [textIsCall] at textEq ⊢
      have closesAt : source.toList =
          (before ++ (link.name.toList ++ ['('] ++ arguments.toList)) ++ ')' :: after := by
        simpa using textEq
      have argumentsAt : source.toList =
          (before ++ (link.name.toList ++ ['('])) ++ (arguments.toList ++ ')' :: after) := by
        simpa using textEq
      have opensAt : source.toList =
          (before ++ link.name.toList) ++ '(' :: (arguments.toList ++ ')' :: after) := by
        simpa using textEq
      rw [← List.append_assoc, nameEnd?_append_singleton closesAt, if_pos rfl,
        argumentsStart?_closing closesAt, ← List.append_assoc,
        argumentsStart?_append (link.isNested arguments called) argumentsAt, ← List.append_assoc,
        argumentsStart?_opening opensAt, if_pos rfl]
      rfl

/-- A link is read in one round, which leaves the links before it to the next ones. -/
theorem chainWithin?_link (textEq : source.toList = before ++ (link.text.toList ++ after))
    (noName : ∀ char, before.getLast? = some char → isNameChar char = false) (bound : Nat) :
    chainWithin? source (bytes source) (bound + 1) (byteLength (before ++ link.text.toList)) =
      if before.getLast? = some '.' then
        (chainWithin? source (bytes source) bound (byteLength before - 1)).map fun outer =>
          if outer.isEmpty then [] else outer ++ [link.segment]
      else some [link.segment] := by
  rcases link.exists_toList_text with ⟨tail, startsWithName⟩
  have nameAt : source.toList = before ++ (link.name.toList ++ (tail ++ after)) := by
    rw [textEq, startsWithName, List.append_assoc]
  have started : nameStart? (bytes source) (byteLength (before ++ link.name.toList)) =
      some (byteLength before) := by
    rw [nameStart?_append link.isName nameAt, nameStart?_of_getLast? nameAt noName]
  have notEmpty : byteLength before ≠ byteLength (before ++ link.name.toList) := by
    have positive := link.byteLength_name_pos
    rw [byteLength_append]
    omega
  have sliced := slice?_of_toList nameAt
  rw [String.ofList_toList] at sliced
  simp only [chainWithin?, nameEnd?_link textEq, started, notEmpty, sliced, followsDot?_of_toList nameAt,
    Option.bind_eq_bind, Option.bind_some, if_false, decide_eq_true_eq]
  split
  · next endsWithDot =>
      have positive : 1 ≤ byteLength before := by
        rcases List.getLast?_eq_some_iff.mp endsWithDot with ⟨front, rfl⟩
        have dotLength : byteLength ['.'] = 1 := rfl
        rw [byteLength_append, dotLength]
        exact Nat.le_add_left 1 _
      rw [stepBack?_of_le positive, Option.bind_some]
      cases chainWithin? source (bytes source) bound (byteLength before - 1) <;> rfl
  · rfl

end Links

section Chains

variable {source : String} {lead after : List Char} {links : List Link}

theorem chainText_singleton (link : Link) : chainText [link] = link.text :=
  String.intercalate_singleton

theorem toList_chainText_append (nonempty : links ≠ []) (link : Link) :
    (chainText (links ++ [link])).toList = (chainText links).toList ++ ['.'] ++ link.text.toList := by
  rw [chainText, List.map_append, List.map_singleton,
    String.intercalate_append_of_ne_nil (by simpa using nonempty) (by simp),
    String.intercalate_singleton, String.toList_append, String.toList_append, ← chainText]
  rfl

/-- The links are read from the last to the first, one in each round. -/
theorem chainWithin?_links (nonempty : links ≠ [])
    (textEq : source.toList = lead ++ ((chainText links).toList ++ after))
    (cutOff : ∀ char, lead.getLast? = some char → isNameChar char = false ∧ char ≠ '.')
    {bound : Nat} (enough : links.length ≤ bound) :
    chainWithin? source (bytes source) bound (byteLength (lead ++ (chainText links).toList)) =
      some (links.map Link.segment) := by
  induction links using List.reverseRecOn generalizing after bound with
  | nil => contradiction
  | append_singleton links link ih =>
      obtain ⟨bound, rfl⟩ : ∃ earlier, bound = earlier + 1 :=
        Nat.exists_eq_add_one.mpr (by simp at enough; omega)
      by_cases isFirst : links = []
      · subst isFirst
        have noDot : lead.getLast? ≠ some '.' := fun dot => (cutOff '.' dot).2 rfl
        rw [List.nil_append, chainText_singleton] at textEq ⊢
        rw [chainWithin?_link textEq (fun char last => (cutOff char last).1), if_neg noDot]
        rfl
      · rw [toList_chainText_append isFirst] at textEq ⊢
        have linkAt : source.toList =
            (lead ++ ((chainText links).toList ++ ['.'])) ++ (link.text.toList ++ after) := by
          simpa using textEq
        have linksAt : source.toList =
            lead ++ ((chainText links).toList ++ ('.' :: link.text.toList ++ after)) := by
          simpa using textEq
        have lastIsDot : (lead ++ ((chainText links).toList ++ ['.'])).getLast? = some '.' := by
          simp
        have noName : ∀ char, (lead ++ ((chainText links).toList ++ ['.'])).getLast? = some char →
            isNameChar char = false := by
          intro char last
          rw [lastIsDot, Option.some.injEq] at last
          subst last
          decide
        have beforeDot : byteLength (lead ++ ((chainText links).toList ++ ['.'])) - 1 =
            byteLength (lead ++ (chainText links).toList) := by
          have dotLength : byteLength ['.'] = 1 := rfl
          simp only [byteLength_append, dotLength]
          omega
        have read := ih isFirst linksAt (by simpa using enough)
        rw [← List.append_assoc, chainWithin?_link linkAt noName, if_pos lastIsDot, beforeDot, read]
        simp [isFirst]

theorem length_le_byteLength_chainText (links : List Link) :
    links.length ≤ byteLength (chainText links).toList := by
  have positive : ∀ link : Link, 0 < byteLength link.text.toList := by
    intro link
    rcases link.exists_toList_text with ⟨tail, startsWithName⟩
    have namePositive := link.byteLength_name_pos
    rw [startsWithName, byteLength_append]
    omega
  induction links using List.reverseRecOn with
  | nil => simp
  | append_singleton links link ih =>
      have linkPositive := positive link
      by_cases isFirst : links = []
      · subst isFirst
        rw [List.nil_append, chainText_singleton]
        exact linkPositive
      · rw [toList_chainText_append isFirst, byteLength_append, byteLength_append, List.length_append,
          List.length_singleton]
        omega

end Chains

theorem byteLength_toList (text : String) : byteLength text.toList = text.utf8ByteSize := by
  rw [← utf8ByteSize_ofList, String.ofList_toList]

/-- What holds of the last byte of a text holds of its last character. -/
theorem isNameChar_of_back? {lead : String} {char : Char}
    (cutOff : ∀ byte, (bytes lead).back? = some byte → isNameByte byte = false ∧ byte ≠ 46)
    (last : lead.toList.getLast? = some char) : isNameChar char = false ∧ char ≠ '.' := by
  rcases List.getLast?_eq_some_iff.mp last with ⟨front, leadEq⟩
  rcases exists_byte_before leadEq with ⟨offset, lengthEq, byte, member, found⟩
  have size : (bytes lead).size = offset + 1 := by
    rw [← lengthEq, ← leadEq, byteLength_toList]
    rfl
  have isLast : (bytes lead).back? = some byte := by
    rw [Array.back?_eq_getElem?, size, Nat.add_sub_cancel, found]
  rcases cutOff byte isLast with ⟨noName, noDot⟩
  rw [← isNameByte_eq_isNameChar member, ne_eq, ← byte_eq_iff '.' 46 rfl (by decide) member]
  exact ⟨noName, noDot⟩

/-- A chain of links is read back from what stands before a cursor at its end: whatever text comes before
it, if that does not end with a byte of a name or a dot, and whatever comes after it. -/
theorem chain?_chainText (lead rest : String) (links : List Link) (nonempty : links ≠ [])
    (cutOff : ∀ byte, (bytes lead).back? = some byte → isNameByte byte = false ∧ byte ≠ 46) :
    chain? (lead ++ chainText links ++ rest) (lead ++ chainText links).utf8ByteSize =
      some (links.map Link.segment) := by
  have textEq : (lead ++ chainText links ++ rest).toList =
      lead.toList ++ ((chainText links).toList ++ rest.toList) := by
    simp
  have stop : (lead ++ chainText links).utf8ByteSize =
      byteLength (lead.toList ++ (chainText links).toList) := by
    rw [← byteLength_toList, String.toList_append]
  have enough : links.length ≤ byteLength (lead.toList ++ (chainText links).toList) + 1 := by
    have longEnough := length_le_byteLength_chainText links
    rw [byteLength_append]
    omega
  rw [chain?, stop]
  exact chainWithin?_links nonempty textEq (fun _ last => isNameChar_of_back? cutOff last) enough

/-- The arguments of the call have a dot, a call and characters of several bytes in them, and the text
before the chain ends with a byte of such a character. -/
theorem chain?_chainText_nested :
    let links : List Link :=
      [⟨"a", none, by decide, List.all_eq_true.mp (by decide), by simp⟩,
        ⟨"b_2", some "c.d(é).e, '→'", by decide, List.all_eq_true.mp (by decide), by decide⟩,
        ⟨"f", some "", by decide, List.all_eq_true.mp (by decide), by decide⟩]
    links ≠ [] ∧
      (∀ byte, (bytes "x → é").back? = some byte → isNameByte byte = false ∧ byte ≠ 46) ∧
      "x → é" ++ chainText links ++ ".g" = "x → éa.b_2(c.d(é).e, '→').f().g" ∧
      chain? "x → éa.b_2(c.d(é).e, '→').f().g" 35 =
        some [⟨"a", false⟩, ⟨"b_2", true⟩, ⟨"f", true⟩] := by
  intro links
  have nonempty : links ≠ [] := by simp [links]
  have cutOff : ∀ byte, (bytes "x → é").back? = some byte → isNameByte byte = false ∧ byte ≠ 46 := by
    have lastByte : (bytes "x → é").back? = some 169 := by decide
    intro byte last
    obtain rfl : 169 = byte := Option.some.inj (lastByte.symm.trans last)
    decide
  have textEq : "x → é" ++ chainText links ++ ".g" = "x → éa.b_2(c.d(é).e, '→').f().g" := by decide
  refine ⟨nonempty, cutOff, textEq, ?_⟩
  have stop : ("x → é" ++ chainText links).utf8ByteSize = 35 := by decide
  rw [← textEq, ← stop]
  exact chain?_chainText "x → é" ".g" links nonempty cutOff

end Cursor

end SourceLens
