import Mathlib.Data.List.Chain
import Mathlib.Data.List.Induction
import Mathlib.Data.List.TakeWhile
import SourceLens.Doc.Markup

/-!
# Cleaned documentation

Cleaning replaces each tag with a space and then leaves one space between neighbouring words.  What is left
has no tag in it, although stray brackets may come closer to each other: of the opening brackets that stay,
some have no closing bracket after them and the others have it as their very next character, and neither
changes when tags and blanks are taken out (`isSome_afterTag?_of_kept`).  So cleaned texts are the texts that
cleaning does not change.
-/

namespace SourceLens

namespace Text

variable {char : Char} {chars rest : List Char}

/-- A text with single spaces between its words and no other blank. -/
structure IsSpaced (chars : List Char) : Prop where
  onlySpaces : ∀ char ∈ chars, isBlank char = true → char = ' '
  noLeading : ∀ char ∈ chars.head?, isBlank char = false
  noTrailing : ∀ char ∈ chars.getLast?, isBlank char = false
  noRepeated : chars.IsChain fun first second => ¬(isBlank first = true ∧ isBlank second = true)

@[simp]
theorem collapse_nil : collapse [] = [] :=
  rfl

theorem collapse_cons_of_isBlank (blank : isBlank char = true) (chars : List Char) :
    collapse (char :: chars) = collapse chars := by
  simp [collapse, words, List.splitOnP_cons_eq_if_modifyHead, blank]

theorem collapse_ne_nil (filled : words chars ≠ []) : collapse chars ≠ [] := by
  rcases List.ne_nil_iff_exists_cons.mp filled with ⟨word, others, wordsEq⟩
  have isWord : word ∈ words chars := by simp [wordsEq]
  have wordFilled : word ≠ [] := by
    simp only [words, List.mem_filter] at isWord
    simpa using isWord.2
  rw [collapse, wordsEq]
  cases others with
  | nil => simpa using wordFilled
  | cons => simp [List.intercalate_cons_cons]

/-- A character of a word is followed by the rest of the word or by the space before the next word. -/
theorem collapse_cons_of_not_isBlank (notBlank : isBlank char = false) (chars : List Char) :
    collapse (char :: chars) =
      char :: if chars.head?.any isBlank = true ∧ collapse chars ≠ [] then ' ' :: collapse chars
        else collapse chars := by
  cases chars with
  | nil => simp [collapse, words, List.splitOnP_cons_eq_if_modifyHead, notBlank]
  | cons next chars =>
      cases nextBlank : isBlank next with
      | true =>
          have wordsEq : words (char :: next :: chars) = [char] :: words chars := by
            simp [words, List.splitOnP_cons_eq_if_modifyHead, notBlank, nextBlank]
          rw [collapse_cons_of_isBlank nextBlank]
          by_cases isLast : words chars = []
          · simp [collapse, wordsEq, isLast]
          · have filled := collapse_ne_nil isLast
            rw [collapse, wordsEq, List.intercalate_cons_of_ne_nil isLast, ← collapse]
            simp [nextBlank, filled]
      | false =>
          rcases List.ne_nil_iff_exists_cons.mp (List.splitOnP_ne_nil isBlank chars) with
            ⟨word, others, split⟩
          have nextWords : words (next :: chars) =
              (next :: word) :: others.filter fun word => !word.isEmpty := by
            simp [words, List.splitOnP_cons_eq_if_modifyHead, nextBlank, split]
          have wordsEq : words (char :: next :: chars) =
              (char :: next :: word) :: others.filter fun word => !word.isEmpty := by
            simp [words, List.splitOnP_cons_eq_if_modifyHead, notBlank, nextBlank, split]
          rw [collapse, collapse, wordsEq, nextWords]
          cases others.filter fun word => !word.isEmpty <;>
            simp [List.intercalate_cons_cons, nextBlank]

theorem mem_collapse (member : char ∈ collapse chars) : char = ' ' ∨ char ∈ chars := by
  induction chars with
  | nil => simp at member
  | cons first chars ih =>
      cases blank : isBlank first with
      | true =>
          rw [collapse_cons_of_isBlank blank] at member
          exact (ih member).imp_right (List.mem_cons_of_mem first)
      | false =>
          rw [collapse_cons_of_not_isBlank blank] at member
          split at member <;> simp only [List.mem_cons] at member ⊢
          · rcases member with isFirst | isSpace | later
            · exact .inr (.inl isFirst)
            · exact .inl isSpace
            · exact (ih later).imp_right .inr
          · rcases member with isFirst | later
            · exact .inr (.inl isFirst)
            · exact (ih later).imp_right .inr

theorem IsSpaced.cons (notBlank : isBlank char = false) (spaced : IsSpaced rest) :
    IsSpaced (char :: rest) := by
  refine ⟨?_, by simpa using notBlank, ?_, ?_⟩
  · simp only [List.forall_mem_cons]
    exact ⟨by simp [notBlank], spaced.onlySpaces⟩
  · cases rest with
    | nil => simpa using notBlank
    | cons second rest => simpa using spaced.noTrailing
  · rw [List.isChain_cons]
    exact ⟨by simp [notBlank], spaced.noRepeated⟩

theorem IsSpaced.cons_space (notBlank : isBlank char = false) (filled : rest ≠ [])
    (spaced : IsSpaced rest) : IsSpaced (char :: ' ' :: rest) := by
  refine ⟨?_, by simpa using notBlank, ?_, ?_⟩
  · simp only [List.forall_mem_cons]
    exact ⟨by simp [notBlank], by simp, spaced.onlySpaces⟩
  · cases rest with
    | nil => contradiction
    | cons second rest => simpa using spaced.noTrailing
  · rw [List.isChain_cons_cons, List.isChain_cons]
    refine ⟨by simp [notBlank], ?_, spaced.noRepeated⟩
    intro second isSecond
    simp [spaced.noLeading second isSecond]

theorem isSpaced_collapse (chars : List Char) : IsSpaced (collapse chars) := by
  induction chars with
  | nil => constructor <;> simp
  | cons char chars ih =>
      cases blank : isBlank char with
      | true =>
          rw [collapse_cons_of_isBlank blank]
          exact ih
      | false =>
          rw [collapse_cons_of_not_isBlank blank]
          split
          · next gap => exact ih.cons_space blank gap.2
          · exact ih.cons blank

theorem IsSpaced.collapse_eq (spaced : IsSpaced chars) : collapse chars = chars := by
  induction chars using List.twoStepInduction with
  | nil => rfl
  | singleton char =>
      have notBlank := spaced.noLeading char (by simp)
      simp [collapse_cons_of_not_isBlank notBlank]
  | cons_cons first second rest ihRest ih =>
      rcases spaced with ⟨onlySpaces, noLeading, noTrailing, noRepeated⟩
      have notBlank := noLeading first (by simp)
      rw [List.isChain_cons_cons] at noRepeated
      simp only [List.forall_mem_cons] at onlySpaces
      rw [collapse_cons_of_not_isBlank notBlank]
      cases secondBlank : isBlank second with
      | false =>
          have spacedTail : IsSpaced (second :: rest) := by
            refine ⟨?_, by simpa using secondBlank, by simpa using noTrailing, noRepeated.2⟩
            simpa only [List.forall_mem_cons] using onlySpaces.2
          rw [ih second spacedTail]
          simp [secondBlank]
      | true =>
          obtain rfl : second = ' ' := onlySpaces.2.1 secondBlank
          have filled : rest ≠ [] := by
            rintro rfl
            simp [secondBlank] at noTrailing
          have spacedRest : IsSpaced rest := by
            rw [List.isChain_cons] at noRepeated
            refine ⟨onlySpaces.2.2, ?_, ?_, noRepeated.2.2⟩
            · intro third isThird
              simpa [secondBlank] using noRepeated.2.1 third isThird
            · cases rest with
              | nil => contradiction
              | cons third rest => simpa using noTrailing
          rw [collapse_cons_of_isBlank secondBlank, ihRest spacedRest]
          simp [secondBlank, filled]

end Text

namespace Doc

open Text

variable {char : Char} {chars later rest : List Char}

/-- A text with a tag in it: something between brackets that holds no closing bracket. -/
def HasTag (chars : List Char) : Prop :=
  ∃ before inside after, chars = before ++ '<' :: (inside ++ '>' :: after) ∧
    inside ≠ [] ∧ '>' ∉ inside

/-- A text that has neither tags nor blanks other than single spaces between words. -/
structure IsClean (text : String) : Prop where
  noTag : ¬HasTag text.toList
  spaced : IsSpaced text.toList

theorem afterTag?_append {inside : List Char} (filled : inside ≠ []) (noCloser : '>' ∉ inside)
    (rest : List Char) : afterTag? (inside ++ '>' :: rest) = some rest := by
  have dropped : (inside ++ '>' :: rest).dropWhile (· != '>') = '>' :: rest := by
    rw [List.dropWhile_append_of_pos]
    · simp
    · intro char member
      simp only [bne_iff_ne, ne_eq]
      rintro rfl
      exact noCloser member
  unfold afterTag?
  split
  · next closes =>
      cases inside with
      | nil => contradiction
      | cons char inside =>
          simp only [List.cons_append, List.cons.injEq] at closes
          simp [closes.1] at noCloser
  · simp [dropped]

theorem exists_of_afterTag? (found : afterTag? chars = some rest) :
    ∃ inside, chars = inside ++ '>' :: rest ∧ inside ≠ [] ∧ '>' ∉ inside := by
  unfold afterTag? at found
  split at found
  · simp at found
  · next notNext =>
      split at found
      · next closer tail dropped =>
          obtain rfl : tail = rest := Option.some.inj found
          have isCloser : closer = '>' := by
            have notDropped := List.head?_dropWhile_not (· != '>') chars
            simpa [dropped] using notDropped
          have parts := List.takeWhile_append_dropWhile (p := (· != '>')) (l := chars)
          rw [dropped, isCloser] at parts
          refine ⟨chars.takeWhile (· != '>'), parts.symm, ?_, ?_⟩
          · intro empty
            rw [empty, List.nil_append] at parts
            exact notNext tail parts.symm
          · intro member
            simpa using List.mem_takeWhile_imp member
      · simp at found

theorem afterTag?_eq_some_iff :
    afterTag? chars = some rest ↔
      ∃ inside, chars = inside ++ '>' :: rest ∧ inside ≠ [] ∧ '>' ∉ inside := by
  constructor
  · exact exists_of_afterTag?
  · rintro ⟨inside, rfl, filled, noCloser⟩
    exact afterTag?_append filled noCloser rest

/-- A bracket opens a tag if a closing bracket comes later on, but not right after it. -/
theorem isSome_afterTag?_iff :
    (afterTag? chars).isSome = true ↔ '>' ∈ chars ∧ chars.head? ≠ some '>' := by
  simp only [Option.isSome_iff_exists, afterTag?_eq_some_iff]
  constructor
  · rintro ⟨rest, inside, rfl, filled, noCloser⟩
    refine ⟨by simp, ?_⟩
    cases inside with
    | nil => contradiction
    | cons char inside =>
        rintro ⟨⟩
        simp at noCloser
  · rintro ⟨closes, notNext⟩
    rcases List.eq_append_cons_of_mem closes with ⟨inside, rest, rfl, noCloser⟩
    refine ⟨rest, inside, rfl, ?_, noCloser⟩
    rintro rfl
    simp at notNext

theorem not_hasTag_nil : ¬HasTag [] := by
  simp [HasTag]

theorem hasTag_cons_iff :
    HasTag (char :: chars) ↔ char = '<' ∧ (afterTag? chars).isSome = true ∨ HasTag chars := by
  constructor
  · rintro ⟨before, inside, after, same, filled, noCloser⟩
    cases before with
    | nil =>
        simp only [List.nil_append, List.cons.injEq] at same
        have found := afterTag?_eq_some_iff.mpr ⟨inside, same.2, filled, noCloser⟩
        exact .inl ⟨same.1, by simp [found]⟩
    | cons head before =>
        simp only [List.cons_append, List.cons.injEq] at same
        exact .inr ⟨before, inside, after, same.2, filled, noCloser⟩
  · rintro (⟨rfl, opens⟩ | ⟨before, inside, after, rfl, filled, noCloser⟩)
    · rcases Option.isSome_iff_exists.mp opens with ⟨after, found⟩
      rcases afterTag?_eq_some_iff.mp found with ⟨inside, rfl, filled, noCloser⟩
      exact ⟨[], inside, after, rfl, filled, noCloser⟩
    · exact ⟨char :: before, inside, after, rfl, filled, noCloser⟩

/-- No bracket comes to open a tag when no closing bracket is added and one that comes next stays there. -/
theorem isSome_afterTag?_of_kept (opens : (afterTag? later).isSome = true)
    (nothingAdded : '>' ∈ later → '>' ∈ chars)
    (nextKept : chars.head? = some '>' → later.head? = some '>') :
    (afterTag? chars).isSome = true := by
  rw [isSome_afterTag?_iff] at opens ⊢
  exact ⟨nothingAdded opens.1, mt nextKept opens.2⟩

theorem mem_of_mem_dropTags (member : '>' ∈ dropTags chars) : '>' ∈ chars := by
  fun_induction dropTags chars with
  | case1 => exact member
  | case2 chars rest found ih =>
      rcases afterTag?_eq_some_iff.mp found with ⟨inside, rfl, -⟩
      simp
  | case3 chars notFound ih => simpa using ih (by simpa using member)
  | case4 char chars notOpening ih =>
      rcases List.mem_cons.mp member with isHead | later
      · exact List.mem_cons.mpr (.inl isHead)
      · exact List.mem_cons_of_mem char (ih later)

theorem head?_dropTags (next : chars.head? = some '>') : (dropTags chars).head? = some '>' := by
  rcases List.head?_eq_some_iff.mp next with ⟨rest, rfl⟩
  simp [dropTags]

theorem not_hasTag_dropTags (chars : List Char) : ¬HasTag (dropTags chars) := by
  fun_induction dropTags chars with
  | case1 => exact not_hasTag_nil
  | case2 chars rest found ih => simpa [hasTag_cons_iff] using ih
  | case3 chars notFound ih =>
      rw [hasTag_cons_iff, not_or]
      refine ⟨?_, ih⟩
      rintro ⟨-, opens⟩
      have openedBefore := isSome_afterTag?_of_kept opens mem_of_mem_dropTags head?_dropTags
      simp [notFound] at openedBefore
  | case4 char chars notOpening ih => simpa [hasTag_cons_iff, notOpening] using ih

theorem dropTags_eq_self (noTag : ¬HasTag chars) : dropTags chars = chars := by
  fun_induction dropTags chars with
  | case1 => rfl
  | case2 chars rest found ih => simp [hasTag_cons_iff, found] at noTag
  | case3 chars notFound ih =>
      rw [hasTag_cons_iff, not_or] at noTag
      rw [ih noTag.2]
  | case4 char chars notOpening ih =>
      rw [hasTag_cons_iff, not_or] at noTag
      rw [ih noTag.2]

theorem mem_of_mem_collapse (member : '>' ∈ collapse chars) : '>' ∈ chars :=
  (mem_collapse member).resolve_left (by decide)

theorem head?_collapse (next : chars.head? = some '>') : (collapse chars).head? = some '>' := by
  rcases List.head?_eq_some_iff.mp next with ⟨rest, rfl⟩
  have notBlank : isBlank '>' = false := by decide
  simp [collapse_cons_of_not_isBlank notBlank]

theorem hasTag_of_collapse (hasTag : HasTag (collapse chars)) : HasTag chars := by
  induction chars with
  | nil => exact hasTag
  | cons char chars ih =>
      cases blank : isBlank char with
      | true =>
          rw [collapse_cons_of_isBlank blank] at hasTag
          exact hasTag_cons_iff.mpr (.inr (ih hasTag))
      | false =>
          rw [collapse_cons_of_not_isBlank blank] at hasTag
          rw [hasTag_cons_iff]
          split at hasTag
          · next gap =>
              simp only [hasTag_cons_iff] at hasTag
              rcases hasTag with ⟨isOpening, opens⟩ | ⟨isSpace, -⟩ | later
              · refine .inl ⟨isOpening, isSome_afterTag?_of_kept opens ?_ ?_⟩
                · intro member
                  exact mem_of_mem_collapse (by simpa using member)
                · intro next
                  simp [next, isBlank] at gap
              · simp at isSpace
              · exact .inr (ih later)
          · rw [hasTag_cons_iff] at hasTag
            rcases hasTag with ⟨isOpening, opens⟩ | later
            · exact .inl ⟨isOpening,
                isSome_afterTag?_of_kept opens mem_of_mem_collapse head?_collapse⟩
            · exact .inr (ih later)

theorem toList_clean (text : String) : (clean text).toList = collapse (dropTags text.toList) := by
  simp [clean, mapChars]

theorem isClean_clean (text : String) : IsClean (clean text) := by
  constructor
  · rw [toList_clean]
    exact mt hasTag_of_collapse (not_hasTag_dropTags text.toList)
  · rw [toList_clean]
    exact isSpaced_collapse _

theorem IsClean.clean_eq {text : String} (isClean : IsClean text) : clean text = text := by
  rw [← String.toList_inj, toList_clean, dropTags_eq_self isClean.noTag, isClean.spaced.collapse_eq]

/-- A cleaned text is clean, and cleaning it again does not change it.  Clean texts are exactly those that
cleaning does not change. -/
theorem clean_isClean_and_fixed (text : String) :
    IsClean (clean text) ∧ clean (clean text) = clean text ∧ (clean text = text ↔ IsClean text) := by
  refine ⟨isClean_clean text, (isClean_clean text).clean_eq, ?_, IsClean.clean_eq⟩
  intro unchanged
  rw [← unchanged]
  exact isClean_clean text

end Doc

end SourceLens
