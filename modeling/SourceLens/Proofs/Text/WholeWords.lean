import Mathlib.Algebra.Order.BigOperators.Group.List
import Mathlib.Algebra.Order.Group.Nat
import Mathlib.Data.List.SplitBy
import SourceLens.Text.Occurrence

/-!
# Replacing whole words

A text falls into maximal runs of word characters and of other characters (`runs`), and to replace a word is
to replace the runs that are equal to it (`replaceRuns`).  The replacement at work looks for one occurrence
after another, and it takes the neighbour on the left from what the previous occurrence has left over.  So
occurrences in different runs do not see each other (`replaceIn_append`), but in one run an occurrence that
comes right after another one is taken for a whole word if the run ends with it (`IsRepeated`).  Apart from
that the two agree.
-/

namespace SourceLens.Text

/-- The maximal runs of word characters and those of other characters, in order. -/
def runs (chars : List Char) : List (List Char) :=
  chars.splitBy fun first second => isWordChar first == isWordChar second

/-- A run, replaced if it is equal to a word. -/
def replaceRun (word replacement run : List Char) : List Char :=
  if run = word then replacement else run

/-- A text with the runs that are equal to a word replaced. -/
def replaceRuns (text word replacement : String) : String :=
  mapChars (fun chars => (runs chars).flatMap (replaceRun word.toList replacement.toList)) text

/-- What is before an occurrence of a word that has no other occurrence before it. -/
def PrecedesFirst (word before : List Char) : Prop :=
  ∀ front back, before ++ word = front ++ word ++ back → back = []

/-- What has been read when an occurrence of a word has been found, each time the first one in what was
left. -/
inductive Passed (word : List Char) : List Char → Prop
  | nil : Passed word []
  | found {before rest : List Char} (first : PrecedesFirst word before) (passed : Passed word rest) :
      Passed word (before ++ word ++ rest)

/-- A run that ends with two occurrences of a word, one right after the other, which are both found when
the run is searched from its start. -/
def IsRepeated (word run : List Char) : Prop :=
  ∃ front, front ≠ [] ∧ Passed word front ∧ run = front ++ word

/-- A word: word characters, and at least one. -/
structure IsWord (word : List Char) : Prop where
  nonempty : word ≠ []
  allWord : ∀ char ∈ word, isWordChar char = true

section Search

variable {word chars before after : List Char}

theorem dropLead?_eq_some_iff {lead rest : List Char} :
    dropLead? lead chars = some rest ↔ chars = lead ++ rest := by
  fun_induction dropLead? lead chars with
  | case1 chars => simp
  | case2 => simp
  | case3 lead char chars ih => simpa using ih
  | case4 expected lead char chars differ => simp [Ne.symm differ]

theorem dropLead?_eq_none_iff {lead : List Char} : dropLead? lead chars = none ↔ ¬lead <+: chars := by
  simp only [Option.eq_none_iff_forall_ne_some, ne_eq, dropLead?_eq_some_iff]
  constructor
  · rintro never ⟨rest, same⟩
    exact never rest same.symm
  · intro never rest same
    exact never ⟨rest, same.symm⟩

theorem breakOn?_word_append (word after : List Char) :
    breakOn? word (word ++ after) = some ([], after) := by
  have found : dropLead? word (word ++ after) = some after := dropLead?_eq_some_iff.mpr rfl
  cases whole : word ++ after with
  | nil =>
      rw [whole] at found
      simp [breakOn?, found]
  | cons char chars =>
      rw [whole] at found
      simp [breakOn?, found]

theorem breakOn?_cons_of_not_isPrefix {char : Char} (notHere : ¬word <+: char :: chars) :
    breakOn? word (char :: chars) =
      (breakOn? word chars).map fun parts => (char :: parts.1, parts.2) := by
  simp [breakOn?, dropLead?_eq_none_iff.mpr notHere]

theorem breakOn?_eq_none_iff : breakOn? word chars = none ↔ ¬word <:+: chars := by
  induction chars with
  | nil => cases word <;> simp [breakOn?, dropLead?]
  | cons char chars ih =>
      by_cases here : word <+: char :: chars
      · rcases here with ⟨after, same⟩
        simp [← same, breakOn?_word_append, (List.prefix_append word after).isInfix]
      · rw [breakOn?_cons_of_not_isPrefix here, Option.map_eq_none_iff, ih, List.infix_cons_iff]
        simp [here]

theorem precedesFirst_nil (word : List Char) : PrecedesFirst word [] := by
  intro front back same
  have lengths := congrArg List.length same
  simp at lengths
  exact List.length_eq_zero_iff.mp (by omega)

theorem precedesFirst_cons_iff {char : Char} :
    PrecedesFirst word (char :: before) ↔
      ¬word <+: char :: (before ++ word) ∧ PrecedesFirst word before := by
  constructor
  · intro first
    constructor
    · rintro ⟨back, same⟩
      have empty := first [] back (by simpa using same.symm)
      have lengths := congrArg List.length same
      simp [empty] at lengths
      omega
    · intro front back same
      exact first (char :: front) back (by simp [same])
  · rintro ⟨notHere, first⟩ front back same
    cases front with
    | nil => exact absurd ⟨back, by simpa using same.symm⟩ notHere
    | cons head front =>
        simp only [List.cons_append, List.cons.injEq] at same
        exact first front back same.2

theorem exists_precedesFirst (occurs : word <:+: chars) :
    ∃ before after, chars = before ++ word ++ after ∧ PrecedesFirst word before := by
  induction chars with
  | nil =>
      obtain rfl := List.infix_nil.mp occurs
      exact ⟨[], [], rfl, precedesFirst_nil []⟩
  | cons char chars ih =>
      by_cases here : word <+: char :: chars
      · rcases here with ⟨after, same⟩
        exact ⟨[], after, same.symm, precedesFirst_nil word⟩
      · rcases ih ((List.infix_cons_iff.mp occurs).resolve_left here) with ⟨before, after, rfl, first⟩
        refine ⟨char :: before, after, rfl, precedesFirst_cons_iff.mpr ⟨?_, first⟩⟩
        intro isPrefix
        exact here (isPrefix.trans ⟨after, by simp⟩)

theorem breakOn?_append (first : PrecedesFirst word before) (after : List Char) :
    breakOn? word (before ++ word ++ after) = some (before, after) := by
  induction before with
  | nil => exact breakOn?_word_append word after
  | cons char before ih =>
      rw [precedesFirst_cons_iff] at first
      have notHere : ¬word <+: char :: (before ++ word ++ after) := by
        intro here
        apply first.1
        apply List.prefix_of_prefix_length_le here
        · exact ⟨after, by simp⟩
        · simp
          omega
      rw [List.cons_append, List.cons_append, breakOn?_cons_of_not_isPrefix notHere, ih first.2]
      rfl

/-- A text is cut at the first occurrence. -/
theorem breakOn?_eq_some_iff :
    breakOn? word chars = some (before, after) ↔
      chars = before ++ word ++ after ∧ PrecedesFirst word before := by
  constructor
  · intro found
    have occurs : word <:+: chars := by
      by_contra never
      simp [breakOn?_eq_none_iff.mpr never] at found
    rcases exists_precedesFirst occurs with ⟨front, back, rfl, first⟩
    rw [breakOn?_append first, Option.some.injEq, Prod.mk.injEq] at found
    rcases found with ⟨rfl, rfl⟩
    exact ⟨rfl, first⟩
  · rintro ⟨rfl, first⟩
    exact breakOn?_append first after

end Search

section Rounds

variable {word replacement chars before after : List Char}

/-- A text with the occurrences of a word replaced that are taken for whole words. -/
def replaceIn (word replacement chars : List Char) : List Char :=
  replaceWordFrom word replacement (chars.length + 1) chars

theorem toList_replaceWord (text word replacement : String) :
    (replaceWord text word replacement).toList =
      replaceIn word.toList replacement.toList text.toList := by
  simp [replaceWord, mapChars, replaceIn]

theorem length_lt_of_breakOn? (nonempty : word ≠ [])
    (found : breakOn? word chars = some (before, after)) : after.length < chars.length := by
  have positive := List.length_pos_iff.mpr nonempty
  rw [(breakOn?_eq_some_iff.mp found).1]
  simp
  omega

/-- The bound on the number of occurrences makes no difference when it is beyond the length. -/
theorem replaceWordFrom_congr (nonempty : word ≠ []) {bound other : Nat}
    (enough : chars.length < bound) (otherEnough : chars.length < other) :
    replaceWordFrom word replacement bound chars = replaceWordFrom word replacement other chars := by
  induction bound generalizing chars other with
  | zero => contradiction
  | succ bound ih =>
      cases other with
      | zero => contradiction
      | succ other =>
          cases found : breakOn? word chars with
          | none => simp only [replaceWordFrom, found]
          | some parts =>
              have shorter := length_lt_of_breakOn? nonempty found
              have sameRest := @ih parts.2 other (by omega) (by omega)
              simp only [replaceWordFrom, found, sameRest]

theorem replaceIn_of_none (notFound : breakOn? word chars = none) :
    replaceIn word replacement chars = chars := by
  simp [replaceIn, replaceWordFrom, notFound]

theorem replaceIn_nil (nonempty : word ≠ []) : replaceIn word replacement [] = [] := by
  apply replaceIn_of_none
  simpa [breakOn?_eq_none_iff] using nonempty

/-- One round of the replacement. -/
theorem replaceIn_of_some (nonempty : word ≠ [])
    (found : breakOn? word chars = some (before, after)) :
    replaceIn word replacement chars =
      before ++
        (if before.getLast?.any isWordChar || after.head?.any isWordChar then word else replacement) ++
        replaceIn word replacement after := by
  have enough := length_lt_of_breakOn? nonempty found
  rw [replaceIn, replaceIn, ← replaceWordFrom_congr nonempty enough (Nat.lt_succ_self after.length)]
  simp only [replaceWordFrom, found]

end Rounds

section Runs

variable {word replacement left right front back : List Char}

/-- Two texts that fall into different runs when one is put after the other. -/
def AreApart (left right : List Char) : Prop :=
  ∀ last ∈ left.getLast?, ∀ first ∈ right.head?, isWordChar last ≠ isWordChar first

/-- After a word that ends a run there is no word character. -/
theorem any_head?_of_areApart (isWord : IsWord word) (apart : AreApart (front ++ word) right) :
    right.head?.any isWordChar = false := by
  rcases word.eq_nil_or_concat with rfl | ⟨init, last, rfl⟩
  · exact absurd rfl isWord.nonempty
  · cases right with
    | nil => rfl
    | cons first right =>
        have differ := apart last (by simp) first (by simp)
        have lastIsWord := isWord.allWord last (by simp)
        simp_all

/-- Before a word that starts a run there is no word character. -/
theorem any_getLast?_of_areApart (isWord : IsWord word) (apart : AreApart left (word ++ back)) :
    left.getLast?.any isWordChar = false := by
  cases word with
  | nil => exact absurd rfl isWord.nonempty
  | cons first word =>
      rcases left.eq_nil_or_concat with rfl | ⟨init, last, rfl⟩
      · rfl
      · have differ := apart last (by simp) first (by simp)
        have firstIsWord := isWord.allWord first (by simp)
        simp_all

/-- An occurrence of a word does not go from one run into the next. -/
theorem occurrence_of_areApart (isWord : IsWord word)
    (apart : AreApart left right) (occurs : left ++ right = front ++ word ++ back) :
    (∃ rest, left = front ++ word ++ rest) ∨
      ∃ rest, front = left ++ rest ∧ right = rest ++ word ++ back := by
  rcases List.append_eq_append_iff.mp occurs with ⟨tail, endsIn, rightEq⟩ | ⟨rest, leftEq, -⟩
  · rcases List.append_eq_append_iff.mp endsIn with ⟨head, leftEq, wordEq⟩ | ⟨rest, frontEq, tailEq⟩
    · cases tail with
      | nil => exact .inl ⟨[], by simp [leftEq, wordEq]⟩
      | cons first tail =>
          rcases head.eq_nil_or_concat with rfl | ⟨init, last, rfl⟩
          · exact .inr ⟨[], by simpa using leftEq.symm, by simp [rightEq, wordEq]⟩
          · -- The word would have a character on each side, and these are of one class.
            have differ := apart last (by simp [leftEq]) first (by simp [rightEq])
            have lastIsWord := isWord.allWord last (by simp [wordEq])
            have firstIsWord := isWord.allWord first (by simp [wordEq])
            exact absurd (lastIsWord.trans firstIsWord.symm) differ
    · exact .inr ⟨rest, frontEq, by rw [rightEq, tailEq]⟩
  · exact .inl ⟨rest, leftEq⟩

theorem breakOn?_append_of_none (isWord : IsWord word)
    (apart : AreApart left right) (notFound : breakOn? word left = none) :
    breakOn? word (left ++ right) =
      (breakOn? word right).map fun parts => (left ++ parts.1, parts.2) := by
  have notInLeft : ∀ before rest, left ≠ before ++ word ++ rest := by
    rintro before rest rfl
    exact breakOn?_eq_none_iff.mp notFound ⟨before, rest, rfl⟩
  cases found : breakOn? word right with
  | none =>
      rw [Option.map_none, breakOn?_eq_none_iff]
      rintro ⟨front, back, occurs⟩
      rcases occurrence_of_areApart isWord apart occurs.symm with ⟨rest, inLeft⟩ | ⟨rest, -, inRight⟩
      · exact notInLeft front rest inLeft
      · exact breakOn?_eq_none_iff.mp found ⟨rest, back, inRight.symm⟩
  | some parts =>
      rcases parts with ⟨before, after⟩
      rcases breakOn?_eq_some_iff.mp found with ⟨rightEq, first⟩
      rw [Option.map_some, breakOn?_eq_some_iff]
      refine ⟨by simp [rightEq], ?_⟩
      intro front back occurs
      have apartToo : AreApart left (before ++ word) := by
        intro last isLast head isHead
        apply apart last isLast head
        rw [rightEq, List.head?_append, Option.mem_def.mp isHead]
        rfl
      rw [List.append_assoc] at occurs
      rcases occurrence_of_areApart isWord apartToo occurs with ⟨rest, inLeft⟩ | ⟨rest, -, inRight⟩
      · exact absurd inLeft (notInLeft front rest)
      · exact first rest back inRight

theorem replaceIn_append_of_none (isWord : IsWord word) (apart : AreApart left right)
    (notFound : breakOn? word left = none) :
    replaceIn word replacement (left ++ right) = left ++ replaceIn word replacement right := by
  have broken := breakOn?_append_of_none isWord apart notFound
  cases found : breakOn? word right with
  | none =>
      rw [found] at broken
      rw [replaceIn_of_none found, replaceIn_of_none broken]
  | some parts =>
      rcases parts with ⟨before, after⟩
      rw [found] at broken
      have sameNeighbour : (left ++ before).getLast?.any isWordChar =
          before.getLast?.any isWordChar := by
        rcases before.eq_nil_or_concat with rfl | ⟨init, last, rfl⟩
        · rw [(breakOn?_eq_some_iff.mp found).1, List.nil_append] at apart
          simpa using any_getLast?_of_areApart isWord apart
        · simp
      rw [replaceIn_of_some isWord.nonempty found, replaceIn_of_some isWord.nonempty broken,
        sameNeighbour]
      simp

/-- Runs are treated one by one. -/
theorem replaceIn_append (isWord : IsWord word) (apart : AreApart left right) :
    replaceIn word replacement (left ++ right) =
      replaceIn word replacement left ++ replaceIn word replacement right := by
  induction length : left.length using Nat.strong_induction_on generalizing left with
  | _ n ih =>
      cases found : breakOn? word left with
      | none => rw [replaceIn_append_of_none isWord apart found, replaceIn_of_none found]
      | some parts =>
          rcases parts with ⟨before, after⟩
          rcases breakOn?_eq_some_iff.mp found with ⟨leftEq, first⟩
          have broken : breakOn? word (left ++ right) = some (before, after ++ right) :=
            breakOn?_eq_some_iff.mpr ⟨by simp [leftEq], first⟩
          have restApart : AreApart after right := by
            intro last isLast
            apply apart last
            rw [leftEq, List.getLast?_append, Option.mem_def.mp isLast]
            rfl
          have sameNeighbour : (after ++ right).head?.any isWordChar =
              after.head?.any isWordChar := by
            cases after with
            | nil =>
                rw [leftEq, List.append_nil] at apart
                simpa using any_head?_of_areApart isWord apart
            | cons => simp
          have shorter := length_lt_of_breakOn? isWord.nonempty found
          rw [replaceIn_of_some isWord.nonempty found, replaceIn_of_some isWord.nonempty broken,
            sameNeighbour, ih after.length (length ▸ shorter) restApart rfl]
          simp

theorem replaceIn_flatten (isWord : IsWord word) {parts : List (List Char)} (filled : [] ∉ parts)
    (apart : parts.IsChain AreApart) :
    replaceIn word replacement parts.flatten = parts.flatMap (replaceIn word replacement) := by
  induction parts with
  | nil => exact replaceIn_nil isWord.nonempty
  | cons part parts ih =>
      have restApart : AreApart part parts.flatten := by
        intro last isLast first isFirst
        cases parts with
        | nil => simp at isFirst
        | cons next parts =>
            cases next with
            | nil => simp at filled
            | cons head next =>
                exact apart.rel last isLast first (by simpa using isFirst)
      simp only [List.mem_cons, not_or] at filled
      rw [List.flatten_cons, replaceIn_append isWord restApart, ih filled.2 apart.tail,
        List.flatMap_cons]

theorem replaceIn_eq_flatMap_runs (isWord : IsWord word) (chars : List Char) :
    replaceIn word replacement chars = (runs chars).flatMap (replaceIn word replacement) := by
  have apart : (runs chars).IsChain AreApart := by
    apply (List.isChain_getLast_head_splitBy _ chars).imp
    rintro run next ⟨runFilled, nextFilled, differ⟩ last isLast first isFirst
    rw [List.getLast?_eq_some_getLast runFilled, Option.mem_some] at isLast
    rw [List.head?_eq_some_head nextFilled, Option.mem_some] at isFirst
    simpa [isLast, isFirst] using differ
  have joined : (runs chars).flatten = chars := List.flatten_splitBy _ chars
  have filled : [] ∉ runs chars := List.nil_notMem_splitBy _ chars
  rw [← replaceIn_flatten isWord filled apart, joined]

/-- The characters of a run are of one class. -/
theorem isWordChar_of_mem_runs {chars run : List Char} (member : run ∈ runs chars) :
    (∀ char ∈ run, isWordChar char = true) ∨ ∀ char ∈ run, isWordChar char = false := by
  have linked := List.isChain_of_mem_splitBy member
  cases run with
  | nil => simp
  | cons first rest =>
      have sameClass : ∀ char ∈ rest, isWordChar char = isWordChar first := by
        clear member
        induction rest generalizing first with
        | nil => simp
        | cons second rest ih =>
            rw [List.isChain_cons_cons, beq_iff_eq] at linked
            simp only [List.forall_mem_cons]
            refine ⟨linked.1.symm, ?_⟩
            intro char member
            exact (ih second linked.2 char member).trans linked.1.symm
      cases firstIsWord : isWordChar first <;> simp_all

theorem isWordChar_of_occurs (isWord : IsWord word) {chars run : List Char} (member : run ∈ runs chars)
    (occurs : word <:+: run) : ∀ char ∈ run, isWordChar char = true := by
  rcases isWordChar_of_mem_runs member with allWord | noneWord
  · exact allWord
  · rcases List.exists_mem_of_ne_nil word isWord.nonempty with ⟨char, inWord⟩
    have noWordChar := noneWord char (occurs.subset inWord)
    simp [isWord.allWord char inWord] at noWordChar

/-- Of the occurrences in a run of word characters only one that ends the run is taken for a whole word. -/
theorem replaceIn_of_passed (isWord : IsWord word) (passed : Passed word front)
    (frontIsWord : ∀ char ∈ front, isWordChar char = true) :
    replaceIn word replacement (front ++ word) = front ++ replacement := by
  induction passed with
  | nil =>
      have found : breakOn? word word = some ([], []) := by
        simpa using breakOn?_word_append word []
      simp [replaceIn_of_some isWord.nonempty found, replaceIn_nil isWord.nonempty]
  | @found before rest first passed ih =>
      have found : breakOn? word (before ++ word ++ rest ++ word) = some (before, rest ++ word) :=
        breakOn?_eq_some_iff.mpr ⟨by simp, first⟩
      have goesOn : (rest ++ word).head?.any isWordChar = true := by
        cases rest with
        | nil =>
            cases word with
            | nil => exact absurd rfl isWord.nonempty
            | cons head word => simpa using isWord.allWord head (by simp)
        | cons head rest => simpa using frontIsWord head (by simp)
      have restIsWord : ∀ char ∈ rest, isWordChar char = true :=
        fun char member => frontIsWord char (by simp [member])
      rw [replaceIn_of_some isWord.nonempty found, goesOn, ih restIsWord]
      simp

theorem replaceIn_of_not_passed {chars : List Char} (isWord : IsWord word)
    (charsAreWord : ∀ char ∈ chars, isWordChar char = true)
    (never : ∀ front, Passed word front → chars ≠ front ++ word) :
    replaceIn word replacement chars = chars := by
  induction length : chars.length using Nat.strong_induction_on generalizing chars with
  | _ n ih =>
      cases found : breakOn? word chars with
      | none => exact replaceIn_of_none found
      | some parts =>
          rcases parts with ⟨before, after⟩
          have shorter := length_lt_of_breakOn? isWord.nonempty found
          rcases breakOn?_eq_some_iff.mp found with ⟨rfl, first⟩
          have afterIsWord : ∀ char ∈ after, isWordChar char = true :=
            fun char member => charsAreWord char (by simp [member])
          have afterUnchanged : replaceIn word replacement after = after := by
            apply ih after.length (length ▸ shorter) afterIsWord _ rfl
            rintro front passed rfl
            exact never _ (.found first passed) (by simp)
          have isPart : (before.getLast?.any isWordChar || after.head?.any isWordChar) = true := by
            cases after with
            | cons head after => simp [afterIsWord head (by simp)]
            | nil =>
                rcases before.eq_nil_or_concat with rfl | ⟨init, last, rfl⟩
                · exact absurd (by simp) (never [] .nil)
                · simp [charsAreWord last (by simp)]
          rw [replaceIn_of_some isWord.nonempty found, isPart, afterUnchanged]
          simp

/-- A run is treated as it should be unless it is repeated, and then its last word is replaced. -/
theorem replaceIn_run_cases (isWord : IsWord word) (replacement : List Char) {chars run : List Char}
    (member : run ∈ runs chars) :
    ¬IsRepeated word run ∧
        replaceIn word replacement run = replaceRun word replacement run ∨
      ∃ front, IsRepeated word run ∧ replaceIn word replacement run = front ++ replacement ∧
        replaceRun word replacement run = front ++ word := by
  by_cases reached : ∃ front, Passed word front ∧ run = front ++ word
  · rcases reached with ⟨front, passed, rfl⟩
    have runIsWord := isWordChar_of_occurs isWord member (List.suffix_append front word).isInfix
    have frontIsWord : ∀ char ∈ front, isWordChar char = true :=
      fun char inFront => runIsWord char (by simp [inFront])
    have replaced : replaceIn word replacement (front ++ word) = front ++ replacement :=
      replaceIn_of_passed isWord passed frontIsWord
    by_cases isWhole : front = []
    · subst isWhole
      refine .inl ⟨?_, by rw [replaced]; simp [replaceRun]⟩
      rintro ⟨other, filled, -, same⟩
      simp at same
      exact filled same
    · refine .inr ⟨front, ⟨front, isWhole, passed, rfl⟩, replaced, ?_⟩
      simp [replaceRun, isWhole]
  · have never : ∀ front, Passed word front → run ≠ front ++ word :=
      fun front passed same => reached ⟨front, passed, same⟩
    refine .inl ⟨fun ⟨front, _, passed, same⟩ => never front passed same, ?_⟩
    have isOther : replaceRun word replacement run = run := if_neg (never [] .nil)
    rw [isOther]
    by_cases occurs : word <:+: run
    · exact replaceIn_of_not_passed isWord (isWordChar_of_occurs isWord member occurs) never
    · exact replaceIn_of_none (breakOn?_eq_none_iff.mpr occurs)

theorem eq_of_flatMap_eq {α β : Type} {items : List α} {f g : α → List β}
    (same : items.flatMap f = items.flatMap g)
    (bounded : ∀ item ∈ items, (f item).length ≤ (g item).length) :
    ∀ item ∈ items, f item = g item := by
  induction items with
  | nil => simp
  | cons item items ih =>
      rw [List.forall_mem_cons] at bounded ⊢
      rw [List.flatMap_cons, List.flatMap_cons] at same
      have restBounded : (items.flatMap f).length ≤ (items.flatMap g).length := by
        rw [List.length_flatMap, List.length_flatMap]
        exact List.sum_le_sum bounded.2
      have lengths := congrArg List.length same
      rw [List.length_append, List.length_append] at lengths
      rcases List.append_inj same (by omega) with ⟨here, rest⟩
      exact ⟨here, ih rest bounded.2⟩

theorem replaceIn_eq_flatMap_replaceRun_iff (isWord : IsWord word) (replacement chars : List Char) :
    replaceIn word replacement chars = (runs chars).flatMap (replaceRun word replacement) ↔
      replacement = word ∨ ∀ run ∈ runs chars, ¬IsRepeated word run := by
  have treated := fun run => @replaceIn_run_cases _ isWord replacement chars run
  rw [replaceIn_eq_flatMap_runs isWord]
  constructor
  · intro same
    -- All repeated runs get longer or all get shorter, so no run makes up for another one.
    have runEqual : ∀ run ∈ runs chars,
        replaceIn word replacement run = replaceRun word replacement run := by
      rcases Nat.le_total replacement.length word.length with shorter | longer
      · apply eq_of_flatMap_eq same
        intro run member
        rcases treated run member with ⟨-, equal⟩ | ⟨front, -, replaced, kept⟩
        · rw [equal]
        · simpa [replaced, kept] using shorter
      · intro run member
        apply Eq.symm
        apply eq_of_flatMap_eq same.symm _ run member
        intro run member
        rcases treated run member with ⟨-, equal⟩ | ⟨front, -, replaced, kept⟩
        · rw [equal]
        · simpa [replaced, kept] using longer
    by_cases isSame : replacement = word
    · exact .inl isSame
    · refine .inr fun run member repeated => isSame ?_
      rcases treated run member with ⟨notRepeated, -⟩ | ⟨front, -, replaced, kept⟩
      · contradiction
      · have equal := runEqual run member
        rw [replaced, kept] at equal
        exact List.append_cancel_left equal
  · intro right
    apply List.flatMap_congr
    intro run member
    rcases treated run member with ⟨-, equal⟩ | ⟨front, repeated, replaced, kept⟩
    · exact equal
    · rcases right with rfl | none
      · rw [replaced, kept]
      · exact absurd repeated (none run member)

end Runs

/-- A word is replaced exactly in the runs that are equal to it if no run is repeated, and otherwise only if
the replacement is the word itself. -/
theorem replaceWord_eq_replaceRuns_iff (text word replacement : String) (nonempty : word ≠ "")
    (isWord : ∀ char ∈ word.toList, isWordChar char = true) :
    replaceWord text word replacement = replaceRuns text word replacement ↔
      replacement = word ∨ ∀ run ∈ runs text.toList, ¬IsRepeated word.toList run := by
  have wordToList : IsWord word.toList := ⟨by simpa using nonempty, isWord⟩
  have listwise := replaceIn_eq_flatMap_replaceRun_iff wordToList replacement.toList text.toList
  rw [← toList_replaceWord, String.toList_inj] at listwise
  rw [← listwise, ← String.toList_inj]
  simp [replaceRuns, mapChars]

/-- The first of two words that make up a run stays, and the second one is replaced. -/
theorem replaceWord_ne_replaceRuns_twice :
    "Self" ≠ "" ∧ (∀ char ∈ "Self".toList, isWordChar char = true) ∧
      "SelfSelf".toList ∈ runs "Box<Self, SelfSelf>".toList ∧
      replaceWord "Box<Self, SelfSelf>" "Self" "P" ≠ replaceRuns "Box<Self, SelfSelf>" "Self" "P" := by
  have isWord : ∀ char ∈ "Self".toList, isWordChar char = true := List.all_eq_true.mp (by decide)
  have isRun : "SelfSelf".toList ∈ runs "Box<Self, SelfSelf>".toList := by decide
  have repeated : IsRepeated "Self".toList "SelfSelf".toList :=
    ⟨"Self".toList, by decide, .found (precedesFirst_nil _) .nil, by decide⟩
  refine ⟨by decide, isWord, isRun, fun same => ?_⟩
  rcases (replaceWord_eq_replaceRuns_iff _ _ _ (by decide) isWord).mp same with isSame | none
  · exact absurd isSame (by decide)
  · exact none _ isRun repeated

/-- Not every word is replaced exactly where it makes up a run. -/
theorem not_forall_replaceWord_eq_replaceRuns :
    ¬∀ text word replacement : String, word ≠ "" →
      (∀ char ∈ word.toList, isWordChar char = true) →
        replaceWord text word replacement = replaceRuns text word replacement := by
  intro always
  have same := always "SelfSelf" "Self" "P" (by decide) (List.all_eq_true.mp (by decide))
  have differ : replaceWord "SelfSelf" "Self" "P" ≠ replaceRuns "SelfSelf" "Self" "P" := by decide
  exact differ same

end SourceLens.Text
