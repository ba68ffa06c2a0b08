import SourceLens.Proofs.Layout.Lines

/-!
# Literals in a layout

The literals of a text are the characters that a scan reads inside strings and raw strings, line
breaks included.  Indentations are put before code only, so a layout puts nothing into a literal and
moves nothing inside it.  But the characters that are taken off the end of a line belong to a
literal when the line ends inside one.  These are the only characters that a literal loses: it is
kept exactly when no line that ends inside a literal ends with characters that are taken off.
-/

namespace SourceLens.Layout

open Text

/-- Whether characters are read as parts of a literal. -/
def ScanState.isLiteral : ScanState → Bool
  | .string | .rawString _ => true
  | .code | .comment _ => false

/-- The characters that a scan reads inside literals. -/
def literalFrom (state : ScanState) (previous : Option Char) : List Char → List Char
  | [] => []
  | char :: rest =>
      match scanStep state previous char rest with
      | .finish => []
      | .proceed next _ skipped =>
          let read := char :: rest.take skipped
          (if state.isLiteral then read else []) ++
            literalFrom next read.getLast? (rest.drop skipped)
termination_by chars => chars.length
decreasing_by simp only [List.length_drop, List.length_cons]; omega

/-- What a line has of literals: its break too, if it ends inside one. -/
def LineStart.literal (start : LineStart) (line : List Char) : List Char :=
  literalFrom start.state none (dropLineBreak line) ++
    if (start.next line).state.isLiteral then lineBreak line else []

/-- What lines have of literals. -/
def literalsFrom : LineStart → List (List Char) → List Char
  | _, [] => []
  | start, line :: lines => start.literal line ++ literalsFrom (start.next line) lines

/-- What a text has of literals. -/
def literals (text : List Char) : List Char :=
  literalsFrom .first (linesWithEnds text)

section Scan

theorem literalFrom_nil (state : ScanState) (previous : Option Char) :
    literalFrom state previous [] = [] := by
  rw [literalFrom]

theorem literalFrom_cons_of_finish {state : ScanState} {previous : Option Char} {char : Char}
    {rest : List Char} (stepEq : scanStep state previous char rest = .finish) :
    literalFrom state previous (char :: rest) = [] := by
  rw [literalFrom, stepEq]

theorem literalFrom_cons_of_proceed {state next : ScanState} {previous : Option Char} {char : Char}
    {rest : List Char} {change : Int} {skipped : Nat}
    (stepEq : scanStep state previous char rest = .proceed next change skipped) :
    literalFrom state previous (char :: rest) =
      (if state.isLiteral then char :: rest.take skipped else []) ++
        literalFrom next (char :: rest.take skipped).getLast? (rest.drop skipped) := by
  rw [literalFrom, stepEq]

theorem literalLength_le (rest : List Char) : literalLength rest ≤ rest.length := by
  rw [literalLength_eq]
  split
  next escape =>
    cases found : (rest.drop 2).findIdx? (· == '\'') with
    | none => simp
    | some index =>
        have inside := (List.findIdx?_eq_some_iff_findIdx_eq.mp found).1
        simp at inside ⊢
        omega
  next =>
    split
    next quote =>
      have inside := (List.getElem?_eq_some_iff.mp quote).1
      omega
    next => simp

theorem one_le_length_of_head? {rest : List Char} {char : Char} (isNext : rest.head? = some char) :
    1 ≤ rest.length := by
  cases rest with
  | nil => cases isNext
  | cons _ _ => simp

theorem codeStep_skipped {previous : Option Char} {char : Char} {rest : List Char}
    {next : ScanState} {change : Int} {skipped : Nat}
    (stepEq : codeStep previous char rest = .proceed next change skipped) :
    skipped ≤ rest.length := by
  unfold codeStep at stepEq
  split at stepEq
  case h_1 =>
    split at stepEq
    case h_1 => cases stepEq
    case h_2 isStar =>
      cases stepEq
      exact one_le_length_of_head? isStar
    case h_3 =>
      cases stepEq
      simp
  case h_3 =>
    split at stepEq
    next opens =>
      cases stepEq
      simp only [opensRawString, Bool.and_eq_true, beq_iff_eq] at opens
      exact (List.getElem?_eq_some_iff.mp opens.2).1
    next =>
      cases stepEq
      simp
  case h_4 =>
    cases stepEq
    exact literalLength_le rest
  all_goals
    cases stepEq
    simp

theorem rawStringStep_skipped {marks : Nat} {char : Char} {rest : List Char}
    {next : ScanState} {change : Int} {skipped : Nat}
    (stepEq : rawStringStep marks char rest = .proceed next change skipped) :
    skipped ≤ rest.length := by
  unfold rawStringStep at stepEq
  split at stepEq
  next closes =>
    cases stepEq
    simp only [Bool.and_eq_true, beq_iff_eq] at closes
    have found := List.length_filter_le (· == '#') (rest.take marks)
    rw [closes.2, List.length_take] at found
    omega
  next =>
    cases stepEq
    simp

theorem commentStep_skipped {depth : Nat} {char : Char} {rest : List Char}
    {next : ScanState} {change : Int} {skipped : Nat}
    (stepEq : commentStep depth char rest = .proceed next change skipped) :
    skipped ≤ rest.length := by
  unfold commentStep at stepEq
  split at stepEq
  case h_1 isSlash =>
    cases stepEq
    exact one_le_length_of_head? isSlash
  case h_2 isStar =>
    cases stepEq
    exact one_le_length_of_head? isStar
  case h_3 =>
    cases stepEq
    simp

/-- A step takes no more characters than there are, save for an escape at the end of a string, which
stays in the string. -/
theorem scanStep_skipped {state next : ScanState} {previous : Option Char} {char : Char}
    {rest : List Char} {change : Int} {skipped : Nat}
    (stepEq : scanStep state previous char rest = .proceed next change skipped) :
    skipped ≤ rest.length ∨ state = .string ∧ next = .string := by
  cases state with
  | code => exact .inl (codeStep_skipped stepEq)
  | string =>
      simp only [scanStep, stringStep] at stepEq
      split at stepEq
      case h_1 =>
        cases stepEq
        exact .inr ⟨rfl, rfl⟩
      all_goals
        cases stepEq
        simp
  | rawString marks => exact .inl (rawStringStep_skipped stepEq)
  | comment depth => exact .inl (commentStep_skipped stepEq)

/-- Only code has a rest of the line that does not matter. -/
theorem eq_code_of_scanStep_finish {state : ScanState} {previous : Option Char} {char : Char}
    {rest : List Char} (stepEq : scanStep state previous char rest = .finish) : state = .code := by
  cases state with
  | code => rfl
  | string =>
      simp only [scanStep, stringStep] at stepEq
      split at stepEq <;> cases stepEq
  | rawString marks =>
      simp only [scanStep, rawStringStep] at stepEq
      split at stepEq <;> cases stepEq
  | comment depth =>
      simp only [scanStep, commentStep] at stepEq
      split at stepEq <;> cases stepEq

theorem literalFrom_blanks {blanks : List Char} (blank : ∀ char ∈ blanks, isBlank char = true)
    (state : ScanState) (previous : Option Char) :
    literalFrom state previous blanks = if state.isLiteral then blanks else [] := by
  induction blanks generalizing previous with
  | nil => simp [literalFrom_nil]
  | cons char blanks ih =>
      rw [List.forall_mem_cons] at blank
      rw [literalFrom_cons_of_proceed (scanStep_of_isBlank blank.1 state previous blanks)]
      by_cases inside : state.isLiteral = true <;> simp [inside, ih blank.2]

/-- Trailing blanks are read inside a literal exactly when the line ends in one. -/
theorem literalFrom_append_blanks {blanks : List Char}
    (blank : ∀ char ∈ blanks, isBlank char = true) (state : ScanState) (previous : Option Char)
    (chars : List Char) :
    literalFrom state previous (chars ++ blanks) =
      literalFrom state previous chars ++
        if (scanFrom state previous chars).1.isLiteral then blanks else [] := by
  fun_induction scanFrom state previous chars with
  | case1 state previous => simp [literalFrom_nil, literalFrom_blanks blank]
  | case2 state previous char rest stepEq =>
      have inCode := eq_code_of_scanStep_finish stepEq
      rw [literalFrom_cons_of_finish stepEq]
      rw [← scanStep_append_blanks blank] at stepEq
      rw [List.cons_append, literalFrom_cons_of_finish stepEq, inCode]
      rfl
  | case3 state previous char rest next change skipped stepEq last final further laterEq ih =>
      rw [literalFrom_cons_of_proceed stepEq]
      have stepEq' := stepEq
      rw [← scanStep_append_blanks blank] at stepEq'
      rw [List.cons_append, literalFrom_cons_of_proceed stepEq']
      by_cases within : skipped ≤ rest.length
      · rw [List.take_append_of_le_length within, List.drop_append_of_le_length within, ih, laterEq,
          List.append_assoc]
      · -- An escape ends the line and takes the first of the blanks, inside the string.
        rcases scanStep_skipped stepEq with inside | ⟨rfl, rfl⟩
        · exact absurd inside within
        · have nothingLeft : rest.drop skipped = [] := List.drop_eq_nil_of_le (by omega)
          have allTaken : rest.take skipped = rest := List.take_of_length_le (by omega)
          have blankLater : ∀ char ∈ blanks.drop (skipped - rest.length), isBlank char = true :=
            fun char member => blank char (List.mem_of_mem_drop member)
          rw [nothingLeft, scanFrom_nil] at laterEq
          rw [← (Prod.mk.inj laterEq).1, List.take_append, List.drop_append, nothingLeft, allTaken,
            List.nil_append, literalFrom_nil, literalFrom_blanks blankLater]
          simp [ScanState.isLiteral]

theorem literalFrom_congr_previous {previous previous' : Option Char}
    (sameKind : previous.any isWordChar = previous'.any isWordChar) (state : ScanState)
    (chars : List Char) : literalFrom state previous chars = literalFrom state previous' chars := by
  cases chars with
  | nil => rw [literalFrom_nil, literalFrom_nil]
  | cons char rest => rw [literalFrom, literalFrom, scanStep_congr_previous sameKind]

/-- Leading blanks of code are not read inside literals. -/
theorem literalFrom_blanks_append {blanks : List Char}
    (blank : ∀ char ∈ blanks, isBlank char = true) {previous : Option Char}
    (noWord : previous.any isWordChar = false) (chars : List Char) :
    literalFrom .code previous (blanks ++ chars) = literalFrom .code none chars := by
  induction blanks generalizing previous with
  | nil => exact literalFrom_congr_previous noWord .code chars
  | cons char blanks ih =>
      rw [List.forall_mem_cons] at blank
      rw [List.cons_append, literalFrom_cons_of_proceed (scanStep_of_isBlank blank.1 _ _ _)]
      simp [ScanState.isLiteral, ih blank.2, isWordChar_of_isBlank blank.1]

end Scan

section Lines

variable {width : Nat} {start : LineStart} {line laid body : List Char}

theorem literalFrom_laidBody :
    literalFrom start.state none (laidBody width start body) =
      literalFrom start.state none (kept start.state body) := by
  by_cases inCode : start.state = .code
  · rw [laidBody, inCode, literalFrom_blanks_append isBlank_of_mem_replicate rfl]
  · rw [laidBody_of_ne_code inCode]

theorem literal_laid (laidEq : layLine? width start line = some laid)
    (noFeed : '\n' ∉ dropLineBreak line) :
    start.literal laid = literalFrom start.state none (kept start.state (dropLineBreak line)) ++
      if (start.next line).state.isLiteral then lineBreak line else [] := by
  rcases exists_dropLineBreak_laid laidEq noFeed with ⟨returns, areReturns, bodyEq, breakEq⟩
  have sameLiteral : literalFrom start.state none (laidBody width start (dropLineBreak line)) =
      literalFrom start.state none (kept start.state (dropLineBreak line)) := literalFrom_laidBody
  -- A carriage return that the break takes is read inside a literal exactly when the break is.
  rw [← bodyEq, literalFrom_append_blanks (isBlank_of_areReturns areReturns)] at sameLiteral
  change _ ++ (if (start.next laid).state.isLiteral then returns else []) = _ at sameLiteral
  rw [LineStart.literal, breakEq, ← sameLiteral, next_laid laidEq noFeed]
  split <;> simp

/-- Whether a line that ends inside a literal ends with a character that is not taken off. -/
def EndsKept (start : LineStart) (line : List Char) : Prop :=
  (start.next line).state.isLiteral = true →
    ∀ char, (dropLineBreak line).getLast? = some char → isTrailing start.state char = false

section Trail

variable {state : ScanState} {lead trail : List Char}

theorem TakenOff.literalFrom_eq (takenOff : TakenOff state body lead trail) :
    literalFrom state none body = literalFrom state none (kept state body) ++
      if (scan state body).1.isLiteral then trail else [] := by
  have withTrail := literalFrom_append_blanks takenOff.blankTrail state none (kept state body)
  rw [← scan, scan_kept] at withTrail
  rw [← withTrail]
  have bodyLiteral := congrArg (literalFrom state none) takenOff.bodyEq
  by_cases inCode : state = .code
  · subst inCode
    rw [bodyLiteral, literalFrom_blanks_append takenOff.blankLead rfl]
  · rw [bodyLiteral, takenOff.noLead inCode, List.nil_append]

theorem TakenOff.trail_eq_nil_iff (takenOff : TakenOff state body lead trail)
    (endsInside : (scan state body).1.isLiteral = true) :
    trail = [] ↔ ∀ char, body.getLast? = some char → isTrailing state char = false := by
  have bodyEq := takenOff.bodyEq
  constructor
  · rintro rfl char isLast
    rw [List.append_nil] at bodyEq
    by_cases nothingKept : kept state body = []
    · rw [nothingKept, List.append_nil] at bodyEq
      by_cases inCode : state = .code
      · -- A blank line of code does not end inside a literal.
        rw [bodyEq, scan, scanFrom_blanks takenOff.blankLead, inCode] at endsInside
        cases endsInside
      · rw [bodyEq, takenOff.noLead inCode] at isLast
        cases isLast
    · rw [bodyEq, List.getLast?_append_of_ne_nil _ nothingKept] at isLast
      exact getLast?_dropTrailing isLast
  · intro keptEnd
    by_contra someTrail
    rcases List.eq_nil_or_concat trail with nothing | ⟨front, char, rfl⟩
    · exact someTrail nothing
    · have isTaken := takenOff.trailing char (by simp)
      rw [keptEnd char (by rw [bodyEq]; simp)] at isTaken
      cases isTaken

end Trail

/-- A literal loses what is taken off the end of a line that ends inside it, and nothing else. -/
theorem exists_literal_eq_append (laidEq : layLine? width start line = some laid)
    (noFeed : '\n' ∉ dropLineBreak line) :
    ∃ front trail ending, start.literal line = front ++ (trail ++ ending) ∧
      start.literal laid = front ++ ending ∧ (trail = [] ↔ EndsKept start line) := by
  rcases exists_takenOff start.state (dropLineBreak line) with ⟨lead, trail, takenOff⟩
  have lineLiteral := takenOff.literalFrom_eq
  have laidLiteral := literal_laid laidEq noFeed
  change _ = _ ++ if (start.next line).state.isLiteral then trail else [] at lineLiteral
  rw [LineStart.literal, lineLiteral]
  refine ⟨literalFrom start.state none (kept start.state (dropLineBreak line)), ?_⟩
  by_cases endsInside : (start.next line).state.isLiteral = true
  · refine ⟨trail, lineBreak line, by simp [endsInside],
      by simpa [endsInside] using laidLiteral, ?_⟩
    rw [takenOff.trail_eq_nil_iff endsInside]
    simp [EndsKept, endsInside]
  · refine ⟨[], [], by simp [endsInside], by simpa [endsInside] using laidLiteral, ?_⟩
    simp [EndsKept, endsInside]

end Lines

section Runs

variable {width offset : Nat} {start : LineStart} {lines laid : List (List Char)}

theorem append_eq_append_iff_of_sublist {first first' second second' : List Char}
    (firstSublist : first'.Sublist first) (secondSublist : second'.Sublist second) :
    first' ++ second' = first ++ second ↔ first' = first ∧ second' = second := by
  constructor
  · intro same
    have sameLength := congrArg List.length same
    have shorterFirst := firstSublist.length_le
    have shorterSecond := secondSublist.length_le
    rw [List.length_append, List.length_append] at sameLength
    exact List.append_inj same (by omega)
  · rintro ⟨rfl, rfl⟩
    rfl

/-- Laid out lines have no more of literals than the lines, and as much exactly when every line that
ends inside a literal keeps its end. -/
theorem literalsFrom_laid (noFeed : ∀ line ∈ lines, '\n' ∉ dropLineBreak line)
    (laidEq : layLines? none width offset start lines = some laid) :
    (literalsFrom start laid).Sublist (literalsFrom start lines) ∧
      (literalsFrom start laid = literalsFrom start lines ↔
        ∀ index line, lines[index]? = some line →
          EndsKept (start.after (lines.take index)) line) := by
  induction lines generalizing offset start laid with
  | nil =>
      cases laidEq
      simp
  | cons line lines ih =>
      rcases layLines?_cons_eq_some_iff.mp laidEq with ⟨first, rest, rfl, firstEq, restEq⟩
      rw [List.forall_mem_cons] at noFeed
      rcases ih noFeed.2 restEq with ⟨laterSublist, laterIff⟩
      rcases exists_literal_eq_append firstEq noFeed.1 with
        ⟨front, trail, ending, lineLiteral, laidLiteral, keptIff⟩
      have lineSublist : (start.literal first).Sublist (start.literal line) := by
        rw [lineLiteral, laidLiteral]
        exact (List.sublist_append_right trail ending).append_left front
      have lineIff : start.literal first = start.literal line ↔ EndsKept start line := by
        rw [lineLiteral, laidLiteral, ← keptIff]
        simp
      rw [literalsFrom, literalsFrom, next_laid firstEq noFeed.1]
      refine ⟨lineSublist.append laterSublist, ?_⟩
      rw [append_eq_append_iff_of_sublist lineSublist laterSublist, lineIff, laterIff]
      constructor
      · rintro ⟨lineKept, laterKept⟩ index other isLine
        cases index with
        | zero =>
            cases isLine
            exact lineKept
        | succ index => exact laterKept index other isLine
      · intro allKept
        exact ⟨allKept 0 line rfl, fun index other isLine => allKept (index + 1) other isLine⟩

theorem literalsFrom_filter (areLines : AreLines lines) :
    literalsFrom start (lines.filter fun line => !line.isEmpty) = literalsFrom start lines := by
  induction areLines generalizing start with
  | nil => rfl
  | @last body noFeed =>
      cases body with
      | nil =>
          have nothing : start.literal [] = [] := by
            simp [LineStart.literal, lineBreak, dropLineBreak, dropSuffix?, literalFrom_nil]
          simp [literalsFrom, nothing]
      | cons char body => rfl
  | @cons body lines noFeed later ih =>
      rw [List.filter_cons_of_pos (by simp), literalsFrom, literalsFrom, ih]

end Runs

/-- A layout puts nothing into a literal, and it keeps all literals exactly when no line that ends
inside a literal ends with characters that are taken off: blanks if the line starts in code, spaces
and tabs if it does not. -/
theorem literals_reindent?_eq_iff {source laid : List Char} {width : Nat}
    (laidEq : reindent? source none width = some laid) :
    (literals laid).Sublist (literals source) ∧
      (literals laid = literals source ↔
        ∀ index line, (linesWithEnds source)[index]? = some line →
          EndsKept (LineStart.first.after ((linesWithEnds source).take index)) line) := by
  rcases reindent?_eq_some_iff.mp laidEq with ⟨lines, linesEq, rfl⟩
  have areLines := areLines_linesWithEnds source
  have areLaid := areLines_layLines? areLines linesEq
  rw [literals, areLaid.linesWithEnds_flatten, literalsFrom_filter areLaid]
  exact literalsFrom_laid areLines.noFeed linesEq

/-- A string over two lines, with blanks only behind its end, is kept. -/
theorem literals_reindent?_of_kept_ends :
    reindent? " f(\"a\n b\" ) ".toList none 4 = some "f(\"a\n b\" )".toList ∧
    literals "f(\"a\n b\" )".toList = literals " f(\"a\n b\" ) ".toList := by
  have laidEq : reindent? " f(\"a\n b\" ) ".toList none 4 = some "f(\"a\n b\" )".toList := by
    decide +kernel
  have linesEq : linesWithEnds " f(\"a\n b\" ) ".toList =
      [" f(\"a\n".toList, " b\" ) ".toList] := by
    decide
  have endsOutside : ((LineStart.first.after [" f(\"a\n".toList]).next " b\" ) ".toList).state =
      .code := by
    decide +kernel
  refine ⟨laidEq, (literals_reindent?_eq_iff laidEq).2.mpr ?_⟩
  rw [linesEq]
  rintro (_ | _ | index) line isLine
  · cases isLine
    intro _ char isLast
    cases isLast
    decide
  · cases isLine
    intro inside
    rw [Nat.zero_add, List.take_succ_cons, List.take_zero, endsOutside] at inside
    cases inside
  · simp at isLine

/-- The second line starts and ends inside the string, and the string loses the space at its end. -/
theorem literals_reindent?_ne_of_trailing_space :
    ∃ laid, reindent? "let s = \"a\nb \nc\";".toList none 4 = some laid ∧
      literals laid ≠ literals "let s = \"a\nb \nc\";".toList := by
  refine ⟨"let s = \"a\nb\nc\";".toList, by decide +kernel, ?_⟩
  have laidLiterals : literals "let s = \"a\nb\nc\";".toList = "a\nb\nc\"".toList := by
    decide +kernel
  have sourceLiterals : literals "let s = \"a\nb \nc\";".toList = "a\nb \nc\"".toList := by
    decide +kernel
  rw [laidLiterals, sourceLiterals]
  decide

end SourceLens.Layout
