import SourceLens.Proofs.Analysis.Compilation
import SourceLens.Proofs.Query.Overloads
import SourceLens.Proofs.Text.OffsetIndex
import SourceLens.Query.Hover

/-!
# Hovers stand at the cursor

An editor sends a cursor in code units and gets back a range in code units.  In between, the cursor is
rounded down to a byte offset, a token is chosen on one side of it, and the ends of the token are
converted back.  Converting is monotone, so it is enough that the token touches the byte offset; and
converting there and back moves a cursor only out of the middle of a surrogate pair (`Text.caret`).
-/

namespace SourceLens

namespace Text

/-- Whether an offset points between the two code units of a character. -/
def SplitsPair (chars : List Char) (unit : Nat) : Prop :=
  ∃ before char after, chars = before ++ char :: after ∧ unitWidth char = 2 ∧
    unit = unitLength before + 1

/-- Whether a scan of a text meets an offset between the two code units of a character. -/
def isInsidePair : List Char → Nat → Bool
  | [], _ => false
  | char :: chars, unit =>
      if unitWidth char ≤ unit then isInsidePair chars (unit - unitWidth char) else unit == 1

theorem isInsidePair_append (before after : List Char) (unit : Nat) :
    isInsidePair (before ++ after) (unitLength before + unit) = isInsidePair after unit := by
  induction before with
  | nil => simp
  | cons char before ih =>
      rw [List.cons_append, isInsidePair, unitLength_cons, if_pos (by omega), ← ih]
      congr 1
      omega

/-- An offset within a character is in the middle of a pair, unless it is the start of the character. -/
theorem isInsidePair_of_within {before after : List Char} {char : Char} {unit : Nat}
    (reached : unitLength before ≤ unit) (within : unit < unitLength before + unitWidth char) :
    isInsidePair (before ++ char :: after) unit = (unit == unitLength before + 1) := by
  obtain ⟨inside, rfl⟩ := Nat.exists_eq_add_of_le reached
  rw [isInsidePair_append, isInsidePair, if_neg (by omega)]
  simp

theorem isInsidePair_of_unitLength_le {chars : List Char} {unit : Nat}
    (past : unitLength chars ≤ unit) : isInsidePair chars unit = false := by
  obtain ⟨beyond, rfl⟩ := Nat.exists_eq_add_of_le past
  have atEnd := isInsidePair_append chars [] beyond
  rwa [List.append_nil] at atEnd

theorem unitWidth_le_two (char : Char) : unitWidth char ≤ 2 := by
  unfold unitWidth
  split <;> omega

theorem splitsPair_iff {chars : List Char} {unit : Nat} :
    SplitsPair chars unit ↔ isInsidePair chars unit = true := by
  constructor
  · rintro ⟨before, char, after, rfl, isPair, rfl⟩
    rw [isInsidePair_of_within (by omega) (by omega), beq_self_eq_true]
  · intro inside
    by_cases inText : unit < unitLength chars
    · rcases OffsetIndex.exists_within inText with ⟨before, char, after, rfl, reached, within⟩
      have within : unit < unitLength before + unitWidth char := within
      rw [isInsidePair_of_within reached within, beq_iff_eq] at inside
      have narrow := unitWidth_le_two char
      exact ⟨before, char, after, rfl, by omega, inside⟩
    · rw [isInsidePair_of_unitLength_le (Nat.le_of_not_lt inText)] at inside
      cases inside

instance (chars : List Char) (unit : Nat) : Decidable (SplitsPair chars unit) :=
  decidable_of_iff _ splitsPair_iff.symm

/-- The start of a surrogate pair for an offset between its two units, and any other offset itself. -/
def caret (chars : List Char) (unit : Nat) : Nat :=
  if SplitsPair chars unit then unit - 1 else unit

theorem caret_of_within {before after : List Char} {char : Char} {unit : Nat}
    (reached : unitLength before ≤ unit) (within : unit < unitLength before + unitWidth char) :
    caret (before ++ char :: after) unit = unitLength before := by
  have splits_iff : SplitsPair (before ++ char :: after) unit ↔ unit = unitLength before + 1 := by
    rw [splitsPair_iff, isInsidePair_of_within reached within, beq_iff_eq]
  have narrow := unitWidth_le_two char
  rw [caret]
  split
  next splits =>
    rw [splits_iff] at splits
    omega
  next whole =>
    rw [splits_iff] at whole
    omega

theorem caret_unitLength (chars : List Char) : caret chars (unitLength chars) = unitLength chars := by
  have whole : ¬SplitsPair chars (unitLength chars) := by
    simp [splitsPair_iff, isInsidePair_of_unitLength_le]
  rw [caret, if_neg whole]

end Text

/-- Converting a cursor to a byte offset and back moves it to the start of a surrogate pair at most. -/
theorem OffsetIndex.toUnit_toByte {text : String} {unit : Nat}
    (inText : unit ≤ Text.unitLength text.toList) :
    (ofText text).toUnit ((ofText text).toByte unit) = Text.caret text.toList unit := by
  rw [ofText]
  rcases Nat.lt_or_eq_of_le inText with inside | atEnd
  · rcases exists_within inside with ⟨before, char, after, textEq, reached, within⟩
    have there : (ofChars text.toList).toByte unit = Text.byteLength before := by
      rw [toByte_ofChars, textEq]
      exact toUnit_indexBy_of_within counts_bytes_units.symm reached within
    rw [there, textEq, toUnit_byteLength, Text.caret_of_within reached within]
  · have there : (ofChars text.toList).toByte unit = Text.byteLength text.toList := by
      simp [toByte, ofChars, atEnd]
    rw [there, atEnd, Text.caret_unitLength]
    simp [toUnit, ofChars]

theorem OffsetIndex.monotone_toUnit (text : String) : Monotone (ofText text).toUnit := by
  rw [ofText, ofChars_eq_indexBy]
  exact monotone_toUnit_indexBy counts_bytes_units text.toList

section Touching

variable {tree : Tree} {offset : Nat} {token : NodeId}

theorem Tree.touches_of_tokenAt (found : tree.tokenAt offset = some token) :
    token ∈ tree.tokens ∧ (tree.span token).touches offset = true := by
  rcases Option.filter_eq_some_iff.mp found with ⟨listed, contains⟩
  refine ⟨Array.mem_of_getElem? listed, ?_⟩
  simp only [Span.contains, Span.touches, Bool.and_eq_true, decide_eq_true_eq] at contains ⊢
  omega

/-- A token that ends at an offset also begins at or before it, if it is not inverted. -/
theorem Tree.touches_of_tokenEndingAt
    (upright : ∀ id < tree.nodes.size, (tree.span id).start ≤ (tree.span id).stop)
    (found : tree.tokenEndingAt offset = some token) :
    token ∈ tree.tokens ∧ (tree.span token).touches offset = true := by
  rcases Option.filter_eq_some_iff.mp found with ⟨listed, ends⟩
  have isToken := Array.mem_of_getElem? listed
  have inOrder := upright token (mem_tokens_iff.mp isToken).1
  refine ⟨isToken, ?_⟩
  simp only [Span.touches, Bool.and_eq_true, beq_iff_eq, decide_eq_true_eq] at ends ⊢
  omega

/-- Whichever side of the cursor wins, the token touches the cursor. -/
theorem Tree.touches_of_tokenTouching
    (upright : ∀ id < tree.nodes.size, (tree.span id).start ≤ (tree.span id).stop)
    (found : tree.tokenTouching offset = some token) :
    token ∈ tree.tokens ∧ (tree.span token).touches offset = true := by
  unfold tokenTouching at found
  split at found
  next left right leftEq rightEq =>
    split at found
    · cases found
      exact touches_of_tokenAt rightEq
    · cases found
      exact touches_of_tokenEndingAt upright leftEq
  next =>
    rcases Option.or_eq_some_iff.mp found with onRight | ⟨-, onLeft⟩
    · exact touches_of_tokenAt onRight
    · exact touches_of_tokenEndingAt upright onLeft

end Touching

namespace Snapshot

theorem exists_token_of_hover {snapshot : Snapshot} {offset : Nat} {isCancelled : Bool}
    {info : HoverInfo} (shown : snapshot.hover offset isCancelled = .ok (some info)) :
    ∃ token, snapshot.tree.tokenTouching offset = some token ∧
      info.range = snapshot.units (snapshot.tree.span token) := by
  rcases bind_eq_ok.mp shown with ⟨-, -, answered⟩
  rcases Option.bind_eq_some_iff.mp (Except.ok.inj answered) with ⟨token, touching, shown⟩
  refine ⟨token, touching, ?_⟩
  simp only [hoverToken?, Option.bind_eq_bind, Option.bind_eq_some_iff, Option.pure_def,
    Option.some.injEq] at shown
  rcases shown with ⟨symbol, -, declaration, -, rfl⟩
  rfl

/-- For every source, every tree without inverted spans and every semantics: what a hover shows at a
cursor is about a token that touches the cursor, and the range that it reports is the range of that token
and holds the cursor.  A cursor between the two units of a surrogate pair counts as standing before the
pair. -/
theorem hover_range_holds_caret {source : String} {tree : Tree} {semantics : Semantics}
    {output : OutputKind} {withDiagnostics isCancelled : Bool} {snapshot : Snapshot}
    (built : build source tree semantics output withDiagnostics isCancelled = .ok snapshot)
    (upright : ∀ id < tree.nodes.size, (tree.span id).start ≤ (tree.span id).stop)
    {position : Nat} (inText : position ≤ Text.unitLength source.toList) {isCancelled' : Bool}
    {info : HoverInfo}
    (shown : snapshot.hover (snapshot.offsets.toByte position) isCancelled' = .ok (some info)) :
    (∃ token ∈ tree.tokens, (tree.span token).touches (snapshot.offsets.toByte position) = true ∧
      info.range = snapshot.units (tree.span token)) ∧
    info.range.1 ≤ Text.caret source.toList position ∧
    Text.caret source.toList position ≤ info.range.2 := by
  rcases eq_of_build built with ⟨diagnostics, rfl⟩
  rcases exists_token_of_hover shown with ⟨token, touching, rangeEq⟩
  rcases Tree.touches_of_tokenTouching upright touching with ⟨isToken, touches⟩
  refine ⟨⟨token, isToken, touches, rangeEq⟩, ?_⟩
  simp only [Span.touches, Bool.and_eq_true, decide_eq_true_eq] at touches
  rw [rangeEq, ← OffsetIndex.toUnit_toByte inText]
  exact ⟨OffsetIndex.monotone_toUnit source touches.1, OffsetIndex.monotone_toUnit source touches.2⟩

/-- The answers for a source with a variable whose name is a surrogate pair. -/
def pairSemantics : Semantics :=
  { overloadedSemantics with bound := fun _ => some { id := 0, name := "😀", kind := .variable } }

/-- The tokens `a` and `😀` of the source `a😀`. -/
def pairTree : Tree :=
  let enter (kind : NodeKind) (start stop : Nat) : Tree.Event :=
    .enter ⟨kind, "", ⟨start, stop⟩, none, false⟩
  .ofEvents [enter .root 0 5, enter .identifier 0 1, .exit, enter .identifier 1 5, .exit, .exit]

/-- In the middle of the pair, the range of the whole pair is shown, and it starts at the cursor. -/
theorem hover_range_holds_caret_pair :
    ∃ snapshot info,
      build "a😀" pairTree pairSemantics .library false false = .ok snapshot ∧
      snapshot.hover (snapshot.offsets.toByte 2) false = .ok (some info) ∧
      Text.caret "a😀".toList 2 = 1 ∧ info.range = (1, 3) ∧
      info.range.1 ≤ Text.caret "a😀".toList 2 ∧ Text.caret "a😀".toList 2 ≤ info.range.2 := by
  have shown : (⟨"a😀", .ofText "a😀", pairTree, pairSemantics, none, .library⟩ : Snapshot).hover
      ((OffsetIndex.ofText "a😀").toByte 2) false =
        .ok (some ⟨"```\nlet mut 😀\n```", (1, 3)⟩) := by decide +kernel
  have holds := hover_range_holds_caret
    (rfl : build "a😀" pairTree pairSemantics .library false false = _) (by decide +kernel)
    (by decide : 2 ≤ Text.unitLength "a😀".toList) shown
  exact ⟨_, _, rfl, shown, by decide, rfl, holds.2⟩

end Snapshot

end SourceLens
