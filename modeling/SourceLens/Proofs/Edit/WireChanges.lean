import SourceLens.Proofs.Edit.Application
import SourceLens.Proofs.Text.OffsetIndex
import SourceLens.Query.Action

/-!
# Changes as an editor carries them out

An editor holds a text as UTF-16 code units and carries out changes from the last one to the first,
so that the offsets of the changes that are left stay valid.  For edits that `normalize` accepts and
whose ends are boundaries, the changes made from them are in order and inside the text, and the
editor ends up with the encoding of the text that `applied?` computes from bytes.
-/

namespace SourceLens

namespace Text

/-- The UTF-16 code units of a character: itself, or a surrogate pair. -/
def charUnits (char : Char) : List UInt16 :=
  if char.toNat < 0x10000 then [char.toNat.toUInt16]
  else
    [(0xD800 + (char.toNat - 0x10000) / 0x400).toUInt16,
      (0xDC00 + (char.toNat - 0x10000) % 0x400).toUInt16]

/-- The UTF-16 encoding of a text. -/
def codeUnits (chars : List Char) : List UInt16 :=
  chars.flatMap charUnits

example : codeUnits ['a', 'é', '😀'] = [0x61, 0xE9, 0xD83D, 0xDE00] := by decide

@[simp]
theorem codeUnits_append (left right : List Char) :
    codeUnits (left ++ right) = codeUnits left ++ codeUnits right :=
  List.flatMap_append

theorem length_charUnits (char : Char) : (charUnits char).length = unitWidth char := by
  simp only [charUnits, unitWidth]
  split <;> rfl

@[simp]
theorem length_codeUnits (chars : List Char) : (codeUnits chars).length = unitLength chars := by
  induction chars with
  | nil => rfl
  | cons char chars ih =>
      rw [unitLength_cons, ← ih, ← length_charUnits]
      simp [codeUnits]

end Text

namespace Change

/-- The code units of a text in which the range of a change has been replaced. -/
def replaceIn (change : Change) (units : List UInt16) : List UInt16 :=
  units.take change.range.1 ++ Text.codeUnits change.newText.toList ++ units.drop change.range.2

/-- The code units of a text on which changes have been carried out, the last one first. -/
def carryOut (changes : List Change) (units : List UInt16) : List UInt16 :=
  changes.foldr replaceIn units

/-- The range between the code units of two beginnings is replaced without touching what stands
before and behind it. -/
theorem replaceIn_codeUnits {before removed : List Char} (after : List Char) {change : Change}
    (rangeEq : change.range = (Text.unitLength before, Text.unitLength (before ++ removed))) :
    change.replaceIn (Text.codeUnits (before ++ removed ++ after)) =
      Text.codeUnits (before ++ change.newText.toList ++ after) := by
  have front : (Text.codeUnits (before ++ removed ++ after)).take change.range.1 =
      Text.codeUnits before := by
    rw [rangeEq, List.append_assoc, Text.codeUnits_append]
    exact List.take_left' (Text.length_codeUnits before)
  have back : (Text.codeUnits (before ++ removed ++ after)).drop change.range.2 =
      Text.codeUnits after := by
    rw [rangeEq, Text.codeUnits_append]
    exact List.drop_left' (Text.length_codeUnits (before ++ removed))
  rw [replaceIn, front, back]
  simp

end Change

namespace Edit

open Text

/-- The ends of a beginning are converted to its lengths in code units. -/
theorem toChange_range {text : List Char} {edit : Edit} {before removed after : List Char}
    (textEq : text = before ++ removed ++ after)
    (startEq : edit.span.start = byteLength before)
    (stopEq : edit.span.stop = byteLength (before ++ removed)) :
    (edit.toChange (.ofChars text)).range =
      (unitLength before, unitLength (before ++ removed)) := by
  simp only [toChange, OffsetIndex.toUnits, startEq, stopEq, Prod.mk.injEq]
  constructor
  · rw [textEq, List.append_assoc]
    exact OffsetIndex.toUnit_byteLength before (removed ++ after)
  · rw [textEq]
    exact OffsetIndex.toUnit_byteLength (before ++ removed) after

/-- Carrying out the changes of edits, from the last to the first, leaves the part that is done and
gives the encoding of the result behind it. -/
theorem Replaces.carryOut_eq {done rest result text : List Char} {edits : List Edit}
    (replaces : Replaces done rest edits result) (textEq : text = done ++ rest) :
    Change.carryOut (edits.map (toChange (.ofChars text))) (codeUnits text) =
      codeUnits (done ++ result) := by
  induction replaces with
  | nil done rest => simp [Change.carryOut, textEq]
  | @cons done kept removed rest result edit edits startEq stopEq tail ih =>
      have regroup : text = done ++ kept ++ removed ++ rest := by
        simp [textEq]
      have rangeEq := toChange_range regroup startEq stopEq
      have later := ih regroup
      have step := Change.replaceIn_codeUnits result rangeEq
      simp only [Change.carryOut, List.map_cons, List.foldr_cons] at later ⊢
      rw [later, step]
      simp [toChange]

/-- Each change of the described edits lies behind the part that is done and inside the text. -/
theorem Replaces.range_bounds {done rest result text : List Char} {edits : List Edit}
    (replaces : Replaces done rest edits result) (textEq : text = done ++ rest) :
    ∀ change ∈ edits.map (toChange (.ofChars text)), unitLength done ≤ change.range.1 ∧
      change.range.1 ≤ change.range.2 ∧ change.range.2 ≤ unitLength text := by
  induction replaces with
  | nil done rest => simp
  | @cons done kept removed rest result edit edits startEq stopEq tail ih =>
      have regroup : text = done ++ kept ++ removed ++ rest := by
        simp [textEq]
      have rangeEq := toChange_range regroup startEq stopEq
      intro change member
      rcases List.mem_cons.mp member with rfl | member
      · rw [rangeEq, regroup]
        simp only [unitLength_append]
        omega
      · have later := ih regroup change member
        simp only [unitLength_append] at later
        omega

/-- The changes of the described edits are in order. -/
theorem Replaces.range_isChain {done rest result text : List Char} {edits : List Edit}
    (replaces : Replaces done rest edits result) (textEq : text = done ++ rest) :
    (edits.map (toChange (.ofChars text))).IsChain fun first second =>
      first.range.2 ≤ second.range.1 := by
  induction replaces with
  | nil done rest => exact .nil
  | @cons done kept removed rest result edit edits startEq stopEq tail ih =>
      have regroup : text = done ++ kept ++ removed ++ rest := by
        simp [textEq]
      rw [List.map_cons, List.isChain_cons]
      refine ⟨?_, ih regroup⟩
      intro next nextHead
      rw [toChange_range regroup startEq stopEq]
      exact (tail.range_bounds regroup next (List.mem_of_mem_head? nextHead)).1

/-- Wire changes mean the same in code units as edits do in bytes: for edits that are accepted for a
text and whose ends are boundaries, the changes lie inside the encoded text and are in order, and
carrying them out from the last to the first gives the encoding of the edited text. -/
theorem carryOut_toChange_of_normalize {text : String} {edits sorted : List Edit}
    (accepted : normalize edits text.utf8ByteSize = .ok sorted)
    (boundaries : ∀ edit ∈ edits,
      isBoundary text edit.span.start = true ∧ isBoundary text edit.span.stop = true) :
    (∀ change ∈ sorted.map (toChange (.ofText text)),
      change.range.1 ≤ change.range.2 ∧ change.range.2 ≤ (codeUnits text.toList).length) ∧
    ((sorted.map (toChange (.ofText text))).IsChain fun first second =>
      first.range.2 ≤ second.range.1) ∧
    ∃ result, applied? text.toList sorted = some result ∧
      Change.carryOut (sorted.map (toChange (.ofText text))) (codeUnits text.toList) =
        codeUnits result := by
  rcases normalize_eq_ok_iff.mp accepted with ⟨faultless, sortedEq, inOrder⟩
  have sameEdits : ∀ edit, edit ∈ sorted ↔ edit ∈ edits := by
    intro edit
    rw [sortedEq, List.mem_mergeSort]
  have described : ∃ result, Replaces [] text.toList sorted result := by
    apply exists_replaces inOrder
    · simp
    · intro edit member
      exact (faultless edit ((sameEdits edit).mp member)).1
    · intro edit member
      exact isBoundary_iff.mp (boundaries edit ((sameEdits edit).mp member)).1
    · intro edit member
      exact isBoundary_iff.mp (boundaries edit ((sameEdits edit).mp member)).2
  rcases described with ⟨result, replaces⟩
  refine ⟨?_, replaces.range_isChain rfl, result, replaces.applied?_eq, ?_⟩
  · intro change member
    rw [length_codeUnits]
    exact (replaces.range_bounds rfl change member).2
  · exact replaces.carryOut_eq rfl

/-- Two edits at the start of a surrogate pair, given out of order with one behind them. -/
theorem carryOut_toChange_surrogates :
    normalize [⟨⟨5, 7⟩, ['e']⟩, ⟨⟨1, 1⟩, ['😀']⟩, ⟨⟨1, 5⟩, ['é']⟩] "a😀é".utf8ByteSize =
      .ok [⟨⟨1, 1⟩, ['😀']⟩, ⟨⟨1, 5⟩, ['é']⟩, ⟨⟨5, 7⟩, ['e']⟩] ∧
    [(1, 1), (1, 3), (3, 4)] = ([⟨⟨1, 1⟩, ['😀']⟩, ⟨⟨1, 5⟩, ['é']⟩, ⟨⟨5, 7⟩, ['e']⟩].map
      (toChange (.ofText "a😀é"))).map Change.range ∧
    ∃ result, applied? "a😀é".toList [⟨⟨1, 1⟩, ['😀']⟩, ⟨⟨1, 5⟩, ['é']⟩, ⟨⟨5, 7⟩, ['e']⟩] =
        some result ∧
      Change.carryOut ([⟨⟨1, 1⟩, ['😀']⟩, ⟨⟨1, 5⟩, ['é']⟩, ⟨⟨5, 7⟩, ['e']⟩].map
        (toChange (.ofText "a😀é"))) (codeUnits "a😀é".toList) = codeUnits result := by
  have accepted : normalize [⟨⟨5, 7⟩, ['e']⟩, ⟨⟨1, 1⟩, ['😀']⟩, ⟨⟨1, 5⟩, ['é']⟩]
      "a😀é".utf8ByteSize = .ok [⟨⟨1, 1⟩, ['😀']⟩, ⟨⟨1, 5⟩, ['é']⟩, ⟨⟨5, 7⟩, ['e']⟩] := by
    have sorted : [⟨⟨5, 7⟩, ['e']⟩, ⟨⟨1, 1⟩, ['😀']⟩, ⟨⟨1, 5⟩, ['é']⟩].mergeSort before =
        [⟨⟨1, 1⟩, ['😀']⟩, ⟨⟨1, 5⟩, ['é']⟩, ⟨⟨5, 7⟩, ['e']⟩] := by
      simp [List.mergeSort, List.MergeSort.Internal.splitInTwo, before]
    simp only [normalize, sorted]
    decide
  refine ⟨accepted, by decide, ?_⟩
  exact (carryOut_toChange_of_normalize accepted (by decide)).2.2

end Edit

end SourceLens
