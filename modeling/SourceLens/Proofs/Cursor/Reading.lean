import SourceLens.Analysis.Completion
import SourceLens.Proofs.Analysis.Compilation
import SourceLens.Proofs.Cursor.Chain

/-!
# Completion reads what stands before the cursor

Wherever a cursor is put, past the end of a source or inside a character, the reading of its context goes
through: no byte is looked at outside of the source, no cut is made inside of a character, and no offset or
count of brackets is taken below zero.  What is read is what stands there.  The word at the cursor is the
longest name that ends there, and the text before the word decides between a path, a receiver and neither
(`Context.Fits`).
-/

namespace SourceLens.Cursor

open Text

/-- A text that ends with a name, which may be empty but could not be longer. -/
structure EndsInName (text lead name : List Char) : Prop where
  parts : text = lead ++ name
  isName : ∀ char ∈ name, isNameChar char = true
  isLongest : ∀ char, lead.getLast? = some char → isNameChar char = false

/-- What a context says of the text before the word at the cursor. -/
def Context.Fits (source : String) (lead : List Char) : Context → Prop
  | .path name offset =>
      offset = byteLength lead ∧
        ∃ path before, lead = path ++ [':', ':'] ∧ EndsInName path before name.toList
  | .receiver chain =>
      ∃ before, lead = before ++ ['.'] ∧ before.getLast? ≠ some '.' ∧
        chain? source (byteLength before) = some chain
  | .scope =>
      ¬[':', ':'] <:+ lead ∧ (['.'] <:+ lead → ['.', '.'] <:+ lead)

variable {source : String} {text lead name after before : List Char}

theorem exists_endsInName (text : List Char) : ∃ lead name, EndsInName text lead name := by
  induction text using List.reverseRecOn with
  | nil => exact ⟨[], [], rfl, by simp, by simp⟩
  | append_singleton front last ih =>
      cases isName : isNameChar last with
      | true =>
          rcases ih with ⟨lead, name, rfl, named, isLongest⟩
          refine ⟨lead, name ++ [last], by simp, ?_, isLongest⟩
          intro char member
          rcases List.mem_append.mp member with inName | isLast
          · exact named char inName
          · rwa [List.mem_singleton.mp isLast]
      | false => exact ⟨front ++ [last], [], by simp, by simp, by simpa using isName⟩

theorem EndsInName.nameStart? (ends : EndsInName text lead name)
    (textEq : source.toList = text ++ after) :
    nameStart? (bytes source) (byteLength text) = some (byteLength lead) := by
  have placed : source.toList = lead ++ (name ++ after) := by
    simpa [ends.parts] using textEq
  rw [ends.parts, nameStart?_append ends.isName placed, nameStart?_of_getLast? placed ends.isLongest]

theorem hasByteBefore_one (mark : Char) (code : UInt8) (isCode : code.toNat = mark.toNat)
    (ascii : code.toNat < 128) (textEq : source.toList = lead ++ after) :
    hasByteBefore (bytes source) (byteLength lead) 1 code = true ↔ ∃ before, lead = before ++ [mark] := by
  rw [← List.getLast?_eq_some_iff]
  cases last : lead.getLast? with
  | none =>
      rw [List.getLast?_eq_none_iff] at last
      simp [last, hasByteBefore]
  | some char =>
      rcases List.getLast?_eq_some_iff.mp last with ⟨front, rfl⟩
      rcases @exists_byte_before source front after char (by simpa using textEq) with
        ⟨offset, lengthEq, byte, member, found⟩
      rw [lengthEq]
      simpa [hasByteBefore, found] using byte_eq_iff mark code isCode ascii member

theorem hasByteBefore_two (mark : Char) (code : UInt8) (isCode : code.toNat = mark.toNat)
    (ascii : code.toNat < 128) (textEq : source.toList = before ++ mark :: after) :
    hasByteBefore (bytes source) (byteLength (before ++ [mark])) 2 code = true ↔
      ∃ front, before = front ++ [mark] := by
  have lengthEq := (exists_byte_of_ascii textEq (isCode ▸ ascii)).1
  have oneLess : hasByteBefore (bytes source) (byteLength before + 1) 2 code =
      hasByteBefore (bytes source) (byteLength before) 1 code := by
    simp [hasByteBefore]
  rw [lengthEq, oneLess]
  exact hasByteBefore_one mark code isCode ascii textEq

/-- The test for a path. -/
theorem followsColons_iff (textEq : source.toList = lead ++ after) :
    (hasByteBefore (bytes source) (byteLength lead) 1 58 &&
        hasByteBefore (bytes source) (byteLength lead) 2 58) = true ↔
      ∃ path, lead = path ++ [':', ':'] := by
  rw [Bool.and_eq_true, hasByteBefore_one ':' 58 rfl (by decide) textEq]
  constructor
  · rintro ⟨⟨before, rfl⟩, second⟩
    have secondColon := (hasByteBefore_two ':' 58 rfl (by decide) (by simpa using textEq)).mp second
    rcases secondColon with ⟨path, rfl⟩
    exact ⟨path, by simp⟩
  · rintro ⟨path, rfl⟩
    have regrouped : path ++ [':', ':'] = (path ++ [':']) ++ [':'] := by simp
    rw [regrouped] at textEq ⊢
    refine ⟨⟨path ++ [':'], rfl⟩, ?_⟩
    exact (hasByteBefore_two ':' 58 rfl (by decide) (by simpa using textEq)).mpr ⟨path, rfl⟩

/-- The test for a receiver. -/
theorem followsLoneDot_iff (textEq : source.toList = lead ++ after) :
    (hasByteBefore (bytes source) (byteLength lead) 1 46 &&
        !hasByteBefore (bytes source) (byteLength lead) 2 46) = true ↔
      ∃ before, lead = before ++ ['.'] ∧ before.getLast? ≠ some '.' := by
  simp only [Bool.and_eq_true, Bool.not_eq_true', ← Bool.not_eq_true,
    hasByteBefore_one '.' 46 rfl (by decide) textEq, List.getLast?_eq_some_iff, ne_eq]
  constructor
  · rintro ⟨⟨before, rfl⟩, notSecond⟩
    have second := hasByteBefore_two '.' 46 rfl (by decide) (by simpa using textEq)
    exact ⟨before, rfl, mt second.mpr notSecond⟩
  · rintro ⟨before, rfl, notSecond⟩
    have second := hasByteBefore_two '.' 46 rfl (by decide) (by simpa using textEq)
    exact ⟨⟨before, rfl⟩, mt second.mp notSecond⟩

/-- What is read as the context fits what stands before the word at the cursor. -/
theorem fits_of_context? {context : Context} (textEq : source.toList = text ++ after)
    (ends : EndsInName text lead name) (read : context? source (byteLength text) = some context) :
    context.Fits source lead := by
  have leadAt : source.toList = lead ++ (name ++ after) := by
    simpa [ends.parts] using textEq
  simp only [context?, ends.nameStart? textEq, Option.bind_eq_bind, Option.bind_some] at read
  rcases Option.bind_eq_some_iff.mp read with ⟨_, -, chosen⟩
  split at chosen
  · next isPath =>
      rcases (followsColons_iff leadAt).mp isPath with ⟨path, rfl⟩
      rcases exists_endsInName path with ⟨before, pathName, pathEnds⟩
      have pathAt : source.toList = path ++ ([':', ':'] ++ (name ++ after)) := by
        simpa using leadAt
      have nameAt : source.toList = before ++ (pathName ++ ([':', ':'] ++ (name ++ after))) := by
        simpa [pathEnds.parts] using pathAt
      have stepped : stepBack? (byteLength (path ++ [':', ':'])) 2 = some (byteLength path) := by
        have colonsLength : byteLength [':', ':'] = 2 := rfl
        simp [stepBack?, colonsLength]
      have sliced := slice?_of_toList nameAt
      rw [← pathEnds.parts] at sliced
      simp only [stepped, pathEnds.nameStart? pathAt, sliced, Option.bind_some] at chosen
      obtain rfl := Option.some.inj chosen
      refine ⟨rfl, path, before, rfl, ?_⟩
      simpa using pathEnds
  · next notPath =>
      split at chosen
      · next isReceiver =>
          rcases (followsLoneDot_iff leadAt).mp isReceiver with ⟨before, rfl, single⟩
          have stepped : stepBack? (byteLength (before ++ ['.'])) 1 = some (byteLength before) := by
            have dotLength : byteLength ['.'] = 1 := rfl
            simp [stepBack?, dotLength]
          rw [stepped, Option.bind_some] at chosen
          rcases Option.bind_eq_some_iff.mp chosen with ⟨chain, chained, isChain⟩
          obtain rfl := Option.some.inj isChain
          exact ⟨before, rfl, single, chained⟩
      · next notReceiver =>
          obtain rfl := Option.some.inj chosen
          constructor
          · rintro ⟨path, rfl⟩
            exact notPath ((followsColons_iff leadAt).mpr ⟨path, rfl⟩)
          · rintro ⟨before, rfl⟩
            by_contra single
            refine notReceiver ((followsLoneDot_iff leadAt).mpr ⟨before, rfl, fun isDot => single ?_⟩)
            rcases List.getLast?_eq_some_iff.mp isDot with ⟨front, rfl⟩
            exact ⟨front, by simp⟩

/-- At every offset of every source, completion finds the cursor and its context without a failed look, cut
or step back, and goes on with them.  The cursor is the last boundary at or before the offset, and the
context fits what stands before the word there. -/
theorem exists_context?_of_clamp? (source : String) (offset : Nat) :
    ∃ cursor context, clamp? source offset = some cursor ∧ context? source cursor = some context ∧
      IsLastBoundary source offset cursor ∧
      (∃ text after lead name, source.toList = text ++ after ∧ byteLength text = cursor ∧
        EndsInName text lead name ∧ context.Fits source lead) ∧
      ∀ (analysis : Analysis) (orders : NameOrders), analysis.source = source →
        analysis.completions orders offset false =
          .ok (analysis.candidatesIn orders cursor context) := by
  rcases exists_clamp? source offset with ⟨cursor, clamped, isLast⟩
  rcases exists_context? isLast.isBoundary with ⟨context, read⟩
  refine ⟨cursor, context, clamped, read, isLast, ?_, ?_⟩
  · rcases isBoundary_iff.mp isLast.isBoundary with ⟨text, after, textEq, rfl⟩
    rcases exists_endsInName text with ⟨lead, name, ends⟩
    exact ⟨text, after, lead, name, textEq, rfl, ends, fits_of_context? textEq ends read⟩
  · rintro analysis orders rfl
    simp [Analysis.completions, Outcome.orCrash, clamped, read]

end SourceLens.Cursor
