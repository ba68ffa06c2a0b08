import SourceLens.Text.Span
import SourceLens.Text.Units

/-!
# Edits

An edit replaces a span of a text.  A list of edits is applicable when its edits lie inside the
text, in order and without overlap; `normalize` sorts a list into that shape or says why it cannot
be done, and `applied?` carries a list out.
-/

namespace SourceLens

/-- Replace the bytes of a span with new text. -/
structure Edit where
  /-- What is replaced. -/
  span : Span
  /-- What takes its place. -/
  newText : List Char
  deriving DecidableEq, Repr

/-- Why a list of edits cannot be applied to a text of a given length. -/
inductive EditError where
  | outOfBounds (start stop length : Nat)
  | inverted (start stop : Nat)
  | overlap (offset : Nat)
  deriving DecidableEq, Repr

/-- The wording of an edit error. -/
def EditError.message : EditError → String
  | .outOfBounds start stop length =>
      "edit " ++ (Span.mk start stop).render ++ " is outside the document (length " ++
        toString length ++ ")"
  | .inverted start stop => "edit " ++ (Span.mk start stop).render ++ " is inverted"
  | .overlap offset => "edits overlap at offset " ++ toString offset

namespace Edit

/-- The complaint about an edit on its own, if any. -/
def fault? (length : Nat) (edit : Edit) : Option EditError :=
  if edit.span.start > edit.span.stop then some (.inverted edit.span.start edit.span.stop)
  else if edit.span.stop > length then some (.outOfBounds edit.span.start edit.span.stop length)
  else none

/-- The order in which edits are applied: by start, then by end. -/
def before (left right : Edit) : Bool :=
  left.span.start < right.span.start ||
    (left.span.start == right.span.start && left.span.stop ≤ right.span.stop)

/-- Where an edit of a sorted list first starts inside its predecessor. -/
def overlap? : List Edit → Option Nat
  | first :: second :: edits =>
      if second.span.start < first.span.stop then some second.span.start
      else overlap? (second :: edits)
  | _ => none

/-- Sorts edits for a text of the given length, keeping edits at the same place in their order. -/
def normalize (edits : List Edit) (length : Nat) : Except EditError (List Edit) :=
  match edits.findSome? (fault? length) with
  | some error => .error error
  | none =>
      let sorted := edits.mergeSort before
      match overlap? sorted with
      | some offset => .error (.overlap offset)
      | none => .ok sorted

/-- Carries out edits on a text whose part before the byte offset `cursor` is done.  There is no
result when an edit starts before the cursor, reaches past the end or splits a character. -/
def applyFrom? (text : List Char) : Nat → List Edit → Option (List Char)
  | cursor, [] => (Text.cut? cursor text).map Prod.snd
  | cursor, edit :: edits => do
      let kept ← Text.part? text cursor edit.span.start
      let rest ← applyFrom? text edit.span.stop edits
      return kept ++ edit.newText ++ rest

/-- Carries out edits from the front of a text to its end. -/
def applied? (text : List Char) (edits : List Edit) : Option (List Char) :=
  applyFrom? text 0 edits

end Edit

end SourceLens
