import SourceLens.Edit

/-!
# Edit scripts

An edit script describes how one text becomes another as a list of operations, each covering a
range of characters of both texts.  Operations that are not equalities and follow one another form
a hunk; the edits of a script are its hunks, with character offsets turned into byte offsets of the
old text.
-/

namespace SourceLens

/-- What an operation does to its ranges. -/
inductive OperationKind where
  | equal
  | delete
  | insert
  | replace
  deriving DecidableEq, Repr

/-- An operation on character ranges of an old and a new text. -/
structure Operation where
  kind : OperationKind
  oldStart : Nat
  oldStop : Nat
  newStart : Nat
  newStop : Nat
  deriving DecidableEq, Repr

/-- The characters of the old text that a range of the new text replaces. -/
structure Hunk where
  oldStart : Nat
  oldStop : Nat
  newStart : Nat
  newStop : Nat
  deriving DecidableEq, Repr

namespace Hunk

/-- The hunk of one operation. -/
def ofOperation (operation : Operation) : Hunk :=
  ⟨operation.oldStart, operation.oldStop, operation.newStart, operation.newStop⟩

/-- A hunk that goes on to the end of a further operation. -/
def extend (hunk : Hunk) (operation : Operation) : Hunk :=
  { hunk with oldStop := operation.oldStop, newStop := operation.newStop }

/-- The hunks of a script, after the hunk that is still open. -/
def collect : Option Hunk → List Operation → List Hunk
  | open?, [] => open?.toList
  | open?, operation :: operations =>
      if operation.kind = .equal then open?.toList ++ collect none operations
      else
        match open? with
        | some hunk => collect (some (hunk.extend operation)) operations
        | none => collect (some (ofOperation operation)) operations

/-- The byte offset of a character, or of the end of the text. -/
def byteOffset? (text : List Char) (char : Nat) : Option Nat :=
  if char ≤ text.length then some (Text.byteLength (text.take char)) else none

/-- The edit of a hunk, when both of its ranges lie within their texts. -/
def toEdit? (old new : List Char) (hunk : Hunk) : Option Edit := do
  let start ← byteOffset? old hunk.oldStart
  let stop ← byteOffset? old hunk.oldStop
  if hunk.newStart ≤ hunk.newStop ∧ hunk.newStop ≤ new.length then
    return ⟨⟨start, stop⟩, (new.take hunk.newStop).drop hunk.newStart⟩
  else none

end Hunk

/-- The edits that a script stands for. -/
def Edit.ofScript? (old new : List Char) (script : List Operation) : Option (List Edit) :=
  (Hunk.collect none script).mapM (Hunk.toEdit? old new)

end SourceLens
