import SourceLens.Json
import SourceLens.Snapshot

/-!
# Definitions

The places of the buffer that declare the symbol at a cursor.
-/

namespace SourceLens

/-- The name by which an editor knows the buffer. -/
def bufferUri : String :=
  "MyFile.rs"

/-- The places that declare a symbol, in UTF-16 units of the buffer. -/
structure Definition where
  ranges : List (Nat × Nat)
  deriving DecidableEq, Repr

/-- A definition as an editor reads it. -/
def Definition.toJson (definition : Definition) : Json :=
  .object [("Uri", .null),
    ("Definitions", .array (definition.ranges.map fun range =>
      .object [("Uri", .string bufferUri), ("OffsetFrom", .nat range.1), ("OffsetTo", .nat range.2)]))]

/-- The definition of the symbol at an offset. -/
def Snapshot.definition (snapshot : Snapshot) (offset : Nat) (isCancelled : Bool) :
    Outcome (Option Definition) := do
  Outcome.unlessCancelled isCancelled
  return (snapshot.semantics.symbolAt offset).map fun symbol =>
    let declaration := (snapshot.semantics.findDeclaration symbol).getD symbol
    ⟨declaration.sourceSpans.map snapshot.units⟩

end SourceLens
