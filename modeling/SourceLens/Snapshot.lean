import SourceLens.Semantics
import SourceLens.Text.OffsetIndex

/-!
# Snapshots

A snapshot is what the queries of one request look at: a buffer, its tree and its semantics, with
the offsets that editors use.
-/

namespace SourceLens

/-- A buffer that has been compiled. -/
structure Snapshot where
  source : String
  offsets : OffsetIndex
  tree : Tree
  /-- What can be asked about the source. -/
  semantics : Semantics
  /-- The diagnostics, when they were asked for in advance. -/
  diagnostics : Option (List Diagnostic)
  /-- What the source is meant to become. -/
  output : OutputKind

namespace Snapshot

/-- The snapshot of a source, with diagnostics if they are asked for in advance. -/
def build (source : String) (tree : Tree) (semantics : Semantics) (output : OutputKind)
    (withDiagnostics isCancelled : Bool) : Outcome Snapshot := do
  let diagnostics ←
    if withDiagnostics then some <$> semantics.diagnostics isCancelled else pure none
  return ⟨source, .ofText source, tree, semantics, diagnostics, output⟩

/-- The bytes of a span as UTF-16 offsets. -/
def units (snapshot : Snapshot) (span : Span) : Nat × Nat :=
  snapshot.offsets.toUnits span

/-- The part of the source that a span covers, empty when it does not fit. -/
def slice (snapshot : Snapshot) (span : Span) : String :=
  (Text.slice? snapshot.source span.start span.stop).getD ""

end Snapshot

end SourceLens
