import SourceLens.Json
import SourceLens.Snapshot

/-!
# Code checks

The diagnostics of a buffer as an editor marks them.
-/

namespace SourceLens

/-- The name by which an editor knows a severity. -/
def Severity.name : Severity → String
  | .error => "Error"
  | .warning => "Warning"
  | .information => "Info"
  | .hint => "Hint"

/-- The number by which an editor knows a severity. -/
def Severity.number : Severity → Nat
  | .error => 8
  | .warning => 4
  | .information => 2
  | .hint => 1

/-- A diagnostic as an editor marks it. -/
structure Marker where
  code : String
  /-- The part of the source that it is about. -/
  keyword : String
  message : String
  /-- The range, in UTF-16 units. -/
  range : Nat × Nat
  severity : Severity
  deriving DecidableEq, Repr

/-- A marker as an editor reads it. -/
def Marker.toJson (marker : Marker) : Json :=
  .object [("Id", .string marker.code), ("Keyword", .string marker.keyword),
    ("Message", .string marker.message), ("OffsetFrom", .nat marker.range.1),
    ("OffsetTo", .nat marker.range.2), ("Severity", .string marker.severity.name),
    ("SeverityNumeric", .nat marker.severity.number)]

namespace Snapshot

/-- A diagnostic as an editor marks it. -/
def markerOf (snapshot : Snapshot) (diagnostic : Diagnostic) : Marker where
  code := diagnostic.code
  keyword := snapshot.slice diagnostic.span
  message := diagnostic.message
  range := snapshot.units diagnostic.span
  severity := diagnostic.severity

/-- The diagnostics of the buffer as an editor marks them. -/
def codeCheck (snapshot : Snapshot) (isCancelled : Bool) : Outcome (List Marker) := do
  let diagnostics ←
    match snapshot.diagnostics with
    | some diagnostics => pure diagnostics
    | none => snapshot.semantics.diagnostics isCancelled
  Outcome.unlessCancelled isCancelled
  return diagnostics.map snapshot.markerOf

end Snapshot

end SourceLens
