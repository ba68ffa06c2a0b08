/-!
# Spans

A span is a half-open range of byte offsets into a text.  A cursor at an offset is contained in a
span when it stands before one of its bytes, and touches it when it may also stand right after the
last one.
-/

namespace SourceLens

/-- The byte offsets from `start` up to, and not including, `stop`. -/
structure Span where
  /-- The offset of the first byte. -/
  start : Nat
  /-- The offset after the last byte. -/
  stop : Nat
  deriving DecidableEq, Repr, Inhabited

namespace Span

/-- The span without bytes at an offset. -/
def empty (offset : Nat) : Span :=
  ⟨offset, offset⟩

/-- The number of bytes, for a span that is not inverted. -/
def length? (span : Span) : Option Nat :=
  if span.start ≤ span.stop then some (span.stop - span.start) else none

/-- Whether the span holds no byte. -/
def isEmpty (span : Span) : Bool :=
  span.start == span.stop

/-- Whether a cursor stands before one of the bytes. -/
def contains (span : Span) (offset : Nat) : Bool :=
  span.start ≤ offset && offset < span.stop

/-- Whether a cursor stands before one of the bytes or right after the last one. -/
def touches (span : Span) (offset : Nat) : Bool :=
  span.start ≤ offset && offset ≤ span.stop

/-- Whether another span lies within this one. -/
def covers (span other : Span) : Bool :=
  span.start ≤ other.start && other.stop ≤ span.stop

/-- The text of a span, as in `2..5`. -/
def render (span : Span) : String :=
  toString span.start ++ ".." ++ toString span.stop

end Span

end SourceLens
