import SourceLens.Bisection
import SourceLens.Text.Span
import SourceLens.Text.Units

/-!
# Offset index

Spans count bytes and editors count UTF-16 code units.  The index of a text records its characters
beyond ASCII only: between two of them both counts advance together, so an offset is converted by
its distance from the last recorded character at or before it.
-/

namespace SourceLens

/-- A character beyond ASCII: where it starts and how wide it is, in both counts. -/
structure WideChar where
  /-- Byte offset of the character. -/
  byte : Nat
  /-- Code-unit offset of the character. -/
  unit : Nat
  /-- Width in bytes. -/
  bytes : Nat
  /-- Width in code units. -/
  units : Nat
  deriving DecidableEq, Repr

/-- The wide characters of a text and its length in both counts. -/
structure OffsetIndex where
  /-- The characters beyond ASCII, in order. -/
  wide : Array WideChar
  byteLength : Nat
  unitLength : Nat
  deriving DecidableEq, Repr

namespace OffsetIndex

/-- The wide characters of a text that starts at the given offsets. -/
def wideChars : Nat → Nat → List Char → List WideChar
  | _, _, [] => []
  | byte, unit, char :: chars =>
      let rest := wideChars (byte + char.utf8Size) (unit + Text.unitWidth char) chars
      if char.toNat < 128 then rest
      else ⟨byte, unit, char.utf8Size, Text.unitWidth char⟩ :: rest

/-- The index of a text. -/
def ofChars (chars : List Char) : OffsetIndex where
  wide := (wideChars 0 0 chars).toArray
  byteLength := Text.byteLength chars
  unitLength := Text.unitLength chars

/-- The index of a string. -/
def ofText (text : String) : OffsetIndex :=
  ofChars text.toList

/-- Whether the text has no character beyond ASCII. -/
def isAscii (index : OffsetIndex) : Bool :=
  index.wide.isEmpty

/-- The byte offset of a code-unit offset.  An offset within a surrogate pair goes to the start of
its character, an offset past the end to the end. -/
def toByte (index : OffsetIndex) (unit : Nat) : Nat :=
  if index.unitLength ≤ unit then index.byteLength
  else
    match lastPassing? (fun wide => wide.unit ≤ unit) index.wide with
    | none => unit
    | some wide =>
        if unit < wide.unit + wide.units then wide.byte
        else wide.byte + wide.bytes + (unit - wide.unit - wide.units)

/-- The code-unit offset of a byte offset.  An offset within a character goes to its start, an
offset past the end to the end. -/
def toUnit (index : OffsetIndex) (byte : Nat) : Nat :=
  if index.byteLength ≤ byte then index.unitLength
  else
    match lastPassing? (fun wide => wide.byte ≤ byte) index.wide with
    | none => byte
    | some wide =>
        if byte < wide.byte + wide.bytes then wide.unit
        else wide.unit + wide.units + (byte - wide.byte - wide.bytes)

/-- Both ends of a span in code units. -/
def toUnits (index : OffsetIndex) (span : Span) : Nat × Nat :=
  (index.toUnit span.start, index.toUnit span.stop)

end OffsetIndex

end SourceLens
