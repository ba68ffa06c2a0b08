import SourceLens.Edit.Comparison
import SourceLens.Layout.Scan
import SourceLens.Text.Blank
import SourceLens.Text.Span
import SourceLens.Text.Units

/-!
# Layout

A line is indented by the number of brackets that the lines before it leave open.  A line that starts
with closing brackets moves out by their number, a line that starts with a dot moves in by one.
Lines that start inside a string or a comment keep their indentation.
-/

namespace SourceLens.Layout

/-- The largest number of bytes that a text can have. -/
def maxLength : Nat :=
  0x7fffffffffffffff

/-- The line break at the end of a line. -/
def lineBreak (line : List Char) : List Char :=
  line.drop (Text.dropLineBreak line).length

/-- Whether a character closes a bracket. -/
def isCloser (char : Char) : Bool :=
  char == '\x7d' || char == ')' || char == ']'

/-- The level of a line that starts in code, given the number of open brackets before it. -/
def level (depth : Nat) (trimmed : List Char) : Nat :=
  let outer := depth - (trimmed.takeWhile isCloser).length
  if trimmed.head? = some '.' then outer + 1 else outer

/-- What is known when a line starts. -/
structure LineStart where
  /-- The number of open brackets. -/
  depth : Nat
  /-- What the line starts inside of. -/
  state : ScanState
  deriving DecidableEq, Repr

/-- What is known when the first line starts. -/
def LineStart.first : LineStart :=
  ⟨0, .code⟩

/-- What is known when the next line starts. -/
def LineStart.next (start : LineStart) (line : List Char) : LineStart :=
  let (state, change) := scan start.state (Text.dropLineBreak line)
  ⟨(start.depth + change).toNat, state⟩

/-- A line in its layout, unless its indentation would be longer than a text can be. -/
def layLine? (width : Nat) (start : LineStart) (line : List Char) : Option (List Char) :=
  let body := Text.dropLineBreak line
  let trimmed := Text.trim body
  if start.state ≠ .code then
    some (Text.dropTrailing (fun char => char == ' ' || char == '\t') body ++ lineBreak line)
  else if trimmed.isEmpty then some (lineBreak line)
  else
    let indentation := level start.depth trimmed * width
    if indentation ≤ maxLength then
      some (List.replicate indentation ' ' ++ trimmed ++ lineBreak line)
    else none

/-- Whether a line between two offsets meets a span, if one is given. -/
def isWanted (span : Option Span) (start stop : Nat) : Bool :=
  span.all fun span => start ≤ span.stop && span.start ≤ stop

/-- The lines in their layout, from an offset on.  Lines that do not meet the span stay as they
are. -/
def layLines? (span : Option Span) (width : Nat) :
    Nat → LineStart → List (List Char) → Option (List (List Char))
  | _, _, [] => some []
  | offset, start, line :: lines => do
      let stop := offset + Text.byteLength line
      let laid ← if isWanted span offset stop then layLine? width start line else some line
      return laid :: (← layLines? span width stop (start.next line) lines)

/-- A source in its layout. -/
def reindent? (source : List Char) (span : Option Span) (width : Nat) : Option (List Char) :=
  (layLines? span width 0 .first (Text.linesWithEnds source)).map List.flatten

/-- The edits that bring a source into its layout, limited to those within the span. -/
def edits? (source : List Char) (span : Option Span) (width : Nat) : Option (List Edit) := do
  let laid ← reindent? source span width
  let edits ← Edit.between? source laid
  return edits.filter fun edit => span.all fun span => span.covers edit.span

end SourceLens.Layout
