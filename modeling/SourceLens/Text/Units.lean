/-!
# Measuring and cutting texts

A text has a length in UTF-8 bytes and a length in UTF-16 code units.  Byte offsets are how spans
address a text, code units are how editors do.  Cutting at a byte offset succeeds only at the
boundary of a character.
-/

namespace SourceLens.Text

/-- The number of UTF-16 code units of a character. -/
def unitWidth (char : Char) : Nat :=
  if char.toNat < 0x10000 then 1 else 2

/-- The length of a text in UTF-8 bytes. -/
def byteLength (chars : List Char) : Nat :=
  chars.foldr (fun char length => char.utf8Size + length) 0

/-- The length of a text in UTF-16 code units. -/
def unitLength (chars : List Char) : Nat :=
  chars.foldr (fun char length => unitWidth char + length) 0

/-- The parts of a text before and after a byte offset, when the offset is a boundary. -/
def cut? : Nat → List Char → Option (List Char × List Char)
  | 0, chars => some ([], chars)
  | _ + 1, [] => none
  | offset + 1, char :: chars =>
      if char.utf8Size ≤ offset + 1 then
        (cut? (offset + 1 - char.utf8Size) chars).map fun parts => (char :: parts.1, parts.2)
      else none
termination_by _ chars => chars.length

/-- The part of a text between two byte offsets, when they are boundaries in order. -/
def part? (chars : List Char) (start stop : Nat) : Option (List Char) :=
  if start ≤ stop then do
    let (_, tail) ← cut? start chars
    let (part, _) ← cut? (stop - start) tail
    return part
  else none

/-- Whether a byte offset is the start or the end of a character of the text. -/
def isBoundary (text : String) (offset : Nat) : Bool :=
  String.Pos.Raw.isValid text ⟨offset⟩

/-- The part of a string between two byte offsets, when they are boundaries in order. -/
def slice? (text : String) (start stop : Nat) : Option String :=
  if start ≤ stop && isBoundary text start && isBoundary text stop then
    some (String.Pos.Raw.extract text ⟨start⟩ ⟨stop⟩)
  else none

/-- The bytes of a text. -/
def bytes (text : String) : Array UInt8 :=
  text.toUTF8.data

end SourceLens.Text
