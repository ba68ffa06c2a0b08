/-!
# Blank characters

Texts are handled as lists of characters.  A character is blank when it has the Unicode property
`White_Space`, and every operation that trims, splits into words or splits into lines is stated
here once, in terms of that class.
-/

namespace SourceLens.Text

/-- Applies an operation on characters to a string. -/
def mapChars (operation : List Char → List Char) (text : String) : String :=
  String.ofList (operation text.toList)

/-- The characters with the property `White_Space`. -/
def isBlank (char : Char) : Bool :=
  let code := char.toNat
  code == 0x20 || (0x9 ≤ code && code ≤ 0xD) || code == 0x85 || code == 0xA0 || code == 0x1680 ||
    (0x2000 ≤ code && code ≤ 0x200A) || code == 0x2028 || code == 0x2029 || code == 0x202F ||
    code == 0x205F || code == 0x3000

/-- Removes every leading character of a class. -/
def dropLeading (isDropped : Char → Bool) (chars : List Char) : List Char :=
  chars.dropWhile isDropped

/-- Removes every trailing character of a class. -/
def dropTrailing (isDropped : Char → Bool) (chars : List Char) : List Char :=
  (chars.reverse.dropWhile isDropped).reverse

/-- Removes leading blanks. -/
def trimLeading (chars : List Char) : List Char :=
  dropLeading isBlank chars

/-- Removes leading and trailing blanks. -/
def trim (chars : List Char) : List Char :=
  dropTrailing isBlank (trimLeading chars)

/-- The maximal runs of non-blank characters, in order. -/
def words (chars : List Char) : List (List Char) :=
  (chars.splitOnP isBlank).filter fun word => !word.isEmpty

/-- The words of a text with one space between neighbours. -/
def collapse (chars : List Char) : List Char :=
  List.intercalate [' '] (words chars)

/-- Removes a suffix, when the text ends with it. -/
def dropSuffix? (suffix chars : List Char) : Option (List Char) :=
  if suffix.isSuffixOf chars then some (chars.take (chars.length - suffix.length)) else none

/-- Removes a leading part, when the text starts with it. -/
def dropLead? : List Char → List Char → Option (List Char)
  | [], chars => some chars
  | _ :: _, [] => none
  | expected :: lead, char :: chars => if expected = char then dropLead? lead chars else none

/-- Removes a leading part as often as the text starts with it.  The first argument bounds the number
of times. -/
def dropLeads (lead : List Char) : Nat → List Char → List Char
  | 0, chars => chars
  | bound + 1, chars =>
      match dropLead? lead chars with
      | some rest => dropLeads lead bound rest
      | none => chars

/-- The lines of a text, each with its line feed; the last line may lack one. -/
def linesWithEnds : List Char → List (List Char)
  | [] => []
  | '\n' :: chars => ['\n'] :: linesWithEnds chars
  | char :: chars =>
      match linesWithEnds chars with
      | [] => [[char]]
      | line :: lines => (char :: line) :: lines

/-- A line without its line break, which is a line feed or a carriage return and a line feed. -/
def dropLineBreak (line : List Char) : List Char :=
  match dropSuffix? ['\r', '\n'] line with
  | some body => body
  | none => (dropSuffix? ['\n'] line).getD line

/-- The lines of a text without their line breaks. -/
def lines (chars : List Char) : List (List Char) :=
  (linesWithEnds chars).map dropLineBreak

/-- Joins lines with line feeds. -/
def joinLines (lines : List (List Char)) : List Char :=
  List.intercalate ['\n'] lines

end SourceLens.Text
