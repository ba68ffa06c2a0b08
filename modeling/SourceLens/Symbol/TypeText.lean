import SourceLens.Text.Alphabet
import SourceLens.Text.Blank

/-!
# Types as text

A type is known by its text.  Its layout is normalized, so that two spellings of a type that differ
in layout only are equal: blanks go, except for one space between two words and one space after
each comma that does not come last.
-/

namespace SourceLens

/-- The text of a type in normal layout. -/
structure TypeText where
  text : String
  deriving DecidableEq, Repr

namespace TypeText

/-- The characters of names and lifetimes. -/
def isWordChar (char : Char) : Bool :=
  Text.isWordChar char || char == '\''

/-- The brackets before which a comma takes no space. -/
def isCloser (char : Char) : Bool :=
  char == ')' || char == '>' || char == ']'

/-- Whether a space stands between two neighbours, given whether blanks separate them. -/
def spaced (previous next : Char) (separated : Bool) : Bool :=
  if previous = ',' then !isCloser next
  else separated && isWordChar previous && isWordChar next

/-- The normal layout of what follows a character, if one was written, given whether blanks have
been passed since. -/
def layoutFrom : Option Char → Bool → List Char → List Char
  | _, _, [] => []
  | previous, separated, char :: chars =>
      if Text.isBlank char then layoutFrom previous true chars
      else
        let written := char :: layoutFrom (some char) false chars
        match previous with
        | some previous => if spaced previous char separated then ' ' :: written else written
        | none => written

/-- The normal layout of a type. -/
def layout (chars : List Char) : List Char :=
  layoutFrom none false chars

/-- The type that a text denotes. -/
def ofText (text : String) : TypeText :=
  ⟨Text.mapChars layout text⟩

/-- The words that may stand before the name of a type. -/
def leadingWords : List (List Char) :=
  ["mut ".toList, "dyn ".toList, "impl ".toList]

/-- Removes a lifetime at the front, up to and including the blank after it. -/
def dropLifetime (chars : List Char) : List Char :=
  match chars with
  | '\'' :: _ => (chars.dropWhile fun char => !Text.isBlank char).drop 1
  | _ => chars

/-- Removes a leading part, when the text starts with it, and the blanks after it. -/
def dropLeadingWord (chars word : List Char) : List Char :=
  Text.trimLeading ((Text.dropLead? word chars).getD chars)

/-- Removes references, a lifetime and the words before a type's name, once each. -/
def dropQualifiersOnce (chars : List Char) : List Char :=
  leadingWords.foldl dropLeadingWord
    (dropLifetime (Text.trimLeading (Text.dropLeading (· == '&') chars)))

/-- Removes references, lifetimes and the words before a type's name.  The first argument bounds the
number of rounds. -/
def dropQualifiers : Nat → List Char → List Char
  | 0, chars => chars
  | bound + 1, chars =>
      let rest := dropQualifiersOnce chars
      if rest = chars then chars else dropQualifiers bound rest

/-- The front of a text up to its first pair of colons. -/
def untilColons : List Char → List Char
  | ':' :: ':' :: _ => []
  | char :: chars => char :: untilColons chars
  | [] => []

/-- The part of a text after its last pair of colons. -/
def lastSegment (chars : List Char) : List Char :=
  (untilColons chars.reverse).reverse

/-- The name of the type behind references, paths and arguments: `Bar` of `&mut foo::Bar<T>`. -/
def baseChars (chars : List Char) : List Char :=
  let unqualified := dropQualifiers (chars.length + 1) (Text.trim chars)
  Text.trim (lastSegment (unqualified.takeWhile (· != '<')))

/-- The name of the type behind references, paths and arguments. -/
def base (text : String) : String :=
  Text.mapChars baseChars text

end TypeText

end SourceLens
