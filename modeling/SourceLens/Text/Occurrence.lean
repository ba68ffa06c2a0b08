import SourceLens.Text.Alphabet
import SourceLens.Text.Blank

/-!
# Occurrences

Finding and replacing a part of a text.
-/

namespace SourceLens.Text

/-- The parts of a text before and after the first occurrence of a mark. -/
def breakOn? (mark : List Char) : List Char → Option (List Char × List Char)
  | [] => (dropLead? mark []).map fun rest => ([], rest)
  | char :: chars =>
      match dropLead? mark (char :: chars) with
      | some rest => some ([], rest)
      | none => (breakOn? mark chars).map fun parts => (char :: parts.1, parts.2)

/-- Replaces the occurrences of a word that have no word character next to them.  The neighbour on the
left is looked for after the previous occurrence only.  The first argument bounds the number of
occurrences. -/
def replaceWordFrom (word replacement : List Char) : Nat → List Char → List Char
  | 0, chars => chars
  | bound + 1, chars =>
      match breakOn? word chars with
      | none => chars
      | some (before, after) =>
          let isPart := before.getLast?.any isWordChar || after.head?.any isWordChar
          before ++ (if isPart then word else replacement) ++
            replaceWordFrom word replacement bound after

/-- Replaces the occurrences of a word that have no word character next to them. -/
def replaceWord (text word replacement : String) : String :=
  mapChars (fun chars => replaceWordFrom word.toList replacement.toList (chars.length + 1) chars) text

end SourceLens.Text
