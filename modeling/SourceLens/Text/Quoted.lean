import SourceLens.Text.Blank
import SourceLens.Text.Visible

/-!
# Quoted texts

A text between quotes, with every character that would not show, and the quote and the backslash,
written as an escape.
-/

namespace SourceLens.Text

/-- A character as it is written between quotes. -/
def quotedChar (char : Char) : List Char :=
  match char with
  | '"' => ['\\', '"']
  | '\\' => ['\\', '\\']
  | '\n' => ['\\', 'n']
  | '\r' => ['\\', 'r']
  | '\t' => ['\\', 't']
  | '\x00' => ['\\', '0']
  | char =>
      if isVisible char then [char]
      else "\\u\x7b".toList ++ Nat.toDigits 16 char.toNat ++ ['\x7d']

/-- A text between quotes. -/
def quoted (text : String) : String :=
  mapChars (fun chars => '"' :: chars.flatMap quotedChar ++ ['"']) text

end SourceLens.Text
