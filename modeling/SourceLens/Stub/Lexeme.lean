import SourceLens.Text.Alphabet
import SourceLens.Text.Blank
import SourceLens.Text.Span
import SourceLens.Text.Units

/-!
# Lexemes of stubs

A stub lists declarations without bodies.  Its lexemes are words, marks and comments; a documentation
line includes the line feed that ends it.
-/

namespace SourceLens.Stub

/-- What a lexeme is. -/
inductive LexemeKind where
  /-- A name or a reserved word. -/
  | word
  | mark
  | comment
  deriving DecidableEq, Repr

/-- A lexeme with its place in the stub. -/
structure Lexeme where
  kind : LexemeKind
  text : String
  span : Span
  deriving DecidableEq, Repr

/-- The characters up to the end of a line, and the rest. -/
def untilLineEnd (chars : List Char) : List Char × List Char :=
  chars.span (· != '\n')

/-- The lexeme at the front of a text that does not start with a blank, and the rest. -/
def firstLexeme (chars : List Char) : LexemeKind × List Char × List Char :=
  match chars with
  | '/' :: '/' :: '/' :: _ =>
      let (line, rest) := untilLineEnd chars
      (.comment, line ++ rest.take 1, rest.drop 1)
  | '/' :: '/' :: _ => (.comment, untilLineEnd chars)
  | '-' :: '>' :: rest => (.mark, ['-', '>'], rest)
  | char :: rest =>
      if Text.isWordChar char then (.word, chars.span Text.isWordChar) else (.mark, [char], rest)
  | [] => (.mark, [], [])

/-- The lexemes of a text that starts at a byte offset.  The first argument bounds the number of
characters. -/
def lexemesFrom : Nat → Nat → List Char → List Lexeme
  | 0, _, _ => []
  | _, _, [] => []
  | bound + 1, offset, char :: chars =>
      if Text.isBlank char then lexemesFrom bound (offset + char.utf8Size) chars
      else
        let (kind, text, rest) := firstLexeme (char :: chars)
        let stop := offset + Text.byteLength text
        ⟨kind, String.ofList text, ⟨offset, stop⟩⟩ :: lexemesFrom bound stop rest

/-- The lexemes of a stub. -/
def lexemes (stub : String) : List Lexeme :=
  let chars := stub.toList
  lexemesFrom chars.length 0 chars

end SourceLens.Stub
