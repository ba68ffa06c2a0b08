import SourceLens.Text.Blank

/-!
# Documentation comments

The body of a run of comments, with the comment markers removed.  Lines of three slashes and blocks
that open with two stars document something; a fourth slash or a third star makes an ordinary
comment of it.
-/

namespace SourceLens.Doc

/-- Removes one leading space, when there is one. -/
def dropOneSpace : List Char → List Char
  | ' ' :: chars => chars
  | chars => chars

/-- Removes the star that continues a block comment, when there is one. -/
def dropStar : List Char → List Char
  | '*' :: chars => chars
  | chars => chars

/-- The line of a line comment after its three slashes. -/
def lineOfSlashes : List Char → List (List Char)
  | '/' :: _ => []
  | rest => [dropOneSpace (Text.dropTrailing (fun char => char == '\r' || char == '\n') rest)]

/-- The lines of a block comment after its opening. -/
def linesOfBlock : List Char → List (List Char)
  | '*' :: _ => []
  | rest =>
      match Text.dropSuffix? "*/".toList rest with
      | none => []
      | some body =>
          (Text.lines body).map fun line => dropOneSpace (dropStar (Text.trimLeading line))

/-- The documentation lines of a comment. -/
def commentLines (comment : List Char) : List (List Char) :=
  match Text.dropLead? "///".toList comment with
  | some rest => lineOfSlashes rest
  | none =>
      match Text.dropLead? "/**".toList comment with
      | some rest => linesOfBlock rest
      | none => []

/-- The body of a run of comments, if anything is left of it. -/
def ofComments? (comments : List String) : Option String :=
  let body := Text.trim (Text.joinLines (comments.flatMap fun comment => commentLines comment.toList))
  if body.isEmpty then none else some (String.ofList body)

end SourceLens.Doc
