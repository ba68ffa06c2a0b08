import SourceLens.Doc
import SourceLens.Text.Occurrence

/-!
# Sections in tags

One of the two layouts of documentation puts each section between an opening and a closing tag.
-/

namespace SourceLens.Doc

/-- The text between the first opening mark and the next closing one. -/
def between? (opening closing : String) (text : List Char) : Option (List Char) := do
  let (_, rest) ← Text.breakOn? opening.toList text
  let (inner, _) ← Text.breakOn? closing.toList rest
  return inner

/-- The trimmed text of a tag, unless it is empty. -/
def section? (tag : String) (text : List Char) : Option String := do
  let inner ← between? ("<" ++ tag ++ ">") ("</" ++ tag ++ ">") text
  let trimmed := Text.trim inner
  if trimmed.isEmpty then none else some (String.ofList trimmed)

/-- A mark after optional blanks, and the text after it. -/
def markAfterBlanks? (mark : String) (chars : List Char) : Option (List Char) :=
  Text.dropLead? mark.toList (Text.trimLeading chars)

/-- The name in an opening parameter tag at the front of a text, and the text after the tag. -/
def paramTag? (chars : List Char) : Option (List Char × List Char) := do
  let rest ← Text.dropLead? "<param".toList chars
  if !(rest.head?.any Text.isBlank) then none
  let rest ← markAfterBlanks? "name" rest
  let rest ← markAfterBlanks? "=" rest
  let rest ← markAfterBlanks? "\"" rest
  let (name, rest) ← Text.breakOn? ['"'] rest
  let rest ← markAfterBlanks? ">" rest
  return (name, rest)

/-- The parameter tag at the front of a text: its name, its content and the text after it. -/
def taggedParam? (chars : List Char) : Option (List Char × List Char × List Char) := do
  let (name, rest) ← paramTag? chars
  let (content, rest) ← Text.breakOn? "</param>".toList rest
  return (name, content, rest)

/-- The parameters in tags, in order.  The first argument bounds their number. -/
def taggedParams : Nat → List Char → List (String × String)
  | 0, _ => []
  | _ + 1, [] => []
  | bound + 1, char :: chars =>
      match taggedParam? (char :: chars) with
      | some (name, content, rest) =>
          (String.ofList name, String.ofList (Text.trim content)) :: taggedParams bound rest
      | none => taggedParams bound chars

/-- All parameters in tags. -/
def allTaggedParams (text : List Char) : List (String × String) :=
  taggedParams text.length text

/-- Whether a text has sections in tags. -/
def isTagged (text : List Char) : Bool :=
  (between? "<summary>" "</summary>" text).isSome || !(allTaggedParams text).isEmpty ||
    (between? "<returns>" "</returns>" text).isSome

/-- The sections of a text in tags. -/
def ofTagged (text : List Char) : Doc where
  summary := section? "summary" text
  params := allTaggedParams text
  returns := section? "returns" text
  remarks := section? "remarks" text

end SourceLens.Doc
