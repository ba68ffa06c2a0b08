import SourceLens.Doc
import SourceLens.Text.Blank
import SourceLens.Text.LowerCase

/-!
# Sections under headings

The other layout of documentation puts sections under headings: lines that start with number signs.
What comes before the first heading is the summary, parameters are list items, sections with
other headings are left out, and so is everything in fenced code.
-/

namespace SourceLens.Doc

/-- The sections that a heading can start. -/
inductive Section where
  | summary
  | params
  | returns
  | remarks
  | ignored
  deriving DecidableEq, Repr

/-- The section that a title starts. -/
def Section.ofTitle (title : String) : Section :=
  match title with
  | "arguments" | "parameters" | "params" => .params
  | "returns" | "return value" => .returns
  | "remarks" | "notes" => .remarks
  | _ => .ignored

/-- The title of a heading.  A lone number sign is no heading. -/
def heading? : List Char → Option (List Char)
  | '#' :: char :: chars => some (Text.trim (Text.dropLeading (· == '#') (char :: chars)))
  | _ => none

/-- Whether a line opens or closes fenced code. -/
def isFence (line : List Char) : Bool :=
  ['\x60', '\x60', '\x60'].isPrefixOf (Text.trimLeading line)

/-- Letters and the underscore of ASCII. -/
def isNameStart (char : Char) : Bool :=
  char.isAlpha || char == '_'

/-- Letters, digits and the underscore of ASCII. -/
def isNameChar (char : Char) : Bool :=
  char.isAlphanum || char == '_'

/-- Removes one leading back-quote, when there is one. -/
def dropBackquote : List Char → List Char
  | '\x60' :: chars => chars
  | chars => chars

/-- The name and the description of a list item. -/
def listItem? : List Char → Option (String × String)
  | bullet :: rest => do
      if bullet ≠ '*' ∧ bullet ≠ '-' then none
      if !(rest.head?.any Text.isBlank) then none
      let rest := dropBackquote (Text.trimLeading rest)
      if !(rest.head?.any isNameStart) then none
      let (name, rest) := rest.span isNameChar
      match Text.trimLeading (dropBackquote rest) with
      | mark :: rest =>
          if mark = '-' ∨ mark = ':' ∨ mark = '–' then
            some (String.ofList name, String.ofList (Text.trim rest))
          else none
      | [] => none
  | [] => none

/-- Adds a line to the last description, after a space. -/
def continueLast (line : List Char) : List (String × String) → List (String × String)
  | [] => []
  | [(name, text)] => [(name, text ++ " " ++ String.ofList line)]
  | param :: params => param :: continueLast line params

/-- The parameters after a further line of their section. -/
def addParamLine (params : List (String × String)) (line : List Char) : List (String × String) :=
  let trimmed := Text.trim line
  match listItem? trimmed with
  | some param => params ++ [param]
  | none => if trimmed.isEmpty then params else continueLast trimmed params

/-- The sections read so far. -/
structure Reading where
  /-- The section that the next line belongs to. -/
  current : Section := .summary
  /-- Whether the next line is in fenced code. -/
  inCode : Bool := false
  summary : List (List Char) := []
  params : List (String × String) := []
  returns : List (List Char) := []
  remarks : List (List Char) := []

/-- The sections after a line that is neither a fence nor in code. -/
def Reading.addText (reading : Reading) (line : List Char) : Reading :=
  match heading? line with
  | some title => { reading with current := .ofTitle (String.ofList (Text.lowerAscii title)) }
  | none =>
      match reading.current with
      | .summary => { reading with summary := reading.summary ++ [line] }
      | .params => { reading with params := addParamLine reading.params line }
      | .returns => { reading with returns := reading.returns ++ [line] }
      | .remarks => { reading with remarks := reading.remarks ++ [line] }
      | .ignored => reading

/-- The sections after a further line. -/
def Reading.addLine (reading : Reading) (line : List Char) : Reading :=
  if isFence line then { reading with inCode := !reading.inCode }
  else if reading.inCode then reading
  else reading.addText line

/-- The lines of a section as a text, unless it is empty. -/
def joinSection? (lines : List (List Char)) : Option String :=
  let text := Text.trim (Text.joinLines lines)
  if text.isEmpty then none else some (String.ofList text)

/-- The sections of a text under headings. -/
def ofHeaded (text : List Char) : Doc :=
  let reading := (Text.lines text).foldl Reading.addLine {}
  { summary := joinSection? reading.summary
    params := reading.params
    returns := joinSection? reading.returns
    remarks := joinSection? reading.remarks }

end SourceLens.Doc
