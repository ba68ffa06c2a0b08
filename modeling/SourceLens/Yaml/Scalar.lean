import SourceLens.Text.Blank
import SourceLens.Text.Numeral

/-!
# YAML scalars

A scalar is plain, in single quotes or in double quotes.  It may run over several lines: a single
line break then reads as a space, and further ones stay.  Each reader returns the text of the scalar
and the point after it.
-/

namespace SourceLens.Yaml

/-- A place in a text: what follows, the number of the line and the column. -/
structure Point where
  /-- What follows. -/
  rest : List Char
  /-- The number of line breaks before the place. -/
  line : Nat := 0
  /-- The number of characters between the last line break and the place. -/
  column : Nat := 0

/-- The characters that end a line. -/
def isBreak (char : Char) : Bool :=
  char == '\n' || char == '\u2028' || char == '\u2029'

/-- The characters that may stand between words of a line. -/
def isGap (char : Char) : Bool :=
  char == ' ' || char == '\t'

/-- Whether a text starts with space, or is at its end. -/
def isApart : List Char → Bool
  | [] => true
  | char :: _ => isGap char || isBreak char

/-- Whether three characters that divide documents follow, on a line of their own. -/
def Point.isDivider (point : Point) (mark : Char) : Bool :=
  point.column == 0 &&
    match point.rest with
    | first :: second :: third :: rest =>
        first == mark && second == mark && third == mark && isApart rest
    | _ => false

/-- Whether the document ends at a place. -/
def Point.isEnd (point : Point) : Bool :=
  point.rest.isEmpty || point.isDivider '-' || point.isDivider '.'

/-- The place after a number of characters of the same line. -/
def Point.drop (point : Point) (count : Nat) : Point :=
  { point with rest := point.rest.drop count, column := point.column + count }

/-- The place after one character. -/
def Point.next (point : Point) : Point :=
  match point.rest with
  | [] => point
  | char :: rest =>
      if isBreak char then ⟨rest, point.line + 1, 0⟩ else ⟨rest, point.line, point.column + 1⟩

/-- The space inside a scalar, between two of its words. -/
structure Space where
  /-- Spaces and tabs of the line, last one first. -/
  gaps : List Char := []
  /-- Whether the line has ended. -/
  isBroken : Bool := false
  /-- The line break that reads as a space. -/
  fold : Option Char := none
  /-- The line breaks that stay, last one first. -/
  breaks : List Char := []

namespace Space

/-- Whether there is no space. -/
def isEmpty (space : Space) : Bool :=
  space.gaps.isEmpty && !space.isBroken

/-- One more space, tab or line break. -/
def push (space : Space) (char : Char) : Space :=
  if isBreak char then
    if space.isBroken then { space with breaks := char :: space.breaks }
    else { isBroken := true, fold := some char }
  else if space.isBroken then space
  else { space with gaps := char :: space.gaps }

/-- What a space reads as. -/
def read (space : Space) : List Char :=
  if space.isBroken then
    match space.fold with
    | some '\n' => if space.breaks.isEmpty then [' '] else space.breaks.reverse
    | some char => char :: space.breaks.reverse
    | none => space.breaks.reverse
  else space.gaps.reverse

end Space

/-- The brackets and commas that end a plain scalar inside brackets. -/
def isFlowMark (char : Char) : Bool :=
  char ∈ [',', '[', ']', '\x7b', '\x7d']

/-- Whether a plain scalar may start with a text. -/
def startsPlain (inFlow : Bool) : List Char → Bool
  | [] => false
  | '-' :: rest => !isApart rest
  | '?' :: rest => !inFlow && !isApart rest
  | ':' :: rest => !inFlow && !isApart rest
  | char :: _ =>
      !isGap char && !isBreak char && !isFlowMark char && !("#&*!|>'\"%@`".toList.contains char)

/-- Reads a plain scalar.  Its text so far is kept last character first.  Outside brackets it goes on
in a further line only if that line is indented to the column `least`. -/
def plainFrom (inFlow : Bool) (least : Nat) :
    List Char → Nat → Nat → List Char → Space → Option (String × Point)
  | [], line, column, text, _ => some (String.ofList text.reverse, ⟨[], line, column⟩)
  | char :: rest, line, column, text, space =>
      let here : Point := ⟨char :: rest, line, column⟩
      let done := some (String.ofList text.reverse, here)
      let joined := char :: (space.read.reverse ++ text)
      if isBreak char then plainFrom inFlow least rest (line + 1) 0 text (space.push char)
      else if isGap char then
        if char = '\t' ∧ space.isBroken ∧ column < least then none
        else plainFrom inFlow least rest line (column + 1) text (space.push char)
      else if !space.isEmpty && (char == '#' || here.isEnd || (!inFlow && column < least)) then done
      else if char = ':' then
        if isApart rest then done
        else if inFlow && rest.head?.any (fun next => isFlowMark next || next == '?') then none
        else plainFrom inFlow least rest line (column + 1) joined {}
      else if inFlow && isFlowMark char then done
      else plainFrom inFlow least rest line (column + 1) joined {}

/-- Reads a plain scalar. -/
def plain? (inFlow : Bool) (least : Nat) (point : Point) : Option (String × Point) :=
  plainFrom inFlow least point.rest point.line point.column [] {}

/-- Reads the rest of a scalar in single quotes, in which a quote is written twice. -/
def singleFrom : List Char → Nat → Nat → List Char → Space → Option (String × Point)
  | [], _, _, _, _ => none
  | '\'' :: '\'' :: rest, line, column, text, space =>
      singleFrom rest line (column + 2) ('\'' :: (space.read.reverse ++ text)) {}
  | '\'' :: rest, line, column, text, space =>
      some (String.ofList (space.read.reverse ++ text).reverse, ⟨rest, line, column + 1⟩)
  | char :: rest, line, column, text, space =>
      if (⟨char :: rest, line, column⟩ : Point).isEnd then none
      else if isBreak char then singleFrom rest (line + 1) 0 text (space.push char)
      else if isGap char then singleFrom rest line (column + 1) text (space.push char)
      else singleFrom rest line (column + 1) (char :: (space.read.reverse ++ text)) {}

/-- The character that a letter after a backslash denotes. -/
def escaped? : Char → Option Char
  | '0' => some '\x00'
  | 'a' => some '\x07'
  | 'b' => some '\x08'
  | 't' => some '\t'
  | '\t' => some '\t'
  | 'n' => some '\n'
  | 'v' => some '\x0b'
  | 'f' => some '\x0c'
  | 'r' => some '\r'
  | 'e' => some '\x1b'
  | ' ' => some ' '
  | '"' => some '"'
  | '/' => some '/'
  | '\\' => some '\\'
  | 'N' => some '\u0085'
  | '_' => some '\u00a0'
  | 'L' => some '\u2028'
  | 'P' => some '\u2029'
  | _ => none

/-- The number of hexadecimal digits after a letter that announces a code point. -/
def codeLength? : Char → Option Nat
  | 'x' => some 2
  | 'u' => some 4
  | 'U' => some 8
  | _ => none

/-- The character of a code point in hexadecimal digits. -/
def codePoint? (digits : List Char) : Option Char := do
  let code ← Text.numeral? 16 digits
  if code.isValidChar then return Char.ofNat code else none

/-- Reads the rest of a scalar in double quotes, in which a backslash starts an escape.  A backslash
at the end of a line joins it to the next.  The first argument bounds the number of steps. -/
def doubleFrom : Nat → Point → List Char → Space → Option (String × Point)
  | 0, _, _, _ => none
  | steps + 1, point, text, space =>
      let joined := space.read.reverse ++ text
      if point.isEnd then none
      else
        match point.rest with
        | [] => none
        | '"' :: _ => some (String.ofList joined.reverse, point.next)
        | '\\' :: letter :: rest =>
            if isBreak letter then
              doubleFrom steps (point.drop 1).next joined { isBroken := true }
            else
              match codeLength? letter with
              | some count => do
                  let digits := rest.take count
                  if digits.length < count then none
                  else
                    let char ← codePoint? digits
                    doubleFrom steps (point.drop (2 + count)) (char :: joined) {}
              | none => do
                  let char ← escaped? letter
                  doubleFrom steps (point.drop 2) (char :: joined) {}
        | char :: _ =>
            if isBreak char || isGap char then doubleFrom steps point.next text (space.push char)
            else doubleFrom steps point.next (char :: joined) {}

/-- Reads a scalar in quotes, from its opening quote on. -/
def quoted? (point : Point) : Option (String × Point) :=
  match point.rest with
  | '\'' :: rest => singleFrom rest point.line (point.column + 1) [] {}
  | '"' :: rest => doubleFrom (rest.length + 1) point.next [] {}
  | _ => none

end SourceLens.Yaml
