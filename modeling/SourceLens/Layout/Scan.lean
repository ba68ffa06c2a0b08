import SourceLens.Text.Alphabet

/-!
# Scanning lines

Brackets count only in code.  A line is scanned from the state in which the line before it ended:
in code, in a string, in a raw string or in a nested comment.
-/

namespace SourceLens.Layout

/-- What a character is part of. -/
inductive ScanState where
  | code
  | string
  /-- A raw string with a number of marks. -/
  | rawString (marks : Nat)
  /-- Nested comments of a depth. -/
  | comment (depth : Nat)
  deriving DecidableEq, Repr

/-- What a character does to a scan. -/
inductive ScanStep where
  | finish
  /-- The scan goes on in a state, after a change of the number of open brackets and a number of
  further characters that belong to this one. -/
  | proceed (state : ScanState) (change : Int) (skipped : Nat)
  deriving DecidableEq, Repr

/-- The number of marks at the front of a text. -/
def leadingMarks (chars : List Char) : Nat :=
  (chars.takeWhile (· == '#')).length

/-- Whether a raw string opens after an `r`, given the characters around it. -/
def opensRawString (previous : Option Char) (rest : List Char) : Bool :=
  !previous.any Text.isWordChar && rest[leadingMarks rest]? == some '"'

/-- The number of characters of a character literal after its first quote, or zero for a lifetime. -/
def literalLength (rest : List Char) : Nat :=
  match rest with
  | '\\' :: _ =>
      match (rest.drop 2).findIdx? (· == '\'') with
      | some index => index + 3
      | none => 0
  | _ :: '\'' :: _ => 2
  | _ => 0

/-- What a character of code does. -/
def codeStep (previous : Option Char) (char : Char) (rest : List Char) : ScanStep :=
  match char with
  | '/' =>
      match rest.head? with
      | some '/' => .finish
      | some '*' => .proceed (.comment 1) 0 1
      | _ => .proceed .code 0 0
  | '"' => .proceed .string 0 0
  | 'r' =>
      if opensRawString previous rest then
        .proceed (.rawString (leadingMarks rest)) 0 (leadingMarks rest + 1)
      else .proceed .code 0 0
  | '\'' => .proceed .code 0 (literalLength rest)
  | '\x7b' | '(' | '[' => .proceed .code 1 0
  | '\x7d' | ')' | ']' => .proceed .code (-1) 0
  | _ => .proceed .code 0 0

/-- What a character of a string does. -/
def stringStep (char : Char) : ScanStep :=
  match char with
  | '\\' => .proceed .string 0 1
  | '"' => .proceed .code 0 0
  | _ => .proceed .string 0 0

/-- What a character of a raw string does. -/
def rawStringStep (marks : Nat) (char : Char) (rest : List Char) : ScanStep :=
  if char == '"' && ((rest.take marks).filter (· == '#')).length == marks then
    .proceed .code 0 marks
  else .proceed (.rawString marks) 0 0

/-- What a character of a comment does. -/
def commentStep (depth : Nat) (char : Char) (rest : List Char) : ScanStep :=
  match char, rest.head? with
  | '*', some '/' => .proceed (if depth = 1 then .code else .comment (depth - 1)) 0 1
  | '/', some '*' => .proceed (.comment (depth + 1)) 0 1
  | _, _ => .proceed (.comment depth) 0 0

/-- What a character does in a state. -/
def scanStep (state : ScanState) (previous : Option Char) (char : Char) (rest : List Char) :
    ScanStep :=
  match state with
  | .code => codeStep previous char rest
  | .string => stringStep char
  | .rawString marks => rawStringStep marks char rest
  | .comment depth => commentStep depth char rest

/-- The state at the end of a line and the change of the number of open brackets, from the character
before the rest of the line. -/
def scanFrom (state : ScanState) (previous : Option Char) : List Char → ScanState × Int
  | [] => (state, 0)
  | char :: rest =>
      match scanStep state previous char rest with
      | .finish => (state, 0)
      | .proceed next change skipped =>
          let last := (char :: rest.take skipped).getLast?
          let (final, further) := scanFrom next last (rest.drop skipped)
          (final, change + further)
termination_by chars => chars.length
decreasing_by simp only [List.length_drop, List.length_cons]; omega

/-- The state at the end of a line and the change of the number of open brackets. -/
def scan (state : ScanState) (line : List Char) : ScanState × Int :=
  scanFrom state none line

end SourceLens.Layout
