import SourceLens.Text.Numeral

/-!
# YAML values

Settings are written in YAML.  A scalar keeps its text and whether it stood without quotes, since
only such a scalar denotes a number or a truth value.
-/

namespace SourceLens

/-- A YAML value. -/
inductive Yaml where
  /-- A scalar with its text; it is plain when it is written without quotes. -/
  | scalar (text : String) (isPlain : Bool)
  | sequence (items : List Yaml)
  | mapping (entries : List (Yaml × Yaml))
  deriving Inhabited

namespace Yaml

/-- The value that stands where nothing is written. -/
def empty : Yaml :=
  .scalar "" true

/-- The text of a scalar. -/
def text? : Yaml → Option String
  | .scalar text _ => some text
  | _ => none

/-- The truth value of a plain scalar. -/
def truth? : Yaml → Option Bool
  | .scalar text true =>
      if text ∈ ["true", "True", "TRUE"] then some true
      else if text ∈ ["false", "False", "FALSE"] then some false
      else none
  | _ => none

/-- Whether a text has a superfluous zero in front of its digits, which makes it no number. -/
def isPadded (chars : List Char) : Bool :=
  match chars with
  | '0' :: rest => !rest.isEmpty && rest.all fun char => (Text.digit? 10 char).isSome
  | _ => false

/-- The number that a text denotes: decimal, or with a mark for base sixteen, eight or two. -/
def number? (chars : List Char) : Option Nat :=
  let digits :=
    match chars with
    | '+' :: digits => digits
    | digits => digits
  match digits with
  | '0' :: 'x' :: rest => Text.numeral? 16 rest
  | '0' :: 'o' :: rest => Text.numeral? 8 rest
  | '0' :: 'b' :: rest => Text.numeral? 2 rest
  | digits => if isPadded digits then none else Text.numeral? 10 digits

/-- The number that a plain scalar denotes, if it is no more than a limit. -/
def natural? (limit : Nat) : Yaml → Option Nat
  | .scalar text true => (number? text.toList).filter fun value => value ≤ limit
  | _ => none

/-- The texts of a sequence of scalars.  A missing sequence is an empty one. -/
def texts? : Yaml → Option (List String)
  | .scalar "" true => some []
  | .sequence items => items.mapM text?
  | _ => none

/-- The entries of a mapping.  A missing mapping is an empty one. -/
def entries? : Yaml → Option (List (Yaml × Yaml))
  | .scalar "" true => some []
  | .mapping entries => some entries
  | _ => none

end Yaml

end SourceLens
