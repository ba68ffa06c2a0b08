/-!
# Numerals

The numbers that digits denote.  A numeral has at least one digit.
-/

namespace SourceLens.Text

/-- The value of a digit in a base. -/
def digit? (base : Nat) (char : Char) : Option Nat :=
  let value :=
    if '0' ≤ char ∧ char ≤ '9' then some (char.toNat - '0'.toNat)
    else if 'a' ≤ char ∧ char ≤ 'z' then some (char.toNat - 'a'.toNat + 10)
    else if 'A' ≤ char ∧ char ≤ 'Z' then some (char.toNat - 'A'.toNat + 10)
    else none
  value.filter fun digit => digit < base

/-- The number that a numeral in a base denotes. -/
def numeral? (base : Nat) (chars : List Char) : Option Nat :=
  if chars.isEmpty then none
  else chars.foldlM (fun value char => (digit? base char).map fun digit => value * base + digit) 0

/-- The number that a decimal numeral denotes, a plus sign before it allowed, if it is no more than a
limit. -/
def unsigned? (limit : Nat) (chars : List Char) : Option Nat :=
  let digits :=
    match chars with
    | '+' :: digits => digits
    | digits => digits
  (numeral? 10 digits).filter fun value => value ≤ limit

end SourceLens.Text
