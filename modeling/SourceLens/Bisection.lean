/-!
# Bisection

Where a test that is true of a front part of an array and false of the rest turns false, found by
halving.
-/

namespace SourceLens

/-- Halves the part of an array in which a test, true of a front part and false of the rest, turns
false.  The first argument bounds the number of halvings. -/
def bisect {α : Type} (test : α → Bool) (values : Array α) : Nat → Nat → Nat → Nat
  | 0, base, _ => base
  | bound + 1, base, size =>
      if size ≤ 1 then base
      else
        let half := size / 2
        let middle := base + half
        match values[middle]? with
        | some value =>
            bisect test values bound (if test value then middle else base) (size - half)
        | none => base

/-- The number of elements in the front part of an array on which a test is true. -/
def partitionPoint {α : Type} (test : α → Bool) (values : Array α) : Nat :=
  let base := bisect test values values.size 0 values.size
  match values[base]? with
  | some value => if test value then base + 1 else base
  | none => 0

/-- The last element of the front part of an array on which a test is true. -/
def lastPassing? {α : Type} (test : α → Bool) (values : Array α) : Option α :=
  match partitionPoint test values with
  | 0 => none
  | index + 1 => values[index]?

end SourceLens
