/-!
# Search frontiers

The search for a short edit script keeps, for each diagonal, the furthest character it has reached
in the old text.  Diagonals are integers; one that has not been reached reads as zero.
-/

namespace SourceLens

/-- The furthest position on each diagonal from `-reach` to `reach`. -/
structure Frontier where
  /-- The largest diagonal, and the negative of the smallest. -/
  reach : Nat
  /-- The positions, the one of diagonal zero at index `reach`. -/
  positions : Array Nat

namespace Frontier

/-- The frontier on which nothing has been reached. -/
def empty (reach : Nat) : Frontier :=
  ⟨reach, Array.replicate (2 * reach + 1) 0⟩

/-- Where a diagonal is kept. -/
def slot (frontier : Frontier) (diagonal : Int) : Nat :=
  (diagonal + frontier.reach).toNat

/-- The furthest position on a diagonal. -/
def get (frontier : Frontier) (diagonal : Int) : Nat :=
  frontier.positions.getD (frontier.slot diagonal) 0

/-- Records the furthest position on a diagonal. -/
def set (frontier : Frontier) (diagonal : Int) (position : Nat) : Frontier :=
  { frontier with
    positions := frontier.positions.setIfInBounds (frontier.slot diagonal) position }

end Frontier

end SourceLens
