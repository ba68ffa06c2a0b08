/-!
# Searches

A search finds something, or finds that there is nothing, or does not come to an end within the
number of steps that it was given.
-/

namespace SourceLens

/-- The outcome of a search. -/
inductive Search (α : Type) where
  | found (value : α)
  | absent
  /-- The search was given too few steps, or would never end. -/
  | endless
  deriving DecidableEq, Repr

namespace Search

/-- Continues with what was found. -/
def andThen {α β : Type} (search : Search α) (next : α → Search β) : Search β :=
  match search with
  | found value => next value
  | absent => absent
  | endless => endless

instance : Monad Search where
  pure := found
  bind := andThen

/-- Looks elsewhere when there is nothing to be found. -/
def orElse {α : Type} (search : Search α) (next : Search α) : Search α :=
  match search with
  | absent => next
  | outcome => outcome

/-- A search that has ended. -/
def ofOption {α : Type} : Option α → Search α
  | some value => found value
  | none => absent

/-- What was found, if anything. -/
def toOption {α : Type} : Search α → Option α
  | found value => some value
  | _ => none

/-- Takes the absence of anything for a result. -/
def optional {α : Type} : Search α → Search (Option α)
  | found value => found (some value)
  | absent => found none
  | endless => endless

end Search

end SourceLens
