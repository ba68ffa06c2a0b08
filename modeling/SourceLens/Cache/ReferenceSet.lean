import SourceLens.Text.Blank

/-!
# Reference sets

The references of a request, without regard to their order, to repetitions and to blanks around them.
-/

namespace SourceLens

/-- The names of some references in canonical order. -/
structure ReferenceSet where
  references : List String
  deriving DecidableEq, Repr

namespace ReferenceSet

/-- A list without elements that are equal to the one before. -/
def dropRepeats : List String → List String
  | first :: second :: rest =>
      if first = second then dropRepeats (second :: rest)
      else first :: dropRepeats (second :: rest)
  | names => names

/-- The set of some names: trimmed, without blank ones and repetitions, in order. -/
def ofNames (names : List String) : ReferenceSet :=
  let trimmed := (names.map (Text.mapChars Text.trim)).filter fun name => !name.isEmpty
  ⟨dropRepeats (trimmed.mergeSort fun first second => first ≤ second)⟩

theorem ofNames_of_sorted {names references : List String}
    (trimmed : ((names.map (Text.mapChars Text.trim)).filter fun name => !name.isEmpty) = references)
    (sorted : references.Pairwise fun first second => first ≤ second)
    (distinct : dropRepeats references = references) : ofNames names = ⟨references⟩ := by
  have inOrder : references.Pairwise fun first second => decide (first ≤ second) = true :=
    sorted.imp decide_eq_true
  simp only [ofNames, trimmed, List.mergeSort_of_pairwise inOrder, distinct]

/-- The key under which the context of a set is kept. -/
def key (set : ReferenceSet) : String :=
  String.intercalate ";" set.references

end ReferenceSet

end SourceLens
