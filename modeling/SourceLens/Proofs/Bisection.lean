import SourceLens.Bisection

/-!
# What bisection finds

Halving keeps the place where a test turns false in the part that is left (`Narrowed`).  So for a test
that is true of a front part, the partition point is the number of elements that pass, and the last one
of them is found as by a scan from the front.
-/

namespace SourceLens

variable {α : Type} {test good : α → Bool} {values : Array α} {base size : Nat}

/-- Whether there is a value at a place, and it passes a test. -/
def Passes (test : α → Bool) (values : Array α) (place : Nat) : Prop :=
  ∃ value, values[place]? = some value ∧ test value = true

theorem passes_iff {place : Nat} {value : α} (found : values[place]? = some value) :
    Passes test values place ↔ test value = true := by
  simp [Passes, found]

/-- The invariant of bisection: no place behind the part in question passes, and its first place passes
or is the very first one. -/
structure Narrowed (test : α → Bool) (values : Array α) (base size : Nat) : Prop where
  nonempty : 0 < size
  inside : base + size ≤ values.size
  started : base = 0 ∨ Passes test values base
  ended : ∀ place, Passes test values place → place < base + size

/-- A test that is true of a front part: with a place, all places before it pass. -/
def IsFront (test : α → Bool) (values : Array α) : Prop :=
  ∀ first second, first ≤ second → Passes test values second → Passes test values first

theorem Narrowed.bisect (front : IsFront test values) (narrowed : Narrowed test values base size)
    {bound : Nat} (enough : size ≤ bound + 1) :
    Narrowed test values (bisect test values bound base size) 1 := by
  induction bound generalizing base size with
  | zero =>
      have positive := narrowed.nonempty
      obtain rfl : size = 1 := by omega
      exact narrowed
  | succ bound ih =>
      rcases narrowed with ⟨nonempty, inside, started, ended⟩
      rw [SourceLens.bisect]
      split
      next single =>
        obtain rfl : size = 1 := by omega
        exact ⟨nonempty, inside, started, ended⟩
      next several =>
        have middleInside : base + size / 2 < values.size := by omega
        have found := Array.getElem?_eq_getElem middleInside
        simp only [found]
        apply ih _ (by omega)
        split
        next isPassed =>
          refine ⟨by omega, by omega, .inr ((passes_iff found).mpr isPassed), ?_⟩
          intro place passes
          have before := ended place passes
          omega
        next isFailed =>
          refine ⟨by omega, by omega, started, ?_⟩
          intro place passes
          apply Nat.lt_of_not_le
          intro behind
          apply isFailed
          exact (passes_iff found).mp (front _ _ (by omega) passes)

/-- The partition point separates the places that pass from those that do not. -/
theorem passes_iff_lt_partitionPoint (front : IsFront test values) (place : Nat) :
    Passes test values place ↔ place < partitionPoint test values := by
  by_cases isEmpty : values.size = 0
  · obtain rfl : values = #[] := Array.eq_empty_of_size_eq_zero isEmpty
    simp [Passes, partitionPoint, SourceLens.bisect]
  · have whole : Narrowed test values 0 values.size := by
      refine ⟨by omega, by omega, .inl rfl, ?_⟩
      rintro place ⟨value, found, -⟩
      have inRange := (Array.getElem?_eq_some_iff.mp found).1
      omega
    rcases whole.bisect front (Nat.le_succ values.size) with ⟨-, inside, started, ended⟩
    have found := Array.getElem?_eq_getElem (Nat.lt_of_succ_le inside)
    simp only [partitionPoint, found]
    split
    next isPassed =>
      constructor
      · exact ended place
      · intro before
        exact front _ _ (Nat.le_of_lt_succ before) ((passes_iff found).mpr isPassed)
    next isFailed =>
      have failed := mt (passes_iff found).mp isFailed
      have isFirst := started.resolve_right failed
      constructor
      · intro passes
        have before := ended place passes
        rw [isFirst] at before failed
        obtain rfl : place = 0 := by omega
        exact absurd passes failed
      · intro before
        omega

theorem pairwise_getElem? {relation : α → α → Prop} (pairwise : values.toList.Pairwise relation)
    {first second : Nat} {value later : α} (found : values[first]? = some value)
    (foundLater : values[second]? = some later) (inOrder : first < second) :
    relation value later := by
  rw [← Array.getElem?_toList] at found foundLater
  rcases List.getElem?_eq_some_iff.mp found with ⟨inRange, rfl⟩
  rcases List.getElem?_eq_some_iff.mp foundLater with ⟨inRange', rfl⟩
  exact List.pairwise_iff_getElem.mp pairwise first second inRange inRange' inOrder

theorem isFront_of_pairwise
    (front : values.toList.Pairwise fun first second => test second = true → test first = true) :
    IsFront test values := by
  rintro first second inOrder ⟨later, foundLater, passed⟩
  rcases Nat.eq_or_lt_of_le inOrder with rfl | before
  · exact ⟨later, foundLater, passed⟩
  · have inRange := Nat.lt_trans before (Array.getElem?_eq_some_iff.mp foundLater).1
    have found := Array.getElem?_eq_getElem inRange
    exact ⟨_, found, pairwise_getElem? front found foundLater before passed⟩

/-- If all that comes before a good value passes and the good value does not, it is at the partition
point, and nothing else is. -/
theorem filter_getElem?_partitionPoint
    (front : values.toList.Pairwise fun first second => test second = true → test first = true)
    (ahead : values.toList.Pairwise fun first second => good second = true → test first = true)
    (failing : ∀ value, good value = true → test value = false) {value : α} :
    values[partitionPoint test values]?.filter good = some value ↔
      value ∈ values ∧ good value = true := by
  have separates := passes_iff_lt_partitionPoint (isFront_of_pairwise front)
  rw [Option.filter_eq_some_iff]
  constructor
  · rintro ⟨found, isGood⟩
    exact ⟨Array.mem_of_getElem? found, isGood⟩
  · rintro ⟨member, isGood⟩
    rcases Array.getElem?_of_mem member with ⟨place, found⟩
    have notBefore : ¬place < partitionPoint test values := by
      rw [← separates, passes_iff found, failing value isGood]
      simp
    have notBehind : ¬partitionPoint test values < place := by
      intro behind
      have inRange : partitionPoint test values < values.size :=
        Nat.lt_trans behind (Array.getElem?_eq_some_iff.mp found).1
      have foundThere := Array.getElem?_eq_getElem inRange
      have passed := pairwise_getElem? ahead foundThere found behind isGood
      exact absurd ((separates _).mp ((passes_iff foundThere).mpr passed)) (Nat.lt_irrefl _)
    obtain rfl : place = partitionPoint test values := by omega
    exact ⟨found, isGood⟩

theorem takeWhile_eq_take {list : List α} {count : Nat}
    (separates : ∀ place, (∃ value, list[place]? = some value ∧ test value = true) ↔ place < count) :
    list.takeWhile test = list.take count := by
  induction list generalizing count with
  | nil => simp
  | cons first rest ih =>
      have here := separates 0
      simp only [List.getElem?_cons_zero, Option.some.injEq, exists_eq_left'] at here
      cases count with
      | zero => simp [here]
      | succ count =>
          rw [List.takeWhile_cons, if_pos (here.mpr (Nat.zero_lt_succ count)), List.take_succ_cons]
          congr 1
          apply ih
          intro place
          rw [← Nat.succ_lt_succ_iff, ← separates, List.getElem?_cons_succ]

/-- Bisection finds the last element that passes as a scan from the front does. -/
theorem lastPassing?_eq_getLast?
    (front : values.toList.Pairwise fun first second => test second = true → test first = true) :
    lastPassing? test values = (values.toList.takeWhile test).getLast? := by
  have separates := passes_iff_lt_partitionPoint (isFront_of_pairwise front)
  have scanned : values.toList.takeWhile test = values.toList.take (partitionPoint test values) := by
    apply takeWhile_eq_take
    intro place
    rw [← separates, Passes, Array.getElem?_toList]
  rw [scanned, lastPassing?]
  cases point : partitionPoint test values with
  | zero => simp
  | succ place =>
      rcases (separates place).mpr (by omega) with ⟨value, found, -⟩
      simp [List.getLast?_take, found]

theorem bisect_map {β : Type} (convert : β → α) (values : Array β) (bound base size : Nat) :
    bisect test (values.map convert) bound base size =
      bisect (fun value => test (convert value)) values bound base size := by
  induction bound generalizing base size with
  | zero => rfl
  | succ bound ih =>
      simp only [SourceLens.bisect, Array.getElem?_map]
      cases values[base + size / 2]? with
      | none => rfl
      | some value => simp only [Option.map_some, ih]

theorem lastPassing?_map {β : Type} (convert : β → α) (values : Array β) :
    lastPassing? test (values.map convert) =
      (lastPassing? (fun value => test (convert value)) values).map convert := by
  have samePoint : partitionPoint test (values.map convert) =
      partitionPoint (fun value => test (convert value)) values := by
    simp only [partitionPoint, bisect_map, Array.size_map, Array.getElem?_map]
    cases values[bisect (fun value => test (convert value)) values values.size 0 values.size]? <;> rfl
  rw [lastPassing?, lastPassing?, samePoint]
  cases partitionPoint (fun value => test (convert value)) values with
  | zero => rfl
  | succ place => simp

end SourceLens
