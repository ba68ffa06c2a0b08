import Mathlib.Data.List.Basic
import SourceLens.Proofs.Cache.Run

/-!
# Whose context a look-up returns

Contexts are built from the references of a set and found by its key, which is the names joined with
`;`.  A name may hold that separator itself, so different sets can have one key: they have it
exactly when cutting their names at the separator gives the same segments.

A look-up therefore returns what came of building the very references that were looked up, along all
runs, exactly when the sets in use are told apart by their segments.
-/

namespace SourceLens

namespace ReferenceSet

/-- The names of a set, cut at each separator. -/
def segments (set : ReferenceSet) : List (List Char) :=
  set.references.flatMap fun name => name.toList.splitOn ';'

theorem mem_of_mem_dropRepeats {name : String} {names : List String}
    (member : name ∈ dropRepeats names) : name ∈ names := by
  fun_induction dropRepeats names with
  | case1 second rest ih => exact List.mem_cons_of_mem _ (ih member)
  | case2 first second rest different ih =>
      rcases List.mem_cons.mp member with rfl | later
      · exact List.mem_cons_self
      · exact List.mem_cons_of_mem _ (ih later)
  | case3 names short => exact member

/-- The names of a set are given names without the blanks around them, and none is empty. -/
theorem exists_of_mem_ofNames {name : String} {names : List String}
    (member : name ∈ (ofNames names).references) :
    (∃ given ∈ names, name = Text.mapChars Text.trim given) ∧ name ≠ "" := by
  have kept := mem_of_mem_dropRepeats member
  rw [List.mem_mergeSort, List.mem_filter, List.mem_map] at kept
  rcases kept with ⟨⟨given, givenMember, rfl⟩, nonempty⟩
  exact ⟨⟨given, givenMember, rfl⟩, by simpa using nonempty⟩

/-- Cutting joined names at the separator gives the segments of the names, one after the other. -/
theorem splitOn_key {set : ReferenceSet} (nonempty : set.references ≠ []) :
    set.key.toList.splitOn ';' = set.segments := by
  rcases set with ⟨names⟩
  simp only [key, segments, String.toList_intercalate]
  induction names with
  | nil => exact (nonempty rfl).elim
  | cons name names ih =>
      cases names with
      | nil => simp
      | cons second rest =>
          have later := ih (by simp)
          simp only [List.map_cons, List.flatMap_cons] at later ⊢
          rw [List.intercalate_cons_cons, ← later, List.append_assoc]
          exact List.splitOn_append_cons_self name.toList _

theorem segments_eq_nil_iff {set : ReferenceSet} : set.segments = [] ↔ set.references = [] := by
  constructor
  · intro noSegments
    cases referencesEq : set.references with
    | nil => rfl
    | cons name rest =>
        rw [← splitOn_key (by simp [referencesEq])] at noSegments
        exact (List.splitOn_ne_nil _ _ noSegments).elim
  · intro noReferences
    simp [segments, noReferences]

/-- The empty key belongs to the empty set alone. -/
theorem references_eq_nil_of_key_eq_empty {names : List String}
    (noKey : (ofNames names).key = "") : (ofNames names).references = [] := by
  cases referencesEq : (ofNames names).references with
  | nil => rfl
  | cons name rest =>
      have nameFilled : name ≠ "" := (exists_of_mem_ofNames (by rw [referencesEq]; simp)).2
      rw [key, referencesEq] at noKey
      cases rest with
      | nil => exact (nameFilled (by simpa using noKey)).elim
      | cons second rest => simp [String.intercalate_cons_cons] at noKey

/-- Two sets have one key exactly when their names have the same segments. -/
theorem key_eq_key_iff {first second : List String} :
    (ofNames first).key = (ofNames second).key ↔
      (ofNames first).segments = (ofNames second).segments := by
  constructor
  · intro sameKey
    by_cases noFirst : (ofNames first).references = []
    · have noKey : (ofNames second).key = "" := by
        rw [← sameKey]
        simp [key, noFirst]
      simp [segments, noFirst, references_eq_nil_of_key_eq_empty noKey]
    · by_cases noSecond : (ofNames second).references = []
      · have noKey : (ofNames first).key = "" := by
          rw [sameKey]
          simp [key, noSecond]
        exact (noFirst (references_eq_nil_of_key_eq_empty noKey)).elim
      · rw [← splitOn_key noFirst, ← splitOn_key noSecond, sameKey]
  · intro sameSegments
    by_cases noFirst : (ofNames first).references = []
    · have noSecond : (ofNames second).references = [] := by
        rw [← segments_eq_nil_iff, ← sameSegments]
        exact segments_eq_nil_iff.mpr noFirst
      simp [key, noFirst, noSecond]
    · have someSecond : (ofNames second).references ≠ [] := by
        rw [Ne, ← segments_eq_nil_iff, ← sameSegments]
        exact fun noSegments => noFirst (segments_eq_nil_iff.mp noSegments)
      have rejoin : ∀ chars : List Char, [';'].intercalate (chars.splitOn ';') = chars :=
        fun chars => List.intercalate_splitOn ';'
      rw [← splitOn_key noFirst, ← splitOn_key someSecond] at sameSegments
      rw [← String.toList_inj, ← rejoin (ofNames first).key.toList, sameSegments, rejoin]

/-- Without the separator in any name, a set is told by its segments. -/
theorem eq_of_segments_eq {first second : ReferenceSet}
    (firstPlain : ∀ name ∈ first.references, ';' ∉ name.toList)
    (secondPlain : ∀ name ∈ second.references, ';' ∉ name.toList)
    (sameSegments : first.segments = second.segments) : first = second := by
  have plain : ∀ set : ReferenceSet, (∀ name ∈ set.references, ';' ∉ name.toList) →
      set.segments = set.references.map String.toList := by
    intro set noSeparator
    rw [segments, ← List.flatMap_singleton' (set.references.map String.toList), List.flatMap_map]
    apply List.flatMap_congr
    intro name member
    exact List.splitOn_eq_singleton (noSeparator name member)
  rw [plain first firstPlain, plain second secondPlain] at sameSegments
  have sameReferences : first.references = second.references :=
    List.map_injective_iff.mpr (fun _ _ => String.toList_inj.mp) sameSegments
  cases first
  cases second
  exact congrArg mk sameReferences

theorem mem_of_mem_trim {char : Char} {chars : List Char} (member : char ∈ Text.trim chars) :
    char ∈ chars := by
  simp only [Text.trim, Text.dropTrailing, Text.trimLeading, Text.dropLeading,
    List.mem_reverse] at member
  have untrimmed := (List.dropWhile_sublist _).subset member
  rw [List.mem_reverse] at untrimmed
  exact (List.dropWhile_sublist _).subset untrimmed

/-- Blanks are all that a set takes from a name, so it adds no separator to one. -/
theorem not_mem_of_mem_ofNames {name : String} {names : List String} {char : Char}
    (absent : ∀ given ∈ names, char ∉ given.toList)
    (member : name ∈ (ofNames names).references) : char ∉ name.toList := by
  rcases exists_of_mem_ofNames member with ⟨⟨given, givenMember, rfl⟩, -⟩
  intro present
  apply absent given givenMember
  exact mem_of_mem_trim (by simpa [Text.mapChars] using present)

end ReferenceSet

namespace Cache

variable {κ : Type} {engine : Engine κ} {options : CacheOptions}

/-- Whether an outcome is a context or the failure to build one. -/
def IsBuilt : Except CacheError κ → Prop
  | .ok _ => True
  | .error (.construction _ _) => True
  | .error _ => False

/-- Whether a look-up after some events, if it returns a context or the failure to build one,
returns what came of a call for exactly the references that were looked up. -/
def ServesOwn (engine : Engine κ) (options : CacheOptions) (events : List Event)
    (set : ReferenceSet) (isCancelled : Bool) : Prop :=
  IsBuilt ((({} : Cache κ).run engine options events).getOrCreate engine options set
    isCancelled).1 →
    ∃ call, call.references = set.references ∧
      Produced engine options (callLog engine options {} (events ++ [.lookUp set isCancelled]))
        ((({} : Cache κ).run engine options events).getOrCreate engine options set isCancelled).1
        call

/-- Whether every look-up serves its own references, for all engines and along all runs over sets of
allowed names. -/
def AlwaysServesOwn (allowed : List String → Prop) : Prop :=
  ∀ (κ : Type) (engine : Engine κ) (options : CacheOptions) (events : List Event)
    (names : List String) (isCancelled : Bool),
    (∀ set isCancelled, .lookUp set isCancelled ∈ events →
      ∃ names, allowed names ∧ set = .ofNames names) →
    allowed names → ServesOwn engine options events (.ofNames names) isCancelled

/-- Along every run, a context or the failure to build one comes from a call for references with the
key that was looked up. -/
theorem exists_produced_of_isBuilt {events : List Event} {set : ReferenceSet} {isCancelled : Bool}
    (built : IsBuilt
      ((({} : Cache κ).run engine options events).getOrCreate engine options set isCancelled).1) :
    ∃ call, (ReferenceSet.mk call.references).key = set.key ∧
      Produced engine options (callLog engine options {} (events ++ [.lookUp set isCancelled]))
        ((({} : Cache κ).run engine options events).getOrCreate engine options set isCancelled).1
        call := by
  have initial : Traced engine options [] ({} : Cache κ) := .empty
  rcases ((initial.run events).getOrCreate set isCancelled).2 with
    ⟨reason, -, failed⟩ | ⟨call, produced, callKey⟩
  · rw [failed] at built
    exact built.elim
  · refine ⟨call, callKey, ?_⟩
    rw [callLog_append]
    simpa [callLog] using produced

theorem alwaysServesOwn_of_segments_injective {allowed : List String → Prop}
    (toldApart : ∀ first second, allowed first → allowed second →
      (ReferenceSet.ofNames first).segments = (ReferenceSet.ofNames second).segments →
        ReferenceSet.ofNames first = ReferenceSet.ofNames second) :
    AlwaysServesOwn allowed := by
  intro κ engine options events names isCancelled allowedEvents allowedNames built
  rcases exists_produced_of_isBuilt built with ⟨call, callKey, produced⟩
  refine ⟨call, ?_, produced⟩
  rcases exists_lookUp_of_mem_callLog produced.mem with ⟨set, inEvents, referencesEq⟩
  rcases List.mem_append.mp inEvents with earlier | now
  · rcases allowedEvents set call.isCancelled earlier with ⟨names', allowedNames', rfl⟩
    have sameKey : (ReferenceSet.ofNames names').key = (ReferenceSet.ofNames names).key := by
      rw [← callKey, referencesEq]
    rw [referencesEq, toldApart names' names allowedNames' allowedNames
      (ReferenceSet.key_eq_key_iff.mp sameKey)]
  · cases List.mem_singleton.mp now
    exact referencesEq

/-- As long as no name holds the separator, look-ups serve their own references. -/
theorem alwaysServesOwn_of_no_separator :
    AlwaysServesOwn fun names => ∀ name ∈ names, ';' ∉ name.toList := by
  apply alwaysServesOwn_of_segments_injective
  intro first second firstPlain secondPlain sameSegments
  apply ReferenceSet.eq_of_segments_eq _ _ sameSegments
  · intro name member
    exact ReferenceSet.not_mem_of_mem_ofNames firstPlain member
  · intro name member
    exact ReferenceSet.not_mem_of_mem_ofNames secondPlain member

/-- An engine whose contexts are the references that they were built from. -/
def echo : Engine (List String) where
  create _ references _ := .ok ⟨references, []⟩

/-- After the look-up of one set, a set with the same key is given the references of the first. -/
theorem getOrCreate_echo {first second : ReferenceSet} (sameKey : first.key = second.key) :
    ((({} : Cache (List String)).run echo {} [.lookUp first false]).getOrCreate echo {} second
      false).1 = .ok first.references := by
  simp [run, step, getOrCreate, touch, slot?, excess, judge, echo, settle, record, sameKey]

theorem segments_injective_of_alwaysServesOwn {allowed : List String → Prop}
    (serves : AlwaysServesOwn allowed) (first second : List String) (allowedFirst : allowed first)
    (allowedSecond : allowed second)
    (sameSegments :
      (ReferenceSet.ofNames first).segments = (ReferenceSet.ofNames second).segments) :
    ReferenceSet.ofNames first = ReferenceSet.ofNames second := by
  have sameKey := ReferenceSet.key_eq_key_iff.mpr sameSegments
  have outcome := getOrCreate_echo sameKey
  have own := serves (List String) echo {} [.lookUp (.ofNames first) false] second false
    (by
      intro set isCancelled member
      cases List.mem_singleton.mp member
      exact ⟨first, allowedFirst, rfl⟩)
    allowedSecond
  rw [ServesOwn, outcome] at own
  rcases own trivial with ⟨call, referencesEq, number, -, outcomeEq⟩
  have sameReferences :
      (ReferenceSet.ofNames first).references = (ReferenceSet.ofNames second).references := by
    rw [← referencesEq]
    simpa [Call.verdict, judge, echo] using outcomeEq
  cases firstEq : ReferenceSet.ofNames first
  cases secondEq : ReferenceSet.ofNames second
  rw [firstEq, secondEq] at sameReferences
  exact congrArg ReferenceSet.mk sameReferences

/-- Look-ups serve their own references exactly when no two different sets of allowed names have the
same segments once their names are cut at the separator. -/
theorem alwaysServesOwn_iff (allowed : List String → Prop) :
    AlwaysServesOwn allowed ↔
      ∀ first second, allowed first → allowed second →
        (ReferenceSet.ofNames first).segments = (ReferenceSet.ofNames second).segments →
          ReferenceSet.ofNames first = ReferenceSet.ofNames second := by
  constructor
  · exact segments_injective_of_alwaysServesOwn
  · exact alwaysServesOwn_of_segments_injective

/-- Of the names `a` and `b`, and of the one name `a;b`, the second is served the context of the
first. -/
theorem not_alwaysServesOwn : ¬AlwaysServesOwn fun _ => True := by
  intro serves
  have collision := segments_injective_of_alwaysServesOwn serves ["a", "b"] ["a;b"] trivial trivial
  have first : ReferenceSet.ofNames ["a", "b"] = ⟨["a", "b"]⟩ :=
    ReferenceSet.ofNames_of_sorted (by decide) (by decide) rfl
  have second : ReferenceSet.ofNames ["a;b"] = ⟨["a;b"]⟩ :=
    ReferenceSet.ofNames_of_sorted (by decide) (by decide) rfl
  rw [first, second] at collision
  exact absurd (collision (by decide)) (by decide)

end Cache

end SourceLens
