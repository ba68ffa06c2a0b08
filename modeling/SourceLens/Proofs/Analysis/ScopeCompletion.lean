import SourceLens.Proofs.Analysis.Completion
import SourceLens.Proofs.Edit.Acceptance

/-!
# What is offered in a scope, in any order of the free items

The free items of a table are kept by name, and nothing says in which order the names are gone through.
What is offered does not depend on it: a label stands for the nearest variable with that name, else for
the first item of the buffer, of the library, or for a reserved word, and the items of one name always
come in the order of their declarations.  Only labels that are equal without regard to case may change
places.
-/

namespace SourceLens

namespace Candidate

/-- A candidate is kept if it is the first one of a label that is not empty. -/
theorem mem_distinct_iff {candidates : List Candidate} {candidate : Candidate} :
    candidate ∈ distinct candidates ↔ candidate.label ≠ "" ∧
      candidates.find? (fun other => other.label == candidate.label) = some candidate := by
  induction candidates with
  | nil => simp [distinct]
  | cons first candidates ih =>
      by_cases same : first.label = candidate.label
      · rw [List.find?_cons_of_pos (by simpa using same), distinct_cons]
        split
        next isEmpty =>
          have noLabel : candidate.label = "" := by simpa [← same] using isEmpty
          simp [noLabel, same]
        next nonempty =>
          have labelled : candidate.label ≠ "" := by simpa [← same] using nonempty
          simp [labelled, same, eq_comm]
      · rw [List.find?_cons_of_neg (by simpa using same), ← ih, distinct_cons]
        have notFirst : candidate ≠ first := fun isFirst => same (by rw [isFirst])
        split <;> simp [notFirst, Ne.symm same]

theorem mem_arrange_iff {candidates : List Candidate} {candidate : Candidate} :
    candidate ∈ arrange candidates ↔ candidate.label ≠ "" ∧
      candidates.find? (fun other => other.label == candidate.label) = some candidate := by
  rw [(perm_arrange candidates).mem_iff, mem_distinct_iff]

theorem key_trans (first second third : String × Candidate)
    (forth : decide (first.1 ≤ second.1) = true) (further : decide (second.1 ≤ third.1) = true) :
    decide (first.1 ≤ third.1) = true := by
  rw [decide_eq_true_eq] at forth further ⊢
  exact String.le_trans forth further

theorem key_total (first second : String × Candidate) :
    (decide (first.1 ≤ second.1) || decide (second.1 ≤ first.1)) = true := by
  simpa using String.le_total first.1 second.1

/-- Candidates are sorted by label without regard to case. -/
theorem pairwise_sortKey_arrange (candidates : List Candidate) :
    (arrange candidates).Pairwise fun first second => first.sortKey ≤ second.sortKey := by
  rw [arrange, List.pairwise_map]
  refine (List.pairwise_mergeSort key_trans key_total _).imp_of_mem ?_
  intro first second isFirst isSecond inOrder
  rcases List.mem_map.mp (List.mem_mergeSort.mp isFirst) with ⟨candidate, -, rfl⟩
  rcases List.mem_map.mp (List.mem_mergeSort.mp isSecond) with ⟨candidate', -, rfl⟩
  exact of_decide_eq_true inOrder

end Candidate

/-- Whether a candidate stands for a declaration: it has its name, leads to it and shows what it
is. -/
structure Candidate.StandsFor (candidate : Candidate) (declaration : Declaration) : Prop where
  label_eq : candidate.label = declaration.name
  symbol_eq : candidate.symbol = some declaration.id
  kind_eq : candidate.kind = declaration.symbol.candidateKind

theorem Candidate.standsFor_iff {candidate : Candidate} {declaration : Declaration} :
    candidate.StandsFor declaration ↔ declaration.symbol.candidate = candidate := by
  constructor
  · rintro ⟨labelEq, symbolEq, kindEq⟩
    cases candidate
    subst labelEq symbolEq kindEq
    rfl
  · rintro rfl
    exact ⟨rfl, rfl, rfl⟩

namespace SymbolTable

variable {table : SymbolTable}

theorem free_eq_nil_of_not_mem_names {name : String} (unlisted : name ∉ table.freeIds.names) :
    table.free name = [] := by
  have absent : table.freeIds.lookup name = none := by
    rw [List.lookup_eq_none_iff]
    intro entry member
    rw [bne_iff_ne, ne_eq]
    rintro rfl
    exact unlisted (List.mem_map_of_mem member)
  simp [free, Index.under, absent]

/-- The items of a name stand together, wherever the name comes. -/
theorem IsFiled.find?_flatMap_free (filed : table.IsFiled) (name : String) (names : List String) :
    (names.flatMap table.free).find? (fun declaration => declaration.name == name) =
      if name ∈ names then (table.free name).head? else none := by
  induction names with
  | nil => rfl
  | cons other names ih =>
      rw [List.flatMap_cons, List.find?_append, ih]
      by_cases same : other = name
      · subst same
        cases isFree : table.free other with
        | nil => simp
        | cons first rest =>
            have named : first.name = other :=
              (filed.mem_free_iff.mp (isFree ▸ List.mem_cons_self)).2.1
            rw [List.find?_cons_of_pos (by simpa using named)]
            simp
      · have noMatch : (table.free other).find? (fun declaration => declaration.name == name) =
            none := by
          rw [List.find?_eq_none]
          intro declaration member
          rw [(filed.mem_free_iff.mp member).2.1]
          simpa using same
        simp [noMatch, Ne.symm same]

/-- In every order of the names, the first item with a name is the one that was declared first. -/
theorem IsFiled.find?_freeItems (filed : table.IsFiled) (order : NameOrder) (name : String) :
    (table.freeItems order).find? (fun declaration => declaration.name == name) =
      (table.free name).head? := by
  rw [freeItems, filed.find?_flatMap_free]
  split
  next => rfl
  next unlisted =>
    rw [(order.perm _).mem_iff] at unlisted
    rw [free_eq_nil_of_not_mem_names unlisted, List.head?_nil]

end SymbolTable

/-- The orders that turn round how the names were filed. -/
def NameOrders.backwards : NameOrders :=
  ⟨⟨List.reverse, List.reverse_perm⟩, ⟨List.reverse, List.reverse_perm⟩⟩

namespace Declaration

/-- Whether a declaration is the nearest one with a name: its scope starts last, and of those whose scopes
start together it was declared first. -/
structure IsNearest (declarations : List Declaration) (name : String) (nearest : Declaration) :
    Prop where
  member : nearest ∈ declarations
  named : nearest.name = name
  nearer : ∀ other ∈ declarations, other.name = name →
    other.scopeStart < nearest.scopeStart ∨
      other.scopeStart = nearest.scopeStart ∧ nearest.id ≤ other.id

/-- Declarations in the order in which their scopes start, the last one first. -/
def fromInside (declarations : List Declaration) : List Declaration :=
  declarations.mergeSort fun first second => second.scopeStart ≤ first.scopeStart

variable {declarations : List Declaration} {name : String}

theorem mem_fromInside_iff {declaration : Declaration} :
    declaration ∈ fromInside declarations ↔ declaration ∈ declarations :=
  List.mem_mergeSort

section Sorted

theorem scopeStart_trans (first second third : Declaration)
    (forth : decide (second.scopeStart ≤ first.scopeStart) = true)
    (further : decide (third.scopeStart ≤ second.scopeStart) = true) :
    decide (third.scopeStart ≤ first.scopeStart) = true := by
  rw [decide_eq_true_eq] at forth further ⊢
  exact Nat.le_trans further forth

theorem scopeStart_total (first second : Declaration) :
    (decide (second.scopeStart ≤ first.scopeStart) ||
      decide (first.scopeStart ≤ second.scopeStart)) = true := by
  simpa using Nat.le_total second.scopeStart first.scopeStart

theorem pairwise_fromInside (declarations : List Declaration) :
    (fromInside declarations).Pairwise fun first second =>
      second.scopeStart ≤ first.scopeStart :=
  (List.pairwise_mergeSort scopeStart_trans scopeStart_total declarations).imp of_decide_eq_true

/-- Declarations whose scopes start together stay in order. -/
theorem filter_fromInside (declarations : List Declaration) (start : Nat) :
    ((fromInside declarations).filter fun declaration => declaration.scopeStart == start) =
      declarations.filter fun declaration => declaration.scopeStart == start := by
  apply filter_mergeSort scopeStart_trans scopeStart_total
  intro first second starts starts'
  rw [beq_iff_eq] at starts starts'
  rw [decide_eq_true_eq, starts, starts']

end Sorted

theorem find?_fromInside_eq_none_iff :
    (fromInside declarations).find? (fun other => other.name == name) = none ↔
      ∀ other ∈ declarations, other.name ≠ name := by
  simp [List.find?_eq_none, mem_fromInside_iff]

variable (numbered : declarations.Pairwise fun first second => first.id < second.id)
include numbered

/-- The first declaration with a name from the inside out is the nearest one. -/
theorem isNearest_of_find?_fromInside {declaration : Declaration}
    (found : (fromInside declarations).find? (fun other => other.name == name) = some declaration) :
    IsNearest declarations name declaration := by
  rcases List.find?_eq_some_iff_append.mp found with ⟨named, inner, outer, split, otherNames⟩
  refine ⟨mem_fromInside_iff.mp (List.mem_of_find?_eq_some found), beq_iff_eq.mp named, ?_⟩
  intro other member sameName
  have isListed : other ∈ inner ++ declaration :: outer := by
    rw [← split, mem_fromInside_iff]
    exact member
  rcases List.mem_append.mp isListed with isInner | rest
  · have different := otherNames other isInner
    simp [sameName] at different
  · rcases List.mem_cons.mp rest with rfl | isOuter
    · exact .inr ⟨rfl, Nat.le_refl _⟩
    · have sorted := pairwise_fromInside declarations
      rw [split, List.pairwise_append] at sorted
      rcases Nat.lt_or_eq_of_le ((List.pairwise_cons.mp sorted.2.1).1 other isOuter) with
        before | together
      · exact .inl before
      · have inOrder := numbered.filter fun other => other.scopeStart == declaration.scopeStart
        rw [← filter_fromInside, split, List.filter_append,
          List.filter_cons_of_pos (by simp), List.pairwise_append,
          List.pairwise_cons] at inOrder
        have later := inOrder.2.1.1 other (List.mem_filter.mpr ⟨isOuter, by simpa using together⟩)
        exact .inr ⟨together, Nat.le_of_lt later⟩

theorem IsNearest.unique {first second : Declaration} (isNearest : IsNearest declarations name first)
    (isNearest' : IsNearest declarations name second) : first = second := by
  have forth := isNearest.nearer second isNearest'.member isNearest'.named
  have back := isNearest'.nearer first isNearest.member isNearest.named
  have notAfter : first.id ≤ second.id := (forth.resolve_left (by omega)).2
  have notBefore : second.id ≤ first.id := (back.resolve_left (by omega)).2
  by_contra different
  rcases or_of_pairwise numbered isNearest.member isNearest'.member different with before | after
  · exact absurd before (Nat.not_lt.mpr notBefore)
  · exact absurd after (Nat.not_lt.mpr notAfter)

theorem find?_fromInside_eq_some_iff {declaration : Declaration} :
    (fromInside declarations).find? (fun other => other.name == name) = some declaration ↔
      IsNearest declarations name declaration := by
  refine ⟨isNearest_of_find?_fromInside numbered, ?_⟩
  intro isNearest
  cases found : (fromInside declarations).find? fun other => other.name == name with
  | none =>
      have absent := List.find?_eq_none.mp found declaration (mem_fromInside_iff.mpr isNearest.member)
      simp [isNearest.named] at absent
  | some nearest =>
      rw [isNearest.unique numbered (isNearest_of_find?_fromInside numbered found)]

end Declaration

namespace Analysis

variable {analysis : Analysis} {offset : Nat} {label : String}

/-- What a label stands for at an offset: the nearest visible declaration with that name, else the first
item of the buffer, else the first item of the library, else the reserved word. -/
inductive Offers (analysis : Analysis) (offset : Nat) (label : String) (candidate : Candidate) :
    Prop where
  | visible {declaration : Declaration}
      (isNearest : declaration.IsNearest (analysis.program.visibleAt offset) label)
      (standsFor : candidate.StandsFor declaration)
  | own {declaration : Declaration}
      (noneVisible : ∀ other ∈ analysis.program.visibleAt offset, other.name ≠ label)
      (isFirst : (analysis.program.table.free label).head? = some declaration)
      (standsFor : candidate.StandsFor declaration)
  | library {declaration : Declaration}
      (noneVisible : ∀ other ∈ analysis.program.visibleAt offset, other.name ≠ label)
      (noneOwn : analysis.program.table.free label = [])
      (isFirst : (analysis.program.library.table.free label).head? = some declaration)
      (standsFor : candidate.StandsFor declaration)
  | word (noneVisible : ∀ other ∈ analysis.program.visibleAt offset, other.name ≠ label)
      (noneOwn : analysis.program.table.free label = [])
      (noneOther : analysis.program.library.table.free label = [])
      (isWord : label ∈ Candidate.reservedWords) (isKeyword : candidate = ⟨label, .keyword, none⟩)

/-- Whether a list is what a completion in a scope should be: no label is empty or repeated, labels are
sorted without regard to case, and under each label is what the label stands for. -/
structure IsScopeListing (analysis : Analysis) (offset : Nat) (candidates : List Candidate) : Prop where
  labelled : ∀ candidate ∈ candidates, candidate.label ≠ ""
  distinct : (candidates.map Candidate.label).Nodup
  sorted : candidates.Pairwise fun first second => first.sortKey ≤ second.sortKey
  offers_iff : ∀ label, label ≠ "" → ∀ candidate,
    candidate ∈ candidates ∧ candidate.label = label ↔ analysis.Offers offset label candidate

section Listings

variable {first second : List Candidate}

/-- Two listings assign the same candidates to the same labels. -/
theorem IsScopeListing.perm (isListing : analysis.IsScopeListing offset first)
    (isListing' : analysis.IsScopeListing offset second) : first.Perm second := by
  have included : ∀ {first second : List Candidate}, analysis.IsScopeListing offset first →
      analysis.IsScopeListing offset second → ∀ candidate ∈ first, candidate ∈ second := by
    intro first second isListing isListing' candidate member
    have labelled := isListing.labelled candidate member
    have offers := (isListing.offers_iff _ labelled candidate).mp ⟨member, rfl⟩
    exact ((isListing'.offers_iff _ labelled candidate).mpr offers).1
  rw [List.perm_ext_iff_of_nodup isListing.distinct.of_map isListing'.distinct.of_map]
  intro candidate
  exact ⟨included isListing isListing' candidate, included isListing' isListing candidate⟩

theorem IsScopeListing.map_sortKey_eq (isListing : analysis.IsScopeListing offset first)
    (isListing' : analysis.IsScopeListing offset second) :
    first.map Candidate.sortKey = second.map Candidate.sortKey := by
  apply List.Perm.eq_of_pairwise _ (List.pairwise_map.mpr isListing.sorted)
    (List.pairwise_map.mpr isListing'.sorted) ((isListing.perm isListing').map Candidate.sortKey)
  exact fun _ _ _ _ forth back => String.le_antisymm forth back

/-- Where no two labels are equal without regard to case, there is one listing only. -/
theorem IsScopeListing.eq_of_nodup (isListing : analysis.IsScopeListing offset first)
    (isListing' : analysis.IsScopeListing offset second)
    (different : (first.map Candidate.sortKey).Nodup) : first = second := by
  have perm := isListing.perm isListing'
  apply List.Perm.eq_of_pairwise _ isListing.sorted isListing'.sorted perm
  intro candidate other member member' forth back
  exact List.inj_on_of_nodup_map different member (perm.mem_iff.mpr member')
    (String.le_antisymm forth back)

end Listings

section Gathering

/-- What is gathered for a scope, before it is arranged. -/
def gathered (analysis : Analysis) (orders : NameOrders) (offset : Nat) : List Candidate :=
  (Declaration.fromInside (analysis.program.visibleAt offset) ++
      analysis.program.table.freeItems orders.own ++
      analysis.program.library.table.freeItems orders.library).map
      (fun declaration => declaration.symbol.candidate) ++
    Candidate.reservedWords.map Candidate.ofWord

theorem candidatesIn_scope (analysis : Analysis) (orders : NameOrders) (offset : Nat) :
    analysis.candidatesIn orders offset .scope =
      Candidate.arrange (analysis.gathered orders offset) :=
  rfl

theorem find?_reservedWords (label : String) :
    (Candidate.reservedWords.map Candidate.ofWord).find? (fun candidate => candidate.label == label) =
      if label ∈ Candidate.reservedWords then some (.ofWord label) else none := by
  have found : ∀ words : List String, (words.map Candidate.ofWord).find?
      (fun candidate => candidate.label == label) =
        if label ∈ words then some (.ofWord label) else none := by
    intro words
    induction words with
    | nil => rfl
    | cons word words ih =>
        by_cases same : word = label
        · simp [same, Candidate.ofWord]
        · rw [List.map_cons, List.find?_cons_of_neg (by simpa [Candidate.ofWord] using same), ih]
          simp [Ne.symm same]
  exact found Candidate.reservedWords

/-- The declaration that a label stands for is looked up in one place after the other. -/
theorem find?_gathered (orders : NameOrders) :
    (analysis.gathered orders offset).find? (fun candidate => candidate.label == label) =
      (((((Declaration.fromInside (analysis.program.visibleAt offset)).find?
        fun declaration => declaration.name == label).or
        (analysis.program.table.free label).head?).or
        (analysis.program.library.table.free label).head?).map
          (fun declaration => declaration.symbol.candidate)).or
      (if label ∈ Candidate.reservedWords then some (.ofWord label) else none) := by
  rw [gathered, List.find?_append, List.find?_map, find?_reservedWords,
    ← analysis.program.filed.find?_freeItems orders.own,
    ← analysis.program.library.filed.find?_freeItems orders.library, ← List.find?_append,
    ← List.find?_append]
  rfl

theorem pairwise_visibleAt (analysis : Analysis) (offset : Nat) :
    (analysis.program.visibleAt offset).Pairwise fun first second => first.id < second.id :=
  analysis.program.filed.pairwise_lexical.filter _

/-- What comes first under a label is what the label stands for. -/
theorem find?_gathered_eq_some_iff (orders : NameOrders) {candidate : Candidate} :
    (analysis.gathered orders offset).find? (fun other => other.label == label) = some candidate ↔
      analysis.Offers offset label candidate := by
  have numbered := analysis.pairwise_visibleAt offset
  rw [find?_gathered orders]
  simp only [Option.or_eq_some_iff, Option.or_eq_none_iff, Option.map_eq_some_iff,
    Option.map_eq_none_iff, Option.ite_none_right_eq_some, Option.some.injEq,
    Declaration.find?_fromInside_eq_some_iff numbered, Declaration.find?_fromInside_eq_none_iff,
    List.head?_eq_none_iff, ← Candidate.standsFor_iff]
  constructor
  · rintro (⟨declaration, (isNearest | ⟨noneVisible, isFirst⟩) | ⟨⟨noneVisible, noneOwn⟩, isFirst⟩,
      standsFor⟩ | ⟨⟨⟨noneVisible, noneOwn⟩, noneOther⟩, isWord, isKeyword⟩)
    · exact .visible isNearest standsFor
    · exact .own noneVisible isFirst standsFor
    · exact .library noneVisible noneOwn isFirst standsFor
    · exact .word noneVisible noneOwn noneOther isWord isKeyword.symm
  · intro offers
    cases offers with
    | visible isNearest standsFor => exact .inl ⟨_, .inl (.inl isNearest), standsFor⟩
    | own noneVisible isFirst standsFor =>
        exact .inl ⟨_, .inl (.inr ⟨noneVisible, isFirst⟩), standsFor⟩
    | library noneVisible noneOwn isFirst standsFor =>
        exact .inl ⟨_, .inr ⟨⟨noneVisible, noneOwn⟩, isFirst⟩, standsFor⟩
    | word noneVisible noneOwn noneOther isWord isKeyword =>
        exact .inr ⟨⟨⟨noneVisible, noneOwn⟩, noneOther⟩, isWord, isKeyword.symm⟩

/-- Whatever the orders of the names, completion in a scope gives a listing. -/
theorem isScopeListing_scope (analysis : Analysis) (orders : NameOrders) (offset : Nat) :
    analysis.IsScopeListing offset (analysis.candidatesIn orders offset .scope) := by
  rw [candidatesIn_scope]
  refine ⟨?_, Candidate.nodup_labels_arrange _, Candidate.pairwise_sortKey_arrange _, ?_⟩
  · intro candidate member
    exact (Candidate.mem_arrange_iff.mp member).1
  · intro label labelled candidate
    rw [Candidate.mem_arrange_iff, ← find?_gathered_eq_some_iff orders]
    constructor
    · rintro ⟨⟨-, found⟩, rfl⟩
      exact found
    · intro found
      have sameLabel : candidate.label = label := by simpa using List.find?_some found
      rw [sameLabel]
      exact ⟨⟨labelled, found⟩, rfl⟩

end Gathering

/-- For every analysis and every offset, whatever the orders in which the names of the buffer and of
the library are gone through: what is offered in a scope has no empty or repeated label, is sorted by label
without regard to case, and has the nearest variable, the first own item, the first item of the library or
the reserved word under each label.  So two orders assign the same candidates to the same labels, and only
labels that are equal without regard to case change places. -/
theorem isScopeListing_candidatesIn (analysis : Analysis) (offset : Nat)
    (orders orders' : NameOrders) :
    analysis.IsScopeListing offset (analysis.candidatesIn orders offset .scope) ∧
    analysis.IsScopeListing offset (analysis.candidatesIn orders' offset .scope) ∧
    (analysis.candidatesIn orders offset .scope).Perm (analysis.candidatesIn orders' offset .scope) ∧
    (analysis.candidatesIn orders offset .scope).map Candidate.sortKey =
      (analysis.candidatesIn orders' offset .scope).map Candidate.sortKey ∧
    (((analysis.candidatesIn orders offset .scope).map Candidate.sortKey).Nodup →
      analysis.candidatesIn orders offset .scope = analysis.candidatesIn orders' offset .scope) := by
  have isListing := analysis.isScopeListing_scope orders offset
  have isListing' := analysis.isScopeListing_scope orders' offset
  exact ⟨isListing, isListing', isListing.perm isListing', isListing.map_sortKey_eq isListing',
    isListing.eq_of_nodup isListing'⟩

/-- A source with two functions whose names are equal without regard to case. -/
def homonymSource : String :=
  "fn b()\x7b\x7dfn B()\x7b\x7d"

/-- The tree of `fn b(){}fn B(){}`. -/
def homonymTree : ParseTree :=
  let function (start : Nat) : ParseTree :=
    .named "function_item" start (start + 8) none
      [.spelled "fn" start (start + 2) none, .named "identifier" (start + 3) (start + 4) "name" [],
        .named "parameters" (start + 4) (start + 6) "parameters"
          [.spelled "(" (start + 4) (start + 5) none, .spelled ")" (start + 5) (start + 6) none],
        .named "block" (start + 6) (start + 8) "body"
          [.spelled "\x7b" (start + 6) (start + 7) none,
            .spelled "\x7d" (start + 7) (start + 8) none]]
  .named "source_file" 0 16 none [function 0, function 8]

/-- The program of the two functions. -/
def homonymProgram : Program :=
  .ofSource .empty homonymSource homonymTree.lower

/-- The analysis of the two functions. -/
def homonymAnalysis : Analysis :=
  ⟨homonymProgram, homonymProgram.bindAll.toOption.getD #[], .library, 4⟩

/-- Two orders of the names `b` and `B` offer the same candidates, in places of the same lower-case
labels. -/
theorem isScopeListing_candidatesIn_homonyms :
    (homonymProgram.table.freeItems NameOrders.asFiled.own).map Declaration.name = ["b", "B"] ∧
    (homonymProgram.table.freeItems NameOrders.backwards.own).map Declaration.name = ["B", "b"] ∧
    (∀ candidate ∈ [⟨"b", .function, some 0⟩, ⟨"B", .function, some 1⟩, ⟨"fn", .keyword, none⟩],
      candidate ∈ homonymAnalysis.candidatesIn .asFiled 8 .scope ∧
        candidate ∈ homonymAnalysis.candidatesIn .backwards 8 .scope) ∧
    (homonymAnalysis.candidatesIn .asFiled 8 .scope).Perm
      (homonymAnalysis.candidatesIn .backwards 8 .scope) ∧
    (homonymAnalysis.candidatesIn .asFiled 8 .scope).map Candidate.sortKey =
      (homonymAnalysis.candidatesIn .backwards 8 .scope).map Candidate.sortKey := by
  have noneVisible : ∀ label, ∀ other ∈ homonymAnalysis.program.visibleAt 8, other.name ≠ label := by
    have nothing : homonymAnalysis.program.visibleAt 8 = [] := by decide +kernel
    simp [nothing]
  have isItem : ∀ {label : String} {id : SymbolId},
      (homonymProgram.table.free label).head?.map (fun declaration =>
        (declaration.name, declaration.id, declaration.symbol.candidateKind)) =
          some (label, id, .function) →
        homonymAnalysis.Offers 8 label ⟨label, .function, some id⟩ := by
    intro label id described
    rcases Option.map_eq_some_iff.mp described with ⟨declaration, isFirst, shown⟩
    rcases Prod.mk.inj shown with ⟨nameEq, shown⟩
    rcases Prod.mk.inj shown with ⟨idEq, kindEq⟩
    exact .own (noneVisible _) isFirst ⟨nameEq.symm, congrArg some idEq.symm, kindEq.symm⟩
  have isWord : homonymAnalysis.Offers 8 "fn" ⟨"fn", .keyword, none⟩ :=
    .word (noneVisible _) (by decide +kernel) (by decide +kernel) (by decide) rfl
  rcases homonymAnalysis.isScopeListing_candidatesIn 8 .asFiled .backwards with
    ⟨isListing, isListing', perm, sameKeys, -⟩
  refine ⟨by decide +kernel, by decide +kernel, ?_, perm, sameKeys⟩
  intro candidate member
  have offered : candidate.label ≠ "" ∧ homonymAnalysis.Offers 8 candidate.label candidate := by
    simp only [List.mem_cons, List.not_mem_nil, or_false] at member
    rcases member with rfl | rfl | rfl
    · exact ⟨by decide, isItem (by decide +kernel)⟩
    · exact ⟨by decide, isItem (by decide +kernel)⟩
    · exact ⟨by decide, isWord⟩
  exact ⟨((isListing.offers_iff _ offered.1 candidate).mpr offered.2).1,
    ((isListing'.offers_iff _ offered.1 candidate).mpr offered.2).1⟩

end Analysis

end SourceLens
