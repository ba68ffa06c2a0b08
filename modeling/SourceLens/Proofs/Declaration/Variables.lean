import SourceLens.Library
import SourceLens.Proofs.Tree.Links

/-!
# Where declarations come from

A table numbers its declarations from its base, so that what a library declares is told apart from
what a buffer declares by its identity alone.

Among the declarations of a document, only those of a statement that binds a pattern have an initial
value, and what is declared as a variable belongs to the node that binds the pattern.
-/

namespace SourceLens

namespace SymbolTable

section Append

variable (table : SymbolTable) (declarations : List Declaration)

theorem base_append : (table.append declarations).base = table.base := by
  induction declarations generalizing table with
  | nil => rfl
  | cons declaration declarations ih => exact (ih (table.push declaration)).trans (base_push _ _)

/-- The declarations that are appended are numbered one after the other. -/
theorem declarations_append :
    (table.append declarations).declarations =
      table.declarations ++ (declarations.mapIdx fun index declaration =>
        declaration.withId (table.nextId + index)).toArray := by
  induction declarations generalizing table with
  | nil => simp [append]
  | cons declaration declarations ih =>
      have next : (table.push declaration).nextId = table.nextId + 1 := by
        simp [nextId, size, Nat.add_assoc]
      refine (ih (table.push declaration)).trans ?_
      rw [declarations_push, List.mapIdx_cons, next]
      simp [Nat.add_assoc, Nat.add_comm 1]

end Append

@[simp]
theorem base_number (base : SymbolId) (declarations : List Declaration) :
    (number base declarations).base = base :=
  base_append _ declarations

theorem mem_append_iff {table : SymbolTable} {declarations : List Declaration}
    {declaration : Declaration} :
    declaration ∈ (table.append declarations).declarations ↔
      declaration ∈ table.declarations ∨
        ∃ (index : Nat) (unnumbered : Declaration), declarations[index]? = some unnumbered ∧
          declaration = unnumbered.withId (table.nextId + index) := by
  simp only [declarations_append, Array.mem_append, List.mem_toArray, List.mem_mapIdx]
  refine or_congr_right ⟨?_, ?_⟩
  · rintro ⟨index, inRange, rfl⟩
    exact ⟨index, _, List.getElem?_eq_getElem inRange, rfl⟩
  · rintro ⟨index, unnumbered, found, rfl⟩
    rcases List.getElem?_eq_some_iff.mp found with ⟨inRange, rfl⟩
    exact ⟨index, inRange, rfl⟩

theorem mem_number_iff {base : SymbolId} {declarations : List Declaration}
    {declaration : Declaration} :
    declaration ∈ (number base declarations).declarations ↔
      ∃ (index : Nat) (unnumbered : Declaration), declarations[index]? = some unnumbered ∧
        declaration = unnumbered.withId (base + index) := by
  rw [number, mem_append_iff]
  simp [empty, nextId, size]

end SymbolTable

/-- The libraries that contexts hold: the references, taken in one after the other.  The prelude is
the first of them if it is there. -/
inductive Library.Loaded : Library → Prop where
  | empty : Library.empty.Loaded
  | add {library : Library} (loaded : library.Loaded) (name text : String) (tree : Tree) :
      (library.add name text tree).Loaded

theorem Library.Loaded.base_eq {library : Library} (loaded : library.Loaded) :
    library.table.base = 0 := by
  induction loaded with
  | empty => rfl
  | add loaded name text tree ih => exact (SymbolTable.base_append _ _).trans ih

/-- The identities of a library come before all that a buffer adds. -/
theorem Library.Loaded.id_lt {library : Library} (loaded : library.Loaded)
    {declaration : Declaration} (member : declaration ∈ library.table.declarations) :
    declaration.id < library.table.size := by
  rcases Array.mem_iff_getElem?.mp member with ⟨index, found⟩
  rcases Array.getElem?_eq_some_iff.mp found with ⟨inRange, -⟩
  rw [library.filed.numbered index declaration found, loaded.base_eq, Nat.zero_add]
  exact inRange

namespace Document

variable {document : Document} {node : NodeId} {declaration : Declaration}

theorem mem_declarations_iff :
    declaration ∈ document.declarations ↔
      ∃ node < document.tree.nodes.size, declaration ∈ document.declarationsAt node := by
  simp [declarations, Tree.ids]

theorem mem_patternNames_iff {pattern token : NodeId} :
    token ∈ document.patternNames pattern ↔
      token ∈ document.tree.tokens ∧
        (document.tree.span pattern).covers (document.tree.span token) = true ∧
          pattern ∈ document.tree.ancestors token ∧ document.isPatternName token = true := by
  simp [patternNames, Tree.isWithin_iff, and_assoc]

theorem mem_variablesOf_iff {use : PatternUse} :
    declaration ∈ document.variablesOf node use ↔
      ∃ pattern token, document.tree.childInRole node .pattern = some pattern ∧
        token ∈ document.patternNames pattern ∧
          declaration = document.patternVariable use
            (document.isLoneName pattern (document.patternNames pattern)) token := by
  unfold variablesOf
  cases patternEq : document.tree.childInRole node .pattern with
  | none => simp
  | some pattern => simp [patternVariables, eq_comm]

/-- Whether a declaration is no variable and has no initial value. -/
def IsPlain (declaration : Declaration) : Prop :=
  declaration.initializer = none ∧ declaration.symbol.kind ≠ .variable

/-- A node that declares at most one thing, under its own name, declares a plain one. -/
theorem isPlain_of_mem_single
    (member : (∃ keyword, declaration ∈ document.constants node keyword) ∨
      declaration ∈ document.functions node ∨ declaration ∈ document.fields node ∨
      declaration ∈ document.variants node ∨ declaration ∈ document.modules node ∨
      declaration ∈ document.receivers node) :
    IsPlain declaration := by
  simp only [functions, fields, variants, constants, modules, receivers] at member
  rcases member with ⟨keyword, member⟩ | member | member | member | member | member
  all_goals
    split at member <;> simp only [List.not_mem_nil, List.mem_singleton] at member
    rw [member]
    simp [IsPlain, item]

theorem isPlain_of_mem_types {kind : TypeKind} (member : declaration ∈ document.types node kind) :
    IsPlain declaration := by
  unfold types at member
  split at member
  · cases member
  · rcases List.mem_cons.mp member with rfl | member
    · simp [IsPlain, item]
    · unfold positionalFields at member
      split at member
      · cases member
      · split at member
        · rcases List.mem_mapIdx.mp member with ⟨index, -, rfl⟩
          simp [IsPlain, positionalField]
        · cases member

theorem isPlain_of_mem_parameters (member : declaration ∈ document.parameters node) :
    IsPlain declaration := by
  rcases mem_variablesOf_iff.mp member with ⟨pattern, token, -, -, rfl⟩
  simp [IsPlain, patternVariable]

theorem isPlain_of_mem_closureParameters (member : declaration ∈ document.closureParameters node) :
    IsPlain declaration := by
  unfold closureParameters at member
  split at member
  · cases member
  · simp only [List.mem_flatMap, patternVariables, List.mem_map] at member
    rcases member with ⟨pattern, -, token, -, rfl⟩
    simp [IsPlain, patternVariable]

/-- What a node declares is plain, or a variable of the node itself; only statements that bind a
pattern hand on their initial value. -/
theorem declarationsAt_cases (member : declaration ∈ document.declarationsAt node) :
    IsPlain declaration ∨
      (declaration.node = node ∧ (declaration.initializer = none ∨
        document.tree.rawKind node = "let_declaration" ∧
          declaration ∈ document.letVariables node)) := by
  have bound : ∀ {use : PatternUse}, declaration ∈ document.variablesOf node use →
      declaration.node = use.node ∧ (use.initializer = none → declaration.initializer = none) := by
    intro use member
    rcases mem_variablesOf_iff.mp member with ⟨pattern, token, -, -, rfl⟩
    refine ⟨rfl, ?_⟩
    intro noValue
    simp [patternVariable, noValue]
  have plain := @isPlain_of_mem_single document node declaration
  unfold declarationsAt at member
  split at member
  · exact .inl (plain (by simp [member]))
  · exact .inl (plain (by simp [member]))
  · exact .inl (isPlain_of_mem_types member)
  · exact .inl (isPlain_of_mem_types member)
  · exact .inl (isPlain_of_mem_types member)
  · exact .inl (isPlain_of_mem_types member)
  · exact .inl (isPlain_of_mem_types member)
  · exact .inl (plain (by simp [member]))
  · exact .inl (plain (by simp [member]))
  · exact .inl (plain (.inl ⟨_, member⟩))
  · exact .inl (plain (.inl ⟨_, member⟩))
  · exact .inl (plain (by simp [member]))
  case h_13 isLet => exact .inr ⟨(bound member).1, .inr ⟨isLet, member⟩⟩
  · exact .inl (isPlain_of_mem_parameters member)
  · exact .inl (plain (by simp [member]))
  · exact .inl (isPlain_of_mem_closureParameters member)
  · unfold loopVariables at member
    split at member
    · cases member
    · exact .inr ⟨(bound member).1, .inl ((bound member).2 rfl)⟩
  · exact .inr ⟨(bound member).1, .inl ((bound member).2 rfl)⟩
  · exact .inr ⟨(bound member).1, .inl ((bound member).2 rfl)⟩
  · cases member

end Document

end SourceLens
