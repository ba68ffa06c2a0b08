import SourceLens.Proofs.Analysis.Compilation
import SourceLens.Proofs.Program.ArmVariables
import SourceLens.Proofs.Tree.Lookup
import SourceLens.Proofs.Tree.Lowered

/-!
# The variables of a condition

The variables of a condition that binds a pattern are visible from the end of the condition to the end
of the branch that it guards.  The part of the branch for the case that the pattern does not match lies
in between.  A use of a name in that part is therefore bound to a variable of the condition, unless a
declaration whose scope starts later shadows the variable.
-/

namespace SourceLens

namespace Declaration

/-- Whether a declaration takes the place of another one where both are visible under one name: its
scope starts later, or the scopes start together and it comes later. -/
def Shadows (declaration other : Declaration) : Prop :=
  other.scopeStart < declaration.scopeStart ∨
    other.scopeStart = declaration.scopeStart ∧ other.id < declaration.id

instance (declaration other : Declaration) : Decidable (declaration.Shadows other) :=
  inferInstanceAs (Decidable (_ ∨ _))

end Declaration

namespace Program

variable {program : Program} {declaration : Declaration}

/-- The innermost declaration is the one that no other shadows. -/
theorem innermost?_eq_some_iff {declarations : List Declaration}
    (numbered : declarations.Pairwise fun first second => first.id < second.id) :
    innermost? declarations = some declaration ↔
      declaration ∈ declarations ∧ ∀ other ∈ declarations, ¬other.Shadows declaration := by
  constructor
  · intro inner
    refine ⟨mem_of_innermost? inner, ?_⟩
    intro other member shadows
    rcases le_of_innermost? numbered inner member with earlier | ⟨together, notLater⟩
    · rcases shadows with later | ⟨together, -⟩ <;> omega
    · rcases shadows with later | ⟨-, later⟩
      · omega
      · exact absurd later (Nat.not_lt.mpr notLater)
  · rintro ⟨member, unshadowed⟩
    cases inner : innermost? declarations with
    | none =>
        rw [innermost?_eq_none.mp inner] at member
        cases member
    | some last =>
        have notInner := unshadowed last (mem_of_innermost? inner)
        rcases le_of_innermost? numbered inner member with earlier | ⟨together, notLater⟩
        · exact absurd (.inl earlier) notInner
        · have sameId : declaration.id = last.id := by
            by_contra different
            exact notInner (.inr ⟨together, Nat.lt_of_le_of_ne notLater different⟩)
          by_contra different
          have distinct : last ≠ declaration := fun same => different (by rw [same])
          rcases or_of_pairwise numbered (mem_of_innermost? inner) member distinct with before | after
          · exact absurd sameId (Nat.ne_of_gt before)
          · exact absurd sameId (Nat.ne_of_lt after)

/-- Whether a token is a use of a name: an identifier that names no declaration. -/
structure IsUse (program : Program) (token : NodeId) : Prop where
  isLeaf : program.tree.children token = []
  isIdentifier : program.tree.kind token = .identifier
  unnamed : program.table.namedBy? token = none

/-- Whether a declaration is a variable that a node of the buffer declares. -/
structure IsVariableOf (program : Program) (node : NodeId) (declaration : Declaration) : Prop where
  listed : declaration ∈ program.table.declarations
  node_eq : declaration.node = node
  kind_eq : declaration.symbol.kind = .variable

/-- No variable is reached from everywhere. -/
theorem not_forall_reaches (isLexical : declaration.place.isLexical = true)
    (isVariable : declaration.symbol.kind = .variable) :
    ¬∀ name offset, program.Reaches name offset declaration := by
  intro anywhere
  have inner := (anywhere (declaration.name ++ "_") 0).visible_of_variable isLexical isVariable
  have named := (mem_visibleAs_iff.mp (mem_of_innermost? inner)).2.2.2
  have longer := congrArg String.length named
  rw [String.length_append] at longer
  have oneMore : ("_" : String).length = 1 := rfl
  omega

theorem memberAccess?_eq_none_of_isLookedUpByScope {token : NodeId}
    (byScope : program.isLookedUpByScope token = true) : program.memberAccess? token = none := by
  rw [Option.eq_none_iff_forall_ne_some]
  intro access accessEq
  have isField := (memberAccess?_eq_some_iff.mp accessEq).1
  simp [isLookedUpByScope, isField] at byScope

/-- A use of a name denotes a variable, if it is looked up by scope and the variable is the innermost
declaration that is visible under its spelling. -/
theorem IsUse.resolveTokenWith_eq_found_iff {token : NodeId} (isUse : program.IsUse token)
    (typeOf : NodeId → Search TypeText) (isLexical : declaration.place.isLexical = true)
    (isVariable : declaration.symbol.kind = .variable) :
    program.resolveTokenWith typeOf token = .found declaration ↔
      program.isLookedUpByScope token = true ∧
        innermost? (program.visibleAs (program.spelling token) (program.tree.span token).start) =
          some declaration := by
  simp only [resolveTokenWith, isUse.unnamed]
  constructor
  · intro found
    split at found
    · rcases mem_members_of_accessedMember found with ⟨container, isMember⟩
      exact absurd (fun _ _ => .member isMember) (not_forall_reaches isLexical isVariable)
    · rcases resolveByName_cases found with ⟨byScope, reaches⟩ | anywhere
      · exact ⟨byScope, reaches.visible_of_variable isLexical isVariable⟩
      · exact absurd anywhere (not_forall_reaches isLexical isVariable)
  · rintro ⟨byScope, inner⟩
    rw [memberAccess?_eq_none_of_isLookedUpByScope byScope]
    apply resolveByName_of_resolveName byScope
    rw [resolveName, Option.or_eq_some_iff]
    exact .inl inner

/-- A use of a name is bound to a variable exactly when it is looked up by scope, the variable is visible
under its spelling, and nothing else that is visible so shadows the variable. -/
theorem IsUse.known?_eq_some_iff {bindings : Bindings}
    (bound : program.bindAll = .found bindings) {token : NodeId} (isUse : program.IsUse token)
    (isLexical : declaration.place.isLexical = true)
    (isVariable : declaration.symbol.kind = .variable) :
    bindings.known? token = some declaration ↔
      program.isLookedUpByScope token = true ∧
        declaration ∈ program.visibleAs (program.spelling token) (program.tree.span token).start ∧
          ∀ other ∈ program.visibleAs (program.spelling token) (program.tree.span token).start,
            ¬other.Shadows declaration := by
  have inRange := Tree.lt_size_of_kind (isUse.isIdentifier.trans_ne (by decide))
  have denotes := (binding_of_bindAll bound).2 token inRange
  rw [binding_of_isName isUse.isLeaf isUse.isIdentifier, resolveToken] at denotes
  rw [← innermost?_eq_some_iff (pairwise_visibleAs _ _),
    ← isUse.resolveTokenWith_eq_found_iff (program.infer #[]) isLexical isVariable,
    ← Search.optional_eq_found_some, denotes, Search.found.injEq]

end Program

namespace Tree

variable {tree : Tree}

/-- Whether a node is a branch or a loop that a condition may guard. -/
def isGuarded (tree : Tree) (node : NodeId) : Bool :=
  tree.rawKind node == "if_expression" || tree.rawKind node == "while_expression"

/-- The innermost branch or loop around a condition. -/
def guarded? (tree : Tree) (condition : NodeId) : Option NodeId :=
  (tree.enclosing condition).find? tree.isGuarded

theorem Linked.guarded?_of_parent (linked : tree.Linked) {node parent : NodeId}
    (parentEq : tree.parent node = some parent) :
    tree.guarded? node = if tree.isGuarded parent then some parent else tree.guarded? parent := by
  have around : tree.enclosing node = parent :: tree.enclosing parent := by
    rw [enclosing, ancestors, parentEq]
    simp only [linked.parent_lt parentEq, dite_true, List.drop_one, List.tail_cons]
    rw [enclosing, ancestors]
    rfl
  rw [guarded?, around, List.find?_cons]
  split <;> simp_all [guarded?]

/-- A branch with a test and a part for the case that the test fails, which starts behind the test. -/
structure IsIfElse (tree : Tree) (branch test alternative : NodeId) : Prop where
  isBranch : tree.rawKind branch = "if_expression"
  test_eq : tree.childInRole branch (.field "condition") = some test
  alternative_eq : tree.childInRole branch (.field "alternative") = some alternative
  behind : (tree.span test).stop < (tree.span alternative).start

variable {branch test alternative : NodeId}

/-- A condition in the test of a branch guards the branch, or something inside the test. -/
theorem IsIfElse.guarded?_cases (isIfElse : tree.IsIfElse branch test alternative)
    (linked : tree.Linked) {condition : NodeId} (within : test ∈ tree.ancestors condition) :
    tree.guarded? condition = some branch ∨
      ∃ outer, tree.guarded? condition = some outer ∧ test ∈ tree.ancestors outer := by
  have isTest := linked.parent_of_mem_children (mem_children_of_childInRole isIfElse.test_eq)
  induction condition using Nat.strongRecOn with
  | ind condition ih =>
      rcases linked.mem_ancestors_iff.mp within with rfl | ⟨parent, parentEq, within⟩
      · left
        rw [linked.guarded?_of_parent isTest, if_pos (by simp [isGuarded, isIfElse.isBranch])]
      · rw [linked.guarded?_of_parent parentEq]
        split
        · exact .inr ⟨parent, rfl, within⟩
        · exact ih parent (linked.parent_lt parentEq) within

/-- What the part for the failing case holds starts behind every condition in the test, inside the
branch, and behind all that such a condition guards apart from the branch. -/
theorem IsIfElse.span_bounds (isIfElse : tree.IsIfElse branch test alternative)
    (linked : tree.Linked) (nested : tree.Nested) {token node : NodeId}
    (inElse : alternative ∈ tree.ancestors token) (within : test ∈ tree.ancestors node) :
    (tree.span node).stop < (tree.span token).start ∧
      (tree.span token).start ≤ (tree.span branch).stop := by
  have isPart := mem_children_of_childInRole isIfElse.alternative_eq
  have inBranch := linked.mem_ancestors_of_child isPart (tree.mem_ancestors_self branch)
  have tokenSpan := nested.span_of_mem_ancestors linked inElse
  have partSpan := nested.span_of_mem_ancestors linked inBranch
  have nodeSpan := nested.span_of_mem_ancestors linked within
  have upright := nested.upright token
  have behind := isIfElse.behind
  omega

end Tree

namespace Document

theorem declarationsAt_condition {document : Document} {condition : NodeId}
    (isCondition : document.tree.rawKind condition = "let_condition") :
    document.declarationsAt condition = document.variablesOf condition
      { node := condition
        scope := (document.tree.guarded? condition).map fun outer =>
          ⟨(document.tree.span condition).stop, (document.tree.span outer).stop⟩
        kind := .variable } := by
  unfold declarationsAt
  simp only [isCondition]
  rfl

end Document

namespace Program

variable {program : Program} {declaration : Declaration} {condition : NodeId}

/-- The variables of a condition are visible from its end to the end of what it guards. -/
theorem IsVariableOf.place_of_condition (isVariable : program.IsVariableOf condition declaration)
    (collected : program.Collected)
    (isCondition : program.tree.rawKind condition = "let_condition") :
    declaration.place = .lexical ((program.tree.guarded? condition).map fun outer =>
      ⟨(program.tree.span condition).stop, (program.tree.span outer).stop⟩) := by
  rcases collected.own_variable isVariable.listed isVariable.kind_eq with
    ⟨unnumbered, declared, id, rfl⟩
  rw [isVariable.node_eq, Document.declarationsAt_condition isCondition] at declared
  rcases Document.mem_variablesOf_iff.mp declared with ⟨pattern, name, -, -, rfl⟩
  rfl

section Alternative

variable {branch test alternative token : NodeId} (collected : program.Collected)
  (linked : program.tree.Linked) (nested : program.tree.Nested)
  (isCondition : program.tree.rawKind condition = "let_condition")
  (isVariable : program.IsVariableOf condition declaration)
  (isIfElse : program.tree.IsIfElse branch test alternative)
  (within : test ∈ program.tree.ancestors condition)
  (inElse : alternative ∈ program.tree.ancestors token)
include collected linked nested isCondition isVariable isIfElse within inElse

/-- In the part of a branch for the case that its test fails, the variables of a condition in the test
are visible if the condition guards the branch itself. -/
theorem isVisibleAt_iff_guarded? :
    declaration.isVisibleAt (program.tree.span token).start = true ↔
      program.tree.guarded? condition = some branch := by
  have placeEq := isVariable.place_of_condition collected isCondition
  have bounds := isIfElse.span_bounds linked nested inElse within
  rcases isIfElse.guarded?_cases linked within with guards | ⟨outer, guards, inTest⟩
  · simp only [Declaration.isVisibleAt, placeEq, guards, Option.map_some, Place.scope?, Option.any_some,
      Span.touches, Bool.and_eq_true, decide_eq_true_eq, iff_true]
    omega
  · have outside := isIfElse.span_bounds linked nested inElse inTest
    have different : outer ≠ branch := by
      rintro rfl
      have later := linked.lt_of_mem_children (Tree.mem_children_of_childInRole isIfElse.test_eq)
      exact absurd (linked.le_of_mem_ancestors inTest) (Nat.not_le.mpr later)
    simp only [Declaration.isVisibleAt, placeEq, guards, Option.map_some, Place.scope?, Option.any_some,
      Span.touches, Bool.and_eq_true, decide_eq_true_eq, Option.some.injEq, different, iff_false]
    omega

/-- A use of a name there is bound to a variable of the condition exactly when it is looked up by scope,
has the variable's spelling, and nothing shadows the variable. -/
theorem known?_eq_some_iff_unshadowed {bindings : Bindings}
    (bound : program.bindAll = .found bindings) (isUse : program.IsUse token) :
    bindings.known? token = some declaration ↔
      program.tree.guarded? condition = some branch ∧
        declaration.name = program.spelling token ∧ program.isLookedUpByScope token = true ∧
          ∀ other ∈ program.visibleAs (program.spelling token) (program.tree.span token).start,
            ¬other.Shadows declaration := by
  have isLexical : declaration.place.isLexical = true := by
    rw [isVariable.place_of_condition collected isCondition]
    rfl
  rw [isUse.known?_eq_some_iff bound isLexical isVariable.kind_eq, mem_visibleAs_iff,
    isVisibleAt_iff_guarded? collected linked nested isCondition isVariable isIfElse within inElse]
  simp only [isVariable.listed, isLexical, true_and]
  tauto

end Alternative

end Program

namespace Analysis

variable {analysis : Analysis}

/-- Whether no use of a name in a part of the source is bound to a variable of a condition. -/
def HidesIn (analysis : Analysis) (condition part : NodeId) : Prop :=
  ∀ token, analysis.program.IsUse token → part ∈ analysis.tree.ancestors token →
    ∀ declaration, analysis.program.IsVariableOf condition declaration →
      analysis.bindings.known? token ≠ some declaration

/-- Whether every use of a name in a part of the source that is looked up by scope and spelled like a
variable of a condition finds a declaration that shadows the variable. -/
def ShadowsIn (analysis : Analysis) (condition part : NodeId) : Prop :=
  ∀ token, analysis.program.IsUse token → part ∈ analysis.tree.ancestors token →
    analysis.program.isLookedUpByScope token = true →
      ∀ declaration, analysis.program.IsVariableOf condition declaration →
        declaration.name = analysis.program.spelling token →
          ∃ other ∈ analysis.program.visibleAs (analysis.program.spelling token)
            (analysis.tree.span token).start, other.Shadows declaration

/-- In the part of a branch for the case that its test fails, the variables of a condition in the test
are hidden exactly if the condition guards something inside the test, and not the branch, or if every use
that is spelled like one of them finds a declaration that shadows it. -/
theorem hidesIn_alternative_iff {library : Library} (loaded : library.Loaded) {indentWidth : Nat}
    {source : String} {parsed : ParseTree} {output : OutputKind} (nested : parsed.lower.Nested)
    (compiled : compile library indentWidth source parsed.lower output false = .ok analysis)
    {branch test alternative condition : NodeId}
    (isIfElse : parsed.lower.IsIfElse branch test alternative)
    (isCondition : parsed.lower.rawKind condition = "let_condition")
    (within : test ∈ parsed.lower.ancestors condition) :
    analysis.HidesIn condition alternative ↔
      (parsed.lower.guarded? condition = some branch → analysis.ShadowsIn condition alternative) := by
  rcases compile_eq_ok_iff.mp compiled with ⟨bindings, bound, rfl⟩
  have collected := Program.collected_ofSource loaded source parsed.lower
  have linked := parsed.linked_lower
  constructor
  · intro hides guards token isUse inElse byScope declaration isVariable named
    have known_iff := Program.known?_eq_some_iff_unshadowed collected linked nested isCondition
      isVariable isIfElse within inElse bound isUse
    have unknown := mt known_iff.mpr (hides token isUse inElse declaration isVariable)
    by_contra unshadowed
    apply unknown
    refine ⟨guards, named, byScope, ?_⟩
    intro other member shadows
    exact unshadowed ⟨other, member, shadows⟩
  · intro shadowed token isUse inElse declaration isVariable known
    have known_iff := Program.known?_eq_some_iff_unshadowed collected linked nested isCondition
      isVariable isIfElse within inElse bound isUse
    rcases known_iff.mp known with ⟨guards, named, byScope, unshadowed⟩
    rcases shadowed guards token isUse inElse byScope declaration isVariable named with
      ⟨other, member, shadows⟩
    exact unshadowed other member shadows

/-- A source in which a branch binds a name that is a variable already, and uses it in both parts. -/
def rebindingSource : String :=
  "fn main() \x7b let x = 1; if let Some(x) = Some(2) \x7b x; \x7d else \x7b x; \x7d \x7d"

/-- The tree of `fn main() { let x = 1; if let Some(x) = Some(2) { x; } else { x; } }`. -/
def rebindingTree : ParseTree :=
  .named "source_file" 0 68 none
    [.named "function_item" 0 68 none
      [.spelled "fn" 0 2 none, .named "identifier" 3 7 "name" [],
        .named "parameters" 7 9 "parameters" [.spelled "(" 7 8 none, .spelled ")" 8 9 none],
        .named "block" 10 68 "body"
          [.spelled "\x7b" 10 11 none,
            .named "let_declaration" 12 22 none
              [.spelled "let" 12 15 none, .named "identifier" 16 17 "pattern" [],
                .spelled "=" 18 19 none, .named "integer_literal" 20 21 "value" [],
                .spelled ";" 21 22 none],
            .named "expression_statement" 23 66 none
              [.named "if_expression" 23 66 none
                [.spelled "if" 23 25 none,
                  .named "let_condition" 26 47 "condition"
                    [.spelled "let" 26 29 none,
                      .named "tuple_struct_pattern" 30 37 "pattern"
                        [.named "identifier" 30 34 "type" [], .spelled "(" 34 35 none,
                          .named "identifier" 35 36 none [], .spelled ")" 36 37 none],
                      .spelled "=" 38 39 none,
                      .named "call_expression" 40 47 "value"
                        [.named "identifier" 40 44 "function" [],
                          .named "arguments" 44 47 "arguments"
                            [.spelled "(" 44 45 none, .named "integer_literal" 45 46 none [],
                              .spelled ")" 46 47 none]]],
                  .named "block" 48 54 "consequence"
                    [.spelled "\x7b" 48 49 none,
                      .named "expression_statement" 50 52 none
                        [.named "identifier" 50 51 none [], .spelled ";" 51 52 none],
                      .spelled "\x7d" 53 54 none],
                  .named "else_clause" 55 66 "alternative"
                    [.spelled "else" 55 59 none,
                      .named "block" 60 66 none
                        [.spelled "\x7b" 60 61 none,
                          .named "expression_statement" 62 64 none
                            [.named "identifier" 62 63 none [], .spelled ";" 63 64 none],
                          .spelled "\x7d" 65 66 none]]]],
            .spelled "\x7d" 67 68 none]]]

/-- The program that binds a name again. -/
def rebindingProgram : Program :=
  .ofSource .empty rebindingSource rebindingTree.lower

/-- What the tokens of the program are bound to. -/
def rebindingBindings : Bindings :=
  rebindingProgram.bindAll.toOption.getD #[]

/-- The analysis of the program that binds a name again. -/
def rebindingAnalysis : Analysis :=
  ⟨rebindingProgram, rebindingBindings, .library, 4⟩

theorem compile_rebindingTree :
    compile .empty 4 rebindingSource rebindingTree.lower .library false = .ok rebindingAnalysis := by
  rw [compile_eq_ok_iff]
  exact ⟨rebindingBindings, by decide +kernel, rfl⟩

theorem isIfElse_rebindingTree : rebindingTree.lower.IsIfElse 16 18 38 :=
  ⟨by decide +kernel, by decide +kernel, by decide +kernel, by decide +kernel⟩

theorem hidesIn_alternative_iff_rebinding :
    rebindingTree.lower.Nested ∧ rebindingTree.lower.IsIfElse 16 18 38 ∧
      rebindingTree.lower.guarded? 18 = some 16 ∧
      (rebindingAnalysis.HidesIn 18 38 ↔ rebindingAnalysis.ShadowsIn 18 38) := by
  have nested : rebindingTree.lower.Nested := by decide +kernel
  have guards : rebindingTree.lower.guarded? 18 = some 16 := by decide +kernel
  have hides_iff := hidesIn_alternative_iff .empty nested compile_rebindingTree isIfElse_rebindingTree
    (by decide +kernel) (by decide +kernel : 18 ∈ rebindingTree.lower.ancestors 18)
  exact ⟨nested, isIfElse_rebindingTree, guards, hides_iff.trans (forall_prop_of_true guards)⟩

/-- The name in the part for the failing case is bound to the variable of the condition that has failed,
although a variable with that name is declared before the branch. -/
theorem not_hidesIn_alternative :
    compile .empty 4 rebindingSource rebindingTree.lower .library false = .ok rebindingAnalysis ∧
      rebindingTree.lower.IsIfElse 16 18 38 ∧
      rebindingTree.lower.rawKind 18 = "let_condition" ∧
      (∃ earlier rebound : Declaration,
        rebindingAnalysis.program.IsVariableOf 9 earlier ∧
        rebindingAnalysis.program.IsVariableOf 18 rebound ∧
        earlier ∈ rebindingAnalysis.program.visibleAs "x" (rebindingTree.lower.span 43).start ∧
        rebindingAnalysis.bindings.known? 43 = some rebound) ∧
      ¬rebindingAnalysis.HidesIn 18 38 := by
  have declared : ∃ earlier ∈ rebindingProgram.table.declarations.toList,
      (earlier.node = 9 ∧ earlier.symbol.kind = .variable) ∧
        earlier ∈ rebindingProgram.visibleAs "x" (rebindingTree.lower.span 43).start := by
    decide +kernel
  have bound : ∃ rebound ∈ rebindingProgram.table.declarations.toList,
      (rebound.node = 18 ∧ rebound.symbol.kind = .variable) ∧
        rebindingBindings.known? 43 = some rebound := by
    decide +kernel
  rcases declared with ⟨earlier, isListed, ⟨node, kind⟩, visible⟩
  rcases bound with ⟨rebound, isListed', ⟨node', kind'⟩, known⟩
  have isVariable : rebindingAnalysis.program.IsVariableOf 9 earlier :=
    ⟨Array.mem_toList_iff.mp isListed, node, kind⟩
  have isVariable' : rebindingAnalysis.program.IsVariableOf 18 rebound :=
    ⟨Array.mem_toList_iff.mp isListed', node', kind'⟩
  have isUse : rebindingAnalysis.program.IsUse 43 :=
    ⟨by decide +kernel, by decide +kernel, by decide +kernel⟩
  have inElse : 38 ∈ rebindingTree.lower.ancestors 43 := by decide +kernel
  refine ⟨compile_rebindingTree, isIfElse_rebindingTree, by decide +kernel,
    ⟨earlier, rebound, isVariable, isVariable', visible, known⟩, ?_⟩
  intro hides
  exact hides 43 isUse inElse rebound isVariable' known

end Analysis

end SourceLens
