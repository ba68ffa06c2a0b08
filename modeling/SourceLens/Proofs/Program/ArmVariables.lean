import SourceLens.Analysis.Rename
import SourceLens.Proofs.Program.Binding

/-!
# The variables of a match arm

Every name in the pattern of an arm declares a variable of its own, and all of them are visible in the
whole arm.  A name of the pattern is therefore bound to its own variable, and any other token to the
last variable with its spelling.  Tokens that are spelled alike are bound to one variable if the
pattern spells no name twice; names of alternatives and of guards are part of the pattern, and make it
do so.
-/

namespace SourceLens

/-- The last member of an increasing list that passes a test is the largest one. -/
theorem find?_reverse_eq_some {values : List Nat} (increasing : values.Pairwise (· < ·))
    {test : Nat → Bool} {value : Nat} (member : value ∈ values) (passes : test value = true)
    (largest : ∀ other ∈ values, test other = true → other ≤ value) :
    values.reverse.find? test = some value := by
  cases found : values.reverse.find? test with
  | none =>
      have fails := List.find?_eq_none.mp found value (List.mem_reverse.mpr member)
      exact absurd passes fails
  | some last =>
      rcases List.find?_eq_some_iff_append.mp found with ⟨lastPasses, after, before, split, fail⟩
      have isMember : last ∈ values := List.mem_reverse.mp (by simp [split])
      have inOrder : (after ++ last :: before).Pairwise (· > ·) := by
        rw [← split, List.pairwise_reverse]
        exact increasing
      have inSplit : value ∈ after ++ last :: before := by
        rw [← split]
        exact List.mem_reverse.mpr member
      rcases List.mem_append.mp inSplit with isAfter | rest
      · have fails := fail value isAfter
        simp [passes] at fails
      · rcases List.mem_cons.mp rest with same | isBefore
        · rw [same]
        · have smaller := (List.pairwise_cons.mp (List.pairwise_append.mp inOrder).2.1).1 value isBefore
          have larger := largest last isMember lastPasses
          omega

namespace SymbolTable

/-- Numbering keeps the order of declarations, and counts up along it. -/
theorem pairwise_number (base : SymbolId) {declarations : List Declaration}
    {relation : Declaration → Declaration → Prop} (pairwise : declarations.Pairwise relation)
    (keeps : ∀ first second id id', relation first second →
      relation (first.withId id) (second.withId id')) :
    (number base declarations).declarations.toList.Pairwise fun first second =>
      first.id < second.id ∧ relation first second := by
  rw [number, declarations_append, empty, Array.empty_append]
  rw [List.pairwise_iff_getElem] at pairwise ⊢
  intro index index' inRange inRange' before
  simp only [List.getElem_mapIdx, List.length_mapIdx] at inRange inRange' ⊢
  refine ⟨?_, keeps _ _ _ _ (pairwise index index' inRange inRange' before)⟩
  exact Nat.add_lt_add_left before _

end SymbolTable

namespace Document

variable {document : Document} {arm : NodeId}

theorem pairwise_patternNames (document : Document) (pattern : NodeId) :
    (document.patternNames pattern).Pairwise (· < ·) := by
  apply List.Pairwise.filter
  rw [document.tree.tokens_eq, Node.leaves]
  exact List.pairwise_lt_range.filter _

/-- Whether two variables of an arm come in the order of their names. -/
def InArmOrder (arm : NodeId) (first second : Declaration) : Prop :=
  first.node = arm → second.node = arm → first.symbol.kind = .variable →
    second.symbol.kind = .variable →
      ∃ name name' : NodeId, first.nameToken = some name ∧ second.nameToken = some name' ∧
        name < name'

theorem node_eq_of_variable {node : NodeId} {declaration : Declaration}
    (member : declaration ∈ document.declarationsAt node)
    (isVariable : declaration.symbol.kind = .variable) : declaration.node = node := by
  rcases declarationsAt_cases member with plain | ⟨nodeEq, -⟩
  · exact absurd isVariable plain.2
  · exact nodeEq

theorem declarationsAt_arm (isArm : document.tree.rawKind arm = "match_arm") :
    document.declarationsAt arm = document.armVariables arm := by
  unfold declarationsAt
  simp only [isArm]

theorem pairwise_declarations (isSource : document.id = .source)
    (isArm : document.tree.rawKind arm = "match_arm") :
    document.declarations.Pairwise (InArmOrder arm) := by
  unfold declarations
  rw [List.pairwise_flatMap]
  constructor
  · intro node _
    by_cases same : node = arm
    · subst same
      rw [declarationsAt_arm isArm, armVariables, variablesOf]
      split
      next pattern _ =>
        rw [patternVariables, List.pairwise_map]
        refine (document.pairwise_patternNames pattern).imp ?_
        intro name name' before _ _ _ _
        exact ⟨name, name', by simp [patternVariable, nameToken?, isSource],
          by simp [patternVariable, nameToken?, isSource], before⟩
      next => exact .nil
    · apply List.pairwise_of_forall_mem_list
      intro first member second _ nodeEq _ isVariable _
      exact absurd ((node_eq_of_variable member isVariable).symm.trans nodeEq) same
  · refine List.pairwise_lt_range.imp ?_
    intro node node' before first member second member' nodeEq nodeEq' isVariable isVariable'
    have same := (node_eq_of_variable member isVariable).symm.trans nodeEq
    have same' := (node_eq_of_variable member' isVariable').symm.trans nodeEq'
    exact absurd (same.trans same'.symm) (Nat.ne_of_lt before)

end Document

namespace Program

variable {program : Program} {arm : NodeId}

/-- The names in the pattern of an arm. -/
def armNames (program : Program) (arm : NodeId) : List NodeId :=
  match program.tree.childInRole arm .pattern with
  | some pattern => program.buffer.patternNames pattern
  | none => []

theorem pairwise_armNames (program : Program) (arm : NodeId) :
    (program.armNames arm).Pairwise (· < ·) := by
  unfold armNames
  split
  · exact program.buffer.pairwise_patternNames _
  · exact .nil

/-- The name in the pattern of an arm whose variable a token stands for: the token itself if it is
one of the names, else the last one with its spelling. -/
def armName? (program : Program) (arm token : NodeId) : Option NodeId :=
  if token ∈ program.armNames arm then some token
  else (program.armNames arm).reverse.find? fun name => program.text name == program.spelling token

/-- Whether a declaration is a variable of a match arm. -/
structure IsArmVariable (program : Program) (arm : NodeId) (declaration : Declaration) : Prop where
  isArm : program.tree.rawKind arm = "match_arm"
  listed : declaration ∈ program.table.declarations
  node_eq : declaration.node = arm
  kind_eq : declaration.symbol.kind = .variable

variable {declaration : Declaration} (collected : program.Collected)
include collected

/-- A variable was declared by its own node. -/
theorem Collected.own_variable (listed : declaration ∈ program.table.declarations)
    (isVariable : declaration.symbol.kind = .variable) :
    ∃ unnumbered ∈ program.buffer.declarationsAt declaration.node,
      ∃ id, declaration = unnumbered.withId id := by
  rcases collected.own listed with ⟨node, -, unnumbered, declared, id, rfl⟩
  have sameNode : unnumbered.node = node := Document.node_eq_of_variable declared isVariable
  subst sameNode
  exact ⟨unnumbered, declared, id, rfl⟩

/-- A variable of an arm has one of the names of the pattern, and is visible in the whole arm. -/
theorem IsArmVariable.exists_name (isVariable : program.IsArmVariable arm declaration) :
    ∃ name ∈ program.armNames arm, declaration.nameToken = some name ∧
      declaration.name = program.text name ∧
        declaration.place = .lexical (some (program.tree.span arm)) := by
  rcases collected.own_variable isVariable.listed isVariable.kind_eq with
    ⟨unnumbered, declared, id, rfl⟩
  rw [isVariable.node_eq, Document.declarationsAt_arm isVariable.isArm] at declared
  rcases Document.mem_variablesOf_iff.mp declared with ⟨pattern, name, patternEq, isName, rfl⟩
  refine ⟨name, ?_, ?_, rfl, rfl⟩
  · have patternEq : program.tree.childInRole arm .pattern = some pattern := patternEq
    simpa only [armNames, patternEq] using isName
  · simp [Declaration.withId, Document.patternVariable, Document.nameToken?, collected.isSource]

/-- Every name of the pattern declares a variable. -/
theorem exists_armVariable (isArm : program.tree.rawKind arm = "match_arm") {name : NodeId}
    (isName : name ∈ program.armNames arm) :
    ∃ declaration, program.IsArmVariable arm declaration ∧ declaration.nameToken = some name := by
  unfold armNames at isName
  split at isName
  next pattern patternEq =>
    have declared : program.buffer.patternVariable
        { node := arm, scope := some (program.buffer.tree.span arm), kind := .variable }
        (program.buffer.isLoneName pattern (program.buffer.patternNames pattern)) name ∈
          program.buffer.declarations := by
      rw [Document.mem_declarations_iff]
      refine ⟨arm, Tree.lt_size_of_rawKind (isArm.trans_ne (by decide)), ?_⟩
      rw [Document.declarationsAt_arm isArm]
      exact Document.mem_variablesOf_iff.mpr ⟨pattern, name, patternEq, isName, rfl⟩
    rcases List.getElem?_of_mem declared with ⟨index, found⟩
    refine ⟨_, ⟨isArm, collected.mem_declarations_iff.mpr ⟨index, _, found, rfl⟩, rfl, rfl⟩, ?_⟩
    simp [Declaration.withId, Document.patternVariable, Document.nameToken?, collected.isSource]
  next => cases isName

/-- The variables of an arm are numbered in the order of their names. -/
theorem IsArmVariable.eq_or_lt {declaration' : Declaration}
    (isVariable : program.IsArmVariable arm declaration)
    (isVariable' : program.IsArmVariable arm declaration') {name name' : NodeId}
    (named : declaration.nameToken = some name) (named' : declaration'.nameToken = some name') :
    declaration = declaration' ∨ declaration.id < declaration'.id ∧ name < name' ∨
      declaration'.id < declaration.id ∧ name' < name := by
  by_cases same : declaration = declaration'
  · exact .inl same
  right
  have pairwise := SymbolTable.pairwise_number program.table.base
    (Document.pairwise_declarations collected.isSource isVariable.isArm) (fun _ _ _ _ => id)
  rw [← collected.table_eq] at pairwise
  rcases or_of_pairwise pairwise (Array.mem_toList_iff.mpr isVariable.listed)
    (Array.mem_toList_iff.mpr isVariable'.listed) same with ⟨before, inOrder⟩ | ⟨before, inOrder⟩
  · rcases inOrder isVariable.node_eq isVariable'.node_eq isVariable.kind_eq isVariable'.kind_eq with
      ⟨first, second, firstEq, secondEq, inOrder⟩
    cases named.symm.trans firstEq
    cases named'.symm.trans secondEq
    exact .inl ⟨before, inOrder⟩
  · rcases inOrder isVariable'.node_eq isVariable.node_eq isVariable'.kind_eq isVariable.kind_eq with
      ⟨first, second, firstEq, secondEq, inOrder⟩
    cases named'.symm.trans firstEq
    cases named.symm.trans secondEq
    exact .inr ⟨before, inOrder⟩

omit collected in
theorem innermost?_eq_none {declarations : List Declaration} :
    innermost? declarations = none ↔ declarations = [] := by
  cases declarations with
  | nil => simp [innermost?]
  | cons first rest =>
      rw [innermost?]
      split
      · split <;> simp
      · simp

omit collected in
/-- The innermost declaration starts last, and comes last among those that start with it. -/
theorem le_of_innermost? {declarations : List Declaration}
    (numbered : declarations.Pairwise fun first second => first.id < second.id)
    (inner : innermost? declarations = some declaration) {other : Declaration}
    (member : other ∈ declarations) :
    other.scopeStart < declaration.scopeStart ∨
      other.scopeStart = declaration.scopeStart ∧ other.id ≤ declaration.id := by
  induction declarations generalizing declaration other with
  | nil => cases member
  | cons first rest ih =>
      rw [List.pairwise_cons] at numbered
      rw [innermost?] at inner
      split at inner
      next last lastEq =>
        have isLast := mem_of_innermost? lastEq
        have before := numbered.1 last isLast
        split at inner
        next starts =>
          cases inner
          rcases List.mem_cons.mp member with rfl | member
          · rcases Nat.lt_or_eq_of_le starts with earlier | same
            · exact .inl earlier
            · exact .inr ⟨same, Nat.le_of_lt before⟩
          · exact ih numbered.2 lastEq member
        next starts =>
          cases inner
          rcases List.mem_cons.mp member with rfl | member
          · exact .inr ⟨rfl, Nat.le_refl _⟩
          · have notLater := ih numbered.2 lastEq member
            left
            omega
      next noneEq =>
        cases inner
        rcases List.mem_cons.mp member with rfl | member
        · exact .inr ⟨rfl, Nat.le_refl _⟩
        · rw [innermost?_eq_none.mp noneEq] at member
          cases member

omit collected in
theorem pairwise_visibleAs (name : String) (offset : Nat) :
    (program.visibleAs name offset).Pairwise fun first second => first.id < second.id := by
  exact (program.filed.pairwise_lexical.filter _).filter _

/-- A token that is bound to a variable of an arm stands for the variable's name. -/
theorem IsArmVariable.nameToken_eq (isVariable : program.IsArmVariable arm declaration)
    {typeOf : NodeId → Search TypeText} {token : NodeId}
    (found : program.resolveTokenWith typeOf token = .found declaration) :
    declaration.nameToken = program.armName? arm token := by
  rcases isVariable.exists_name collected with ⟨name, isName, named, nameEq, placeEq⟩
  rcases resolveTokenWith_cases found with own | ⟨unnamed, reaches⟩
  · have ownName := (program.filed.of_namedBy? own).2
    cases named.symm.trans ownName
    rw [named, armName?, if_pos isName]
  · have inner := reaches.visible_of_variable (by rw [placeEq]; rfl) isVariable.kind_eq
    have visible := mem_visibleAs_iff.mp (mem_of_innermost? inner)
    have noName : token ∉ program.armNames arm := by
      intro isName
      rcases exists_armVariable collected isVariable.isArm isName with ⟨other, isOther, named⟩
      exact program.filed.nameToken_ne_of_namedBy? unnamed isOther.listed named
    rw [named, armName?, if_neg noName]
    symm
    apply find?_reverse_eq_some (pairwise_armNames program arm) isName
    · rw [← nameEq, visible.2.2.2]
      exact beq_self_eq_true _
    · intro name' isName' spelled
      rcases exists_armVariable collected isVariable.isArm isName' with ⟨other, isOther, named'⟩
      rcases isOther.exists_name collected with ⟨name'', -, named'', nameEq', placeEq'⟩
      cases named'.symm.trans named''
      have samePlace : other.place = declaration.place := placeEq'.trans placeEq.symm
      have member : other ∈ program.visibleAs (program.spelling token)
          (program.tree.span token).start := by
        rw [mem_visibleAs_iff, samePlace]
        refine ⟨isOther.listed, visible.2.1, ?_, nameEq'.trans (beq_iff_eq.mp spelled)⟩
        rw [Declaration.isVisibleAt, samePlace]
        exact visible.2.2.1
      have sameStart : other.scopeStart = declaration.scopeStart := by
        rw [Declaration.scopeStart, samePlace, Declaration.scopeStart]
      have notAfter : other.id ≤ declaration.id := by
        rcases le_of_innermost? (pairwise_visibleAs _ _) inner member with
          earlier | ⟨-, notAfter⟩
        · exact absurd sameStart (Nat.ne_of_lt earlier)
        · exact notAfter
      rcases isVariable.eq_or_lt collected isOther named named' with same | after | before
      · rw [same, named'] at named
        cases named
        exact Nat.le_refl _
      · exact absurd after.1 (Nat.not_lt.mpr notAfter)
      · exact Nat.le_of_lt before.2

/-- The variables of an arm are told apart by their names. -/
theorem IsArmVariable.eq_iff {declaration' : Declaration}
    (isVariable : program.IsArmVariable arm declaration)
    (isVariable' : program.IsArmVariable arm declaration') :
    declaration.id = declaration'.id ↔ declaration.nameToken = declaration'.nameToken := by
  rcases isVariable.exists_name collected with ⟨name, -, named, -⟩
  rcases isVariable'.exists_name collected with ⟨name', -, named', -⟩
  rw [named, named', Option.some.injEq]
  rcases isVariable.eq_or_lt collected isVariable' named named' with same | before | after
  · subst same
    cases named.symm.trans named'
    exact ⟨fun _ => rfl, fun _ => rfl⟩
  · exact ⟨fun same => absurd same (Nat.ne_of_lt before.1),
      fun same => absurd same (Nat.ne_of_lt before.2)⟩
  · exact ⟨fun same => absurd same (Nat.ne_of_gt after.1),
      fun same => absurd same (Nat.ne_of_gt after.2)⟩

omit collected in
theorem spelling_of_mem_armNames {name : NodeId} (isName : name ∈ program.armNames arm) :
    program.spelling name = program.text name := by
  unfold armNames at isName
  split at isName
  next pattern _ =>
    have passes := (Document.mem_patternNames_iff.mp isName).2.2.2
    simp only [Document.isPatternName, Bool.and_eq_true, Bool.or_eq_true, beq_iff_eq] at passes
    have notSelf : program.tree.rawKind name ≠ "self" := by
      rcases passes.1.1.1 with isIdentifier | isShorthand
      · exact isIdentifier.trans_ne (by decide)
      · exact isShorthand.trans_ne (by decide)
    rw [spelling, if_neg notSelf]
  next => cases isName

omit collected in
/-- The name that a token stands for is spelled like the token. -/
theorem text_of_armName? {token name : NodeId} (stands : program.armName? arm token = some name) :
    name ∈ program.armNames arm ∧ program.text name = program.spelling token := by
  unfold armName? at stands
  split at stands
  next isName =>
    cases stands
    exact ⟨isName, (spelling_of_mem_armNames isName).symm⟩
  next =>
    refine ⟨List.mem_reverse.mp (List.mem_of_find?_eq_some stands), ?_⟩
    simpa using List.find?_some stands

end Program

namespace Analysis

variable {analysis : Analysis}

theorem mem_references_iff_of_known {id : SymbolId} {token : NodeId} {declaration : Declaration}
    (inRange : token < analysis.tree.nodes.size)
    (known : analysis.bindings.known? token = some declaration) :
    token ∈ analysis.references id ↔ declaration.id = id := by
  simp [references, Tree.ids, known, inRange]

/-- Two tokens that are bound to variables of a match arm are bound to the same symbol, and are
renamed together, exactly when they stand for the same name of the pattern: each name for itself, and
any other token for the last name with its spelling.  In particular, where the pattern spells no name
twice, tokens that are spelled alike are bound to the same symbol. -/
theorem armVariable_unique_iff {library : Library} (loaded : library.Loaded) {indentWidth : Nat}
    {source : String} {tree : Tree} {output : OutputKind}
    (compiled : compile library indentWidth source tree output false = .ok analysis)
    {arm token token' : NodeId} {declaration declaration' : Declaration}
    (known : analysis.bindings.known? token = some declaration)
    (known' : analysis.bindings.known? token' = some declaration')
    (isVariable : analysis.program.IsArmVariable arm declaration)
    (isVariable' : analysis.program.IsArmVariable arm declaration') :
    (declaration.id = declaration'.id ↔
      analysis.program.armName? arm token = analysis.program.armName? arm token') ∧
    ((∀ id, token ∈ analysis.references id ↔ token' ∈ analysis.references id) ↔
      analysis.program.armName? arm token = analysis.program.armName? arm token') ∧
    ((analysis.program.armNames arm).Pairwise (fun name name' =>
        analysis.program.text name ≠ analysis.program.text name') →
      analysis.program.spelling token = analysis.program.spelling token' →
        declaration.id = declaration'.id) := by
  rcases compile_eq_ok_iff.mp compiled with ⟨bindings, bound, rfl⟩
  have collected := Program.collected_ofSource loaded source tree
  rcases Program.isSound_of_bindAll bound token declaration known with ⟨typeOf, found⟩
  rcases Program.isSound_of_bindAll bound token' declaration' known' with ⟨typeOf', found'⟩
  have stands := isVariable.nameToken_eq collected found
  have stands' := isVariable'.nameToken_eq collected found'
  have sameSymbol := isVariable.eq_iff collected isVariable'
  rw [stands, stands'] at sameSymbol
  refine ⟨sameSymbol, ?_, ?_⟩
  · rw [← sameSymbol]
    simp only [mem_references_iff_of_known (Program.lt_size_of_known bound known) known,
      mem_references_iff_of_known (Program.lt_size_of_known bound known') known']
    constructor
    · intro together
      exact (together declaration'.id).mpr rfl
    · intro same id
      rw [same]
  · intro different spelled
    rw [sameSymbol]
    rcases isVariable.exists_name collected with ⟨name, -, named, -⟩
    rcases isVariable'.exists_name collected with ⟨name', -, named', -⟩
    rw [named] at stands
    rw [named'] at stands'
    rw [← stands, ← stands', Option.some.injEq]
    rcases Program.text_of_armName? stands.symm with ⟨isName, text⟩
    rcases Program.text_of_armName? stands'.symm with ⟨isName', text'⟩
    have sameText := text.trans (spelled.trans text'.symm)
    by_contra distinct
    rcases or_of_pairwise different isName isName' distinct with differ | differ
    · exact differ sameText
    · exact differ sameText.symm

/-- A source with a guarded arm. -/
def guardedSource : String :=
  "fn f(v: i32) \x7b match v \x7b x if x > 0 => x, \x7d \x7d"

/-- The tree of `fn f(v: i32) { match v { x if x > 0 => x, } }`. -/
def guardedTree : ParseTree :=
  .named "source_file" 0 45 none
    [.named "function_item" 0 45 none
      [.spelled "fn" 0 2 none, .named "identifier" 3 4 "name" [],
        .named "parameters" 4 12 "parameters"
          [.spelled "(" 4 5 none,
            .named "parameter" 5 11 none
              [.named "identifier" 5 6 "pattern" [], .spelled ":" 6 7 none,
                .named "primitive_type" 8 11 "type" []],
            .spelled ")" 11 12 none],
        .named "block" 13 45 "body"
          [.spelled "\x7b" 13 14 none,
            .named "expression_statement" 15 43 none
              [.named "match_expression" 15 43 none
                [.spelled "match" 15 20 none, .named "identifier" 21 22 "value" [],
                  .named "match_block" 23 43 "body"
                    [.spelled "\x7b" 23 24 none,
                      .named "match_arm" 25 41 none
                        [.named "match_pattern" 25 35 "pattern"
                          [.named "identifier" 25 26 none [], .spelled "if" 27 29 none,
                            .named "binary_expression" 30 35 "condition"
                              [.named "identifier" 30 31 "left" [], .spelled ">" 32 33 "operator",
                                .named "integer_literal" 34 35 "right" []]],
                          .spelled "=>" 36 38 none, .named "identifier" 39 40 "value" [],
                          .spelled "," 40 41 none],
                      .spelled "\x7d" 42 43 none]]],
            .spelled "\x7d" 44 45 none]]]

/-- The program of the guarded arm. -/
def guardedProgram : Program :=
  .ofSource .empty guardedSource guardedTree.lower

/-- What the tokens of the guarded arm are bound to. -/
def guardedBindings : Bindings :=
  guardedProgram.bindAll.toOption.getD #[]

/-- The analysis of the guarded arm. -/
def guardedAnalysis : Analysis :=
  ⟨guardedProgram, guardedBindings, .library, 4⟩

theorem compile_guardedTree :
    compile .empty 4 guardedSource guardedTree.lower .library false = .ok guardedAnalysis := by
  rw [compile_eq_ok_iff]
  exact ⟨guardedBindings, by decide +kernel, rfl⟩

/-- The name in the pattern and the name in the guard are bound to two variables of the arm. -/
theorem exists_guarded_variables :
    ∃ declaration declaration' : Declaration,
      (guardedAnalysis.bindings.known? 21 = some declaration ∧
        guardedAnalysis.bindings.known? 24 = some declaration') ∧
      guardedAnalysis.program.IsArmVariable 19 declaration ∧
      guardedAnalysis.program.IsArmVariable 19 declaration' ∧
      declaration.id ≠ declaration'.id := by
  have listed : ∃ declaration ∈ guardedProgram.table.declarations.toList,
      ∃ declaration' ∈ guardedProgram.table.declarations.toList,
        (guardedBindings.known? 21 = some declaration ∧
          guardedBindings.known? 24 = some declaration') ∧
        (declaration.node = 19 ∧ declaration.symbol.kind = .variable) ∧
        (declaration'.node = 19 ∧ declaration'.symbol.kind = .variable) ∧
        declaration.id ≠ declaration'.id := by decide +kernel
  have isArm : guardedProgram.tree.rawKind 19 = "match_arm" := by decide +kernel
  rcases listed with ⟨declaration, member, declaration', member', known, ⟨node, kind⟩,
    ⟨node', kind'⟩, different⟩
  exact ⟨declaration, declaration', known, ⟨isArm, Array.mem_toList_iff.mp member, node, kind⟩,
    ⟨isArm, Array.mem_toList_iff.mp member', node', kind'⟩, different⟩

theorem armVariable_unique_iff_guarded :
    ∃ declaration declaration' : Declaration,
      guardedAnalysis.bindings.known? 21 = some declaration ∧
      guardedAnalysis.bindings.known? 24 = some declaration' ∧
      (declaration.id = declaration'.id ↔
        guardedAnalysis.program.armName? 19 21 = guardedAnalysis.program.armName? 19 24) := by
  rcases exists_guarded_variables with
    ⟨declaration, declaration', ⟨known, known'⟩, isVariable, isVariable', -⟩
  exact ⟨declaration, declaration', known, known',
    (armVariable_unique_iff .empty compile_guardedTree known known' isVariable isVariable').1⟩

/-- A guard takes the variable of its arm apart: the name in the pattern and the name in the guard are
spelled alike and bound to variables of the same arm, and renaming the one leaves out the other. -/
theorem not_armVariable_unique :
    ∃ declaration declaration' : Declaration,
      compile .empty 4 guardedSource guardedTree.lower .library false = .ok guardedAnalysis ∧
      guardedAnalysis.bindings.known? 21 = some declaration ∧
      guardedAnalysis.bindings.known? 24 = some declaration' ∧
      guardedAnalysis.program.IsArmVariable 19 declaration ∧
      guardedAnalysis.program.IsArmVariable 19 declaration' ∧
      guardedAnalysis.program.text 21 = guardedAnalysis.program.text 24 ∧
      declaration.id ≠ declaration'.id ∧
      21 ∈ guardedAnalysis.references declaration.id ∧
      24 ∉ guardedAnalysis.references declaration.id := by
  rcases exists_guarded_variables with
    ⟨declaration, declaration', ⟨known, known'⟩, isVariable, isVariable', different⟩
  refine ⟨declaration, declaration', compile_guardedTree, known, known', isVariable, isVariable',
    by decide +kernel, different, ?_, ?_⟩
  · exact (mem_references_iff_of_known (by decide +kernel) known).mpr rfl
  · rw [mem_references_iff_of_known (by decide +kernel) known']
    exact different.symm

end Analysis

end SourceLens
