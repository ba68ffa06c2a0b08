import SourceLens.Proofs.Program.Inquiry
import SourceLens.Proofs.Tree.Regular

/-!
# Inference has an end

Inference starts again at depth zero for the receiver of a member, so its depth does not bound it.
What bounds it is where it goes next: to a part of the node, which lies further inside, or to the
initial value of a variable.  A variable is visible only after the statement that binds it, so the
initial value ends before the name that led to it.  The exception is a name that stands in the
statement itself; it is never met again, because no such name lies inside an initial value.
-/

namespace SourceLens

/-- The node that a piece of evidence mentions. -/
def Evidence.mentioned? : Evidence → Option NodeId
  | result node | same node | reference _ node | referent node => some node
  | _ => none

theorem Evidence.mentioned?_of_part? {evidence : Evidence} {node : NodeId}
    (partEq : evidence.part? = some node) : evidence.mentioned? = some node := by
  cases evidence with
  | same _ | reference _ _ | referent _ => exact partEq
  | _ => cases partEq

theorem Evidence.mentioned?_about {evidence : NodeId → Evidence} {node : Option NodeId}
    {inner : NodeId} (mentions : (about evidence node).mentioned? = some inner)
    (mentioned : ∀ node, (evidence node).mentioned? = some node) : node = some inner := by
  cases node with
  | none => cases mentions
  | some node =>
      rw [← mentioned node]
      exact mentions

namespace Program

variable {program : Program} {bindings : Bindings}

theorem evidence_of_isCompositeLiteral {node : NodeId}
    (isLiteral : ParseTree.isCompositeLiteral (program.tree.rawKind node) = true) :
    ∃ type, program.evidence node = .known type := by
  simp only [ParseTree.isCompositeLiteral, List.contains_eq_mem, List.mem_cons, List.not_mem_nil,
    or_false, decide_eq_true_eq] at isLiteral
  unfold evidence
  rcases isLiteral with kind | kind | kind | kind <;> simp [kind, Evidence.shown]

theorem mentioned?_constructionEvidence (program : Program) (node : NodeId) :
    (program.constructionEvidence node).mentioned? = none := by
  unfold constructionEvidence
  split
  · split <;> rfl
  · rfl
  · rfl

/-- The evidence about a node mentions one of its children, or the literal around it. -/
theorem mentioned_cases (regular : program.tree.Regular) {node inner : NodeId}
    (mentions : (program.evidence node).mentioned? = some inner) :
    (inner ∈ program.tree.children node ∧ program.tree.rawKind node ≠ "let_declaration" ∧
        program.tree.rawKind node ≠ "field_expression") ∨
      program.evidence node = .same inner ∧ ∃ type, program.evidence inner = .known type := by
  generalize evidenceEq : program.evidence node = known at mentions ⊢
  unfold evidence at evidenceEq
  dsimp only at evidenceEq
  split at evidenceEq
  all_goals subst evidenceEq
  all_goals try (cases mentions)
  case h_13 isCall =>
    have childEq := Evidence.mentioned?_about mentions fun _ => rfl
    exact .inl ⟨Tree.mem_children_of_childInRole childEq, by simp [isCall]⟩
  case h_14 =>
    rw [mentioned?_constructionEvidence] at mentions
    cases mentions
  case h_15 isReference =>
    have childEq := Evidence.mentioned?_about mentions fun _ => rfl
    exact .inl ⟨Tree.mem_children_of_childInRole childEq, by simp [isReference]⟩
  case h_16 isGroup =>
    have childEq := Evidence.mentioned?_about mentions fun _ => rfl
    exact .inl ⟨List.mem_of_find?_eq_some childEq, by simp [isGroup]⟩
  case h_17 => split at mentions <;> cases mentions
  case h_18 isBinary =>
    split at mentions
    · cases mentions
    · have childEq := Evidence.mentioned?_about mentions fun _ => rfl
      exact .inl ⟨Tree.mem_children_of_childInRole childEq, by simp [isBinary]⟩
  case h_19 isUnary =>
    have childEq := Evidence.mentioned?_about mentions fun _ => by split <;> rfl
    exact .inl ⟨List.mem_of_getLast? childEq, by simp [isUnary]⟩
  case h_20 => split at mentions <;> cases mentions
  case h_21 =>
    have parentEq := Evidence.mentioned?_about mentions fun _ => rfl
    have literals := (Option.filter_eq_some_iff.mp parentEq).2
    simp only [Bool.and_eq_true, beq_iff_eq] at literals
    rcases regular.isLiteral node literals.1 with isLiteral | ⟨parent, outer, isComposite⟩
    · simp_all [ParseTree.isLiteral]
    · cases (Option.filter_eq_some_iff.mp parentEq).1.symm.trans outer
      refine .inr ⟨?_, evidence_of_isCompositeLiteral isComposite⟩
      rw [parentEq]
      rfl

theorem leads_of_namingChild? {node child : NodeId}
    (childEq : program.namingChild? node = some child) : program.tree.Leads node child := by
  have step : ∀ {role}, program.tree.childInRole node role = some child →
      program.tree.rawKind node ≠ "let_declaration" → program.tree.Leads node child :=
    fun found notLet => .child .refl notLet (Tree.mem_children_of_childInRole found)
  unfold namingChild? at childEq
  split at childEq
  case h_7 => cases childEq
  all_goals exact step childEq (by simp [*])

theorem leads_of_namingNode? {node name : NodeId} (named : program.namingNode? node = some name) :
    program.tree.Leads node name := by
  fun_induction program.namingNode? node with
  | case1 node isIdentifier =>
      cases named
      exact .refl
  | case2 node notIdentifier child childEq deeper ih =>
      exact (leads_of_namingChild? childEq).trans (ih named)
  | case3 => cases named
  | case4 => cases named

theorem KnownBy.leads (regular : program.tree.Regular) {node name : NodeId}
    (known : program.KnownBy node name) :
    program.tree.Leads node name ∧ program.tree.kind name = .identifier := by
  rw [KnownBy, Option.bind_eq_some_iff] at known
  rcases known with ⟨target, targetEq, named⟩
  refine ⟨?_, kind_of_namingNode? named⟩
  cases evidenceEq : program.evidence node with
  | denoted =>
      rw [evidenceEq] at targetEq
      cases targetEq
      exact leads_of_namingNode? named
  | result callee =>
      rw [evidenceEq] at targetEq
      cases targetEq
      have mentions : (program.evidence node).mentioned? = some target := by rw [evidenceEq]; rfl
      rcases mentioned_cases regular mentions with ⟨member, notLet, -⟩ | ⟨same, -⟩
      · exact (Tree.Leads.child .refl notLet member).trans (leads_of_namingNode? named)
      · rw [evidenceEq] at same
        cases same
  | _ =>
      rw [evidenceEq] at targetEq
      cases targetEq

theorem memberAccess?_eq_some_iff {token access : NodeId} :
    program.memberAccess? token = some access ↔
      program.tree.rawKind token = "field_identifier" ∧ program.tree.parent token = some access ∧
        program.tree.rawKind access = "field_expression" := by
  cases parentEq : program.tree.parent token with
  | none => simp [memberAccess?, parentKind, parentEq]
  | some parent =>
      simp only [memberAccess?, parentKind, parentEq, Option.map_some, Option.getD_some,
        Bool.and_eq_true, beq_iff_eq, Option.ite_none_right_eq_some, Option.some.injEq]
      constructor
      · rintro ⟨⟨isField, isAccess⟩, rfl⟩
        exact ⟨isField, rfl, isAccess⟩
      · rintro ⟨isField, rfl, isAccess⟩
        exact ⟨⟨isField, isAccess⟩, rfl⟩

theorem memberAccess?_eq_none (linked : program.tree.Linked) {node child : NodeId}
    (member : child ∈ program.tree.children node)
    (noAccess : program.tree.rawKind node = "field_expression" →
      program.tree.rawKind child ≠ "field_identifier") : program.memberAccess? child = none := by
  rw [Option.eq_none_iff_forall_ne_some]
  intro access accessEq
  rcases memberAccess?_eq_some_iff.mp accessEq with ⟨isField, parentEq, isAccess⟩
  cases (linked.parent_of_mem_children member).symm.trans parentEq
  exact noAccess isAccess isField

/-- A question about a part of a node: of the node itself or, if it is the member of an access, of
that access. -/
structure AsksPart (program : Program) (node inner : Nat) : Prop where
  /-- The part is a node of the tree. -/
  inRange : inner < program.tree.nodes.size
  /-- The part is not the member of an access. -/
  notMember : program.memberAccess? inner = none
  /-- The part lies below the node. -/
  below : program.memberAccess? node = none → node < inner ∧ program.tree.Leads node inner

/-- A question about the initial value of a variable that a name inside a node denotes. -/
structure AsksValue (program : Program) (node inner name : NodeId) (declaration : Declaration)
    (statement pattern token : NodeId) : Prop where
  /-- The name lies inside the node. -/
  leads : program.tree.Leads node name
  /-- The name is an identifier. -/
  kind_eq : program.tree.kind name = .identifier
  /-- The variable has the initial value. -/
  binding : program.LetBinding declaration statement pattern token inner
  /-- The name is the variable's own, or stands where the variable is visible. -/
  finds : token = name ∨ declaration.isVisibleAt (program.tree.span name).start = true

theorem Asks.cases (regular : program.tree.Regular) (collected : program.Collected)
    {node inner : NodeId} (asks : program.Asks node inner) :
    (∃ type, program.evidence inner = .known type) ∨ program.AsksPart node inner ∨
      ∃ name declaration statement pattern token,
        program.AsksValue node inner name declaration statement pattern token := by
  cases asks with
  | part partEq =>
      rcases mentioned_cases regular (Evidence.mentioned?_of_part? partEq) with
        ⟨member, notLet, notAccess⟩ | ⟨-, shown⟩
      · right; left
        exact ⟨regular.linked.lt_size_of_mem_children member,
          memberAccess?_eq_none regular.linked member fun isAccess => absurd isAccess notAccess,
          fun _ => ⟨regular.linked.lt_of_mem_children member, .child .refl notLet member⟩⟩
      · exact .inl shown
  | @receiver name access _ known accessEq receiverEq =>
      right; left
      rcases known.leads regular with ⟨leads, -⟩
      rcases memberAccess?_eq_some_iff.mp accessEq with ⟨-, parentEq, isAccess⟩
      have member := Tree.mem_children_of_childInRole receiverEq
      refine ⟨regular.linked.lt_size_of_mem_children member, ?_, ?_⟩
      · apply memberAccess?_eq_none regular.linked member
        exact fun isAccess => regular.receiver access inner isAccess receiverEq
      · intro notMember
        rcases leads.parent regular.linked parentEq with same | leads
        · rw [← same, accessEq] at notMember
          cases notMember
        · have before := regular.linked.le_of_mem_ancestors (leads.mem_ancestors regular.linked)
          have after := regular.linked.lt_of_mem_children member
          exact ⟨Nat.lt_of_le_of_lt before after, leads.child (by simp [isAccess]) member⟩
  | @value name _ declaration typeOf known found isOwn valueEq =>
      rcases known.leads regular with ⟨leads, isIdentifier⟩
      rcases collected.named_or_visible found valueEq isOwn with
        ⟨⟨statement, pattern, token, binding⟩, finds⟩
      rw [binding.nameToken_eq, Option.some.injEq] at finds
      exact .inr (.inr ⟨name, declaration, statement, pattern, token, leads, isIdentifier, binding,
        finds⟩)

section LetBinding

variable {declaration : Declaration} {statement pattern token initializer : NodeId}

theorem LetBinding.mem_children
    (binding : program.LetBinding declaration statement pattern token initializer) :
    pattern ∈ program.tree.children statement ∧ initializer ∈ program.tree.children statement :=
  ⟨Tree.mem_children_of_childInRole binding.pattern_eq,
    Tree.mem_children_of_childInRole binding.value_eq⟩

theorem LetBinding.pattern_ne
    (binding : program.LetBinding declaration statement pattern token initializer)
    {declaration' : Declaration} {statement' pattern' token' initializer' : NodeId}
    (binding' : program.LetBinding declaration' statement' pattern' token' initializer') :
    pattern ≠ initializer' := by
  rintro rfl
  have asPattern := Tree.role_of_childInRole binding.pattern_eq
  rw [Tree.role_of_childInRole binding'.value_eq] at asPattern
  cases asPattern

theorem LetBinding.isName
    (binding : program.LetBinding declaration statement pattern token initializer) :
    token ∈ program.buffer.patternNames pattern := by
  rw [binding.names_eq]
  exact List.mem_singleton_self token

theorem LetBinding.mem_ancestors
    (binding : program.LetBinding declaration statement pattern token initializer) :
    pattern ∈ program.tree.ancestors token :=
  (Document.mem_patternNames_iff.mp binding.isName).2.2.1

/-- The pattern declares no other name. -/
theorem LetBinding.eq_of_mem_ancestors (regular : program.tree.Regular)
    (binding : program.LetBinding declaration statement pattern token initializer)
    {pattern' name : NodeId} (isName : name ∈ program.buffer.patternNames pattern')
    (inside : pattern ∈ program.tree.ancestors name) : name = token := by
  have covers : (program.tree.span pattern).covers (program.tree.span name) = true := by
    simpa [Span.covers] using regular.nested.span_of_mem_ancestors regular.linked inside
  rcases Document.mem_patternNames_iff.mp isName with ⟨isToken, -, -, isPatternName⟩
  have member : name ∈ program.buffer.patternNames pattern :=
    Document.mem_patternNames_iff.mpr ⟨isToken, covers, inside, isPatternName⟩
  rw [binding.names_eq, List.mem_singleton] at member
  exact member

/-- A variable is visible only after its statement. -/
theorem LetBinding.stop_le_of_isVisibleAt (regular : program.tree.Regular)
    (binding : program.LetBinding declaration statement pattern token initializer) {offset : Nat}
    (visible : declaration.isVisibleAt offset = true) :
    (program.tree.span statement).stop ≤ offset := by
  have sameTree : program.buffer.tree = program.tree := rfl
  simp only [Declaration.isVisibleAt, binding.place_eq, Place.scope?, Document.enclosingBlock?,
    Option.any_map, Option.any_eq_true, sameTree] at visible
  rcases visible with ⟨block, blockEq, touches⟩
  have around : block ∈ program.tree.ancestors statement :=
    List.mem_of_mem_drop (List.mem_of_find?_eq_some blockEq)
  have inside := (regular.nested.span_of_mem_ancestors regular.linked around).2
  simp only [Span.touches, Bool.and_eq_true, decide_eq_true_eq] at touches
  omega

/-- A name that declares a variable by itself does not lie in the initial value of a variable, unless
in a statement of its own. -/
theorem LetBinding.not_leads (regular : program.tree.Regular)
    (binding : program.LetBinding declaration statement pattern token initializer)
    {declaration' : Declaration} {statement' pattern' token' initializer' : NodeId}
    (binding' : program.LetBinding declaration' statement' pattern' token' initializer') :
    ¬program.tree.Leads initializer token' := by
  intro leads
  have linked := regular.linked
  have inValue := leads.mem_ancestors linked
  have around : statement' ∈ program.tree.ancestors token' :=
    linked.mem_ancestors_trans binding'.mem_ancestors
      (linked.mem_ancestors_of_child binding'.mem_children.1 (by simp))
  rcases leads.statement_cases linked around binding'.isLet with same | ⟨outside, different⟩
  · have before := linked.lt_of_mem_children binding'.mem_children.1
    have after := linked.le_of_mem_ancestors binding'.mem_ancestors
    omega
  rcases linked.mem_ancestors_iff.mp outside with same | ⟨parent, parentEq, outside⟩
  · exact different same
  cases (linked.parent_of_mem_children binding.mem_children.2).symm.trans parentEq
  by_cases same : statement' = statement
  · -- The name is in one child of the statement only.
    subst same
    have samePart := linked.eq_of_children_of_mem_ancestors binding'.mem_children.1
      binding.mem_children.2 binding'.mem_ancestors inValue
    exact binding'.pattern_ne binding samePart
  · -- The outer pattern has one name only, so the inner pattern declares that name too.
    rcases linked.exists_child_of_mem_ancestors outside same with ⟨child, member, outer⟩
    have inStatement : statement ∈ program.tree.ancestors token' :=
      linked.mem_ancestors_trans inValue
        (linked.mem_ancestors_of_child binding.mem_children.2 (by simp))
    have samePart := linked.eq_of_children_of_mem_ancestors member binding'.mem_children.1
      (linked.mem_ancestors_trans inStatement outer) binding'.mem_ancestors
    subst samePart
    have inPattern : child ∈ program.tree.ancestors token :=
      linked.mem_ancestors_trans binding.mem_ancestors
        (linked.mem_ancestors_of_child binding.mem_children.1 outer)
    have sameName := binding'.eq_of_mem_ancestors regular binding.isName inPattern
    subst sameName
    exact binding.pattern_ne binding (linked.eq_of_children_of_mem_ancestors
      binding.mem_children.1 binding.mem_children.2 binding.mem_ancestors inValue)

end LetBinding

/-- Whether a node is reached inside the initial value of a variable. -/
structure IsSettled (program : Program) (node : NodeId) : Prop where
  /-- The node is a node of the tree. -/
  inRange : node < program.tree.nodes.size
  /-- The node is not the member of an access. -/
  notMember : program.memberAccess? node = none
  /-- The node lies inside the initial value of a variable. -/
  inValue : ∃ declaration statement pattern token initializer,
    program.LetBinding declaration statement pattern token initializer ∧
      program.tree.Leads initializer node

theorem LetBinding.isSettled (regular : program.tree.Regular) {declaration : Declaration}
    {statement pattern token initializer : NodeId}
    (binding : program.LetBinding declaration statement pattern token initializer) :
    program.IsSettled initializer := by
  have member := binding.mem_children.2
  refine ⟨regular.linked.lt_size_of_mem_children member, ?_, ?_⟩
  · apply memberAccess?_eq_none regular.linked member
    simp [binding.isLet]
  · exact ⟨declaration, statement, pattern, token, initializer, binding, .refl⟩

/-- Inside initial values every question leads to a node that ends earlier, or further inside. -/
theorem IsSettled.asks (regular : program.tree.Regular) (collected : program.Collected)
    {node inner : Nat} (settled : program.IsSettled node) (asks : program.Asks node inner) :
    (∃ type, program.evidence inner = .known type) ∨
      program.IsSettled inner ∧ program.tree.Before inner node := by
  have linked := regular.linked
  rcases settled.inValue with ⟨declaration, statement, pattern, token, initializer, binding, inside⟩
  rcases asks.cases regular collected with
    shown | part | ⟨name, declaration', statement', pattern', token', value⟩
  · exact .inl shown
  · right
    rcases part.below settled.notMember with ⟨after, leads⟩
    refine ⟨⟨part.inRange, part.notMember, declaration, statement, pattern, token, initializer,
      binding, inside.trans leads⟩, ?_⟩
    have within := (regular.nested.span_of_mem_ancestors linked (leads.mem_ancestors linked)).2
    unfold Tree.Before
    omega
  · right
    refine ⟨value.binding.isSettled regular, ?_⟩
    rcases value.finds with own | visible
    · have notInside := binding.not_leads regular value.binding
      rw [own] at notInside
      exact absurd (inside.trans value.leads) notInside
    · have after := value.binding.stop_le_of_isVisibleAt regular visible
      have nonempty := regular.nonempty name value.kind_eq
      have within :=
        (regular.nested.span_of_mem_ancestors linked (value.leads.mem_ancestors linked)).2
      have inStatement := (regular.nested.span_of_mem_ancestors linked
        (linked.mem_ancestors_of_child value.binding.mem_children.2
          (Tree.mem_ancestors_self _ _))).2
      unfold Tree.Before
      omega

section Ends

variable (regular : program.tree.Regular) (collected : program.Collected)
  (sound : bindings.IsSound program) (byName : program.ResolvesNames)
include regular collected sound byName

omit regular collected sound byName in
theorem inferWithin_succ_of_known {bound : Nat} {node : NodeId} {type : TypeText} (depth : Nat)
    (shown : program.evidence node = .known type) :
    program.inferWithin bindings (bound + 1) node depth ≠ .endless := by
  rw [inferWithin, shown]
  split <;> simp

/-- Inside initial values, inference ends within as many steps as there are nodes that end earlier. -/
theorem inferWithin_ne_endless_of_isSettled {bound : Nat} {node : NodeId}
    (settled : program.IsSettled node) (enough : program.tree.rank node + 2 ≤ bound)
    (depth : Nat) : program.inferWithin bindings bound node depth ≠ .endless := by
  induction bound generalizing node depth with
  | zero => omega
  | succ bound ih =>
      apply inferWithin_succ_ne_endless sound byName
      intro inner depth asks
      rcases settled.asks regular collected asks with ⟨type, shown⟩ | ⟨settled', before⟩
      · obtain ⟨fewer, rfl⟩ := Nat.exists_eq_add_of_le' (show 1 ≤ bound by omega)
        exact inferWithin_succ_of_known depth shown
      · have smaller := Tree.rank_lt_rank before settled'.inRange
        exact ih settled' (by omega) depth

/-- Inference ends at a node, if it ends at the parts of the node. -/
theorem inferWithin_succ_ne_endless_of_parts {bound : Nat} {node : NodeId}
    (enough : program.tree.nodes.size + 1 ≤ bound)
    (parts : ∀ inner depth, program.AsksPart node inner →
      program.inferWithin bindings bound inner depth ≠ .endless) (depth : Nat) :
    program.inferWithin bindings (bound + 1) node depth ≠ .endless := by
  apply inferWithin_succ_ne_endless sound byName
  intro inner depth asks
  rcases asks.cases regular collected with
    ⟨type, shown⟩ | part | ⟨name, declaration, statement, pattern, token, value⟩
  · obtain ⟨fewer, rfl⟩ := Nat.exists_eq_add_of_le' (show 1 ≤ bound by omega)
    exact inferWithin_succ_of_known depth shown
  · exact parts inner depth part
  · have settled := value.binding.isSettled regular
    have smaller := Tree.rank_lt_size settled.inRange
    apply inferWithin_ne_endless_of_isSettled regular collected sound byName settled
    omega

/-- At any node but the member of an access, inference descends to parts until it comes to an initial
value. -/
theorem inferWithin_ne_endless_of_notMember {bound node : Nat}
    (notMember : program.memberAccess? node = none)
    (enough : program.tree.nodes.size - node + program.tree.nodes.size + 2 ≤ bound) (depth : Nat) :
    program.inferWithin bindings bound node depth ≠ .endless := by
  induction bound generalizing node depth with
  | zero => omega
  | succ bound ih =>
      apply inferWithin_succ_ne_endless_of_parts regular collected sound byName (by omega)
      intro inner depth part
      have after := (part.below notMember).1
      have inRange := part.inRange
      exact ih part.notMember (by omega) depth

/-- Inference has an end at every node. -/
theorem inferWithin_ne_endless {bound : Nat} (enough : program.inferenceSteps ≤ bound)
    (node : NodeId) (depth : Nat) :
    program.inferWithin bindings bound node depth ≠ .endless := by
  have manySteps : 2 * program.tree.nodes.size + 4 ≤ bound := by
    unfold inferenceSteps maxDepth at enough
    omega
  obtain ⟨bound, rfl⟩ := Nat.exists_eq_add_of_le' (show 1 ≤ bound by omega)
  apply inferWithin_succ_ne_endless_of_parts regular collected sound byName (by omega)
  intro inner depth part
  apply inferWithin_ne_endless_of_notMember regular collected sound byName part.notMember
  omega

end Ends

/-- The promise about receivers is needed: inference at a field name that is the receiver of its own
access goes on for ever. -/
theorem inferWithin_eq_endless_of_receiver {node access member : NodeId}
    (isIdentifier : program.tree.kind node = .identifier)
    (unnamed : program.table.namedBy? node = none)
    (accessEq : program.memberAccess? node = some access)
    (receiverEq : program.tree.childInRole access .receiver = some node)
    (memberEq : program.tree.childInRole access .member = some member) (bound : Nat) {depth : Nat}
    (shallow : depth ≤ maxDepth) : program.inferWithin #[] bound node depth = .endless := by
  have denotes : program.evidence node = .denoted := by
    simp [evidence, (memberAccess?_eq_some_iff.mp accessEq).1]
  have named : program.namingNode? node = some node := by
    rw [namingNode?, if_pos isIdentifier]
  induction bound generalizing depth with
  | zero => rfl
  | succ bound ih =>
      rw [inferWithin, if_neg (Nat.not_lt.mpr shallow), denotes]
      simp only [denotedWith, named, Bindings.known?, resolveTokenWith, unnamed, accessEq,
        accessedMember, receiverEq, memberEq, ih (Nat.zero_le maxDepth)]
      rfl

end Program

end SourceLens
