import Mathlib.Data.Finset.Card
import SourceLens.Proofs.Tree.Lowered

/-!
# Regular trees

What a tree has to be like for inference to come to an end, and the two ways in which its nodes are
ordered there: downwards, and by where they end.
-/

namespace SourceLens

namespace Tree

/-- What inference takes for granted of the tree of a source: spans are nested, identifiers are not
empty, literals without a name of their own lie directly inside one with parts, and the receiver of an
access is not the bare name of a field. -/
structure Regular (tree : Tree) : Prop where
  linked : tree.Linked
  nested : tree.Nested
  nonempty : ∀ id, tree.kind id = .identifier → (tree.span id).start < (tree.span id).stop
  isLiteral : ∀ id, tree.kind id = .literal →
    ParseTree.isLiteral (tree.rawKind id) = true ∨
      ∃ parent, tree.parent id = some parent ∧
        ParseTree.isCompositeLiteral (tree.rawKind parent) = true
  receiver : ∀ access id, tree.rawKind access = "field_expression" →
    tree.childInRole access .receiver = some id → tree.rawKind id ≠ "field_identifier"

/-- Whether a node is reached from another one downwards, through no statement that binds a
pattern. -/
inductive Leads (tree : Tree) (outer : NodeId) : NodeId → Prop where
  | refl : Leads tree outer outer
  | child {id child : NodeId} (leads : Leads tree outer id)
      (notLet : tree.rawKind id ≠ "let_declaration") (member : child ∈ tree.children id) :
      Leads tree outer child

section Leads

variable {tree : Tree} {outer inner : Nat}

theorem Leads.trans {middle : NodeId} (first : tree.Leads outer middle)
    (second : tree.Leads middle inner) : tree.Leads outer inner := by
  induction second with
  | refl => exact first
  | child _ notLet member ih => exact ih.child notLet member

theorem Leads.mem_ancestors (linked : tree.Linked) (leads : tree.Leads outer inner) :
    outer ∈ tree.ancestors inner := by
  induction leads with
  | refl => simp
  | child _ _ member ih => exact linked.mem_ancestors_of_child member ih

theorem Leads.parent {parent : NodeId} (linked : tree.Linked) (leads : tree.Leads outer inner)
    (parentEq : tree.parent inner = some parent) : inner = outer ∨ tree.Leads outer parent := by
  cases leads with
  | refl => exact .inl rfl
  | child leads notLet member =>
      cases (linked.parent_of_mem_children member).symm.trans parentEq
      exact .inr leads

/-- A statement around a node that is reached from another is the node itself or around both. -/
theorem Leads.statement_cases (linked : tree.Linked) (leads : tree.Leads outer inner)
    {statement : Nat} (around : statement ∈ tree.ancestors inner)
    (isLet : tree.rawKind statement = "let_declaration") :
    statement = inner ∨ statement ∈ tree.ancestors outer ∧ statement ≠ outer := by
  induction leads with
  | refl =>
      by_cases same : statement = outer
      · exact .inl same
      · exact .inr ⟨around, same⟩
  | @child id child leads notLet member ih =>
      rcases linked.mem_ancestors_iff.mp around with same | ⟨parent, parentEq, outside⟩
      · exact .inl same
      · cases (linked.parent_of_mem_children member).symm.trans parentEq
        rcases ih outside with same | beyond
        · subst same
          exact absurd isLet notLet
        · exact .inr beyond

end Leads

/-- Whether a node ends before another one, or lies further inside and ends with it. -/
def Before (tree : Tree) (first second : Nat) : Prop :=
  (tree.span first).stop < (tree.span second).stop ∨
    (tree.span first).stop = (tree.span second).stop ∧ second < first

instance (tree : Tree) (first second : Nat) : Decidable (tree.Before first second) :=
  inferInstanceAs (Decidable (_ ∨ _))

theorem not_before_self (tree : Tree) (id : Nat) : ¬tree.Before id id := by
  simp [Before]

theorem Before.trans {tree : Tree} {first second third : Nat} (left : tree.Before first second)
    (right : tree.Before second third) : tree.Before first third := by
  unfold Before at *
  omega

/-- The number of nodes before a node. -/
def rank (tree : Tree) (id : Nat) : Nat :=
  ((Finset.range tree.nodes.size).filter fun other => tree.Before other id).card

theorem rank_lt_rank {tree : Tree} {first second : Nat} (before : tree.Before first second)
    (inRange : first < tree.nodes.size) : tree.rank first < tree.rank second := by
  apply Finset.card_lt_card
  rw [Finset.ssubset_iff_of_subset]
  · refine ⟨first, ?_, ?_⟩
    · rw [Finset.mem_filter, Finset.mem_range]
      exact ⟨inRange, before⟩
    · rw [Finset.mem_filter]
      exact fun member => tree.not_before_self first member.2
  · intro other member
    rw [Finset.mem_filter] at member ⊢
    exact ⟨member.1, member.2.trans before⟩

theorem rank_lt_size {tree : Tree} {id : Nat} (inRange : id < tree.nodes.size) :
    tree.rank id < tree.nodes.size := by
  have fewer : (Finset.range tree.nodes.size).filter (fun other => tree.Before other id) ⊂
      Finset.range tree.nodes.size := by
    rw [Finset.ssubset_iff_of_subset (Finset.filter_subset _ _)]
    refine ⟨id, Finset.mem_range.mpr inRange, ?_⟩
    rw [Finset.mem_filter]
    exact fun member => tree.not_before_self id member.2
  simpa [rank] using Finset.card_lt_card fewer

end Tree

namespace ParseTree

/-- What the parser promises about the spans of a tree, as long as it inserts no tokens of its own:
children lie inside their parent in order and without overlap, and identifiers without parts are not
empty. -/
structure IsRegular (parsed : ParseTree) : Prop where
  nested : parsed.lower.Nested
  nonempty : ∀ id, parsed.lower.children id = [] → parsed.lower.kind id = .identifier →
    (parsed.lower.span id).start < (parsed.lower.span id).stop

/-- What the grammar promises about every tree.  This goes beyond spans: identifiers are tokens, so
they have no parts, and the receiver of an access is an expression, so it is never the bare name of a
field. -/
structure FollowsGrammar (parsed : ParseTree) : Prop where
  leaf : ∀ id, parsed.lower.kind id = .identifier → parsed.lower.children id = []
  receiver : ∀ access id, parsed.lower.rawKind access = "field_expression" →
    parsed.lower.childInRole access .receiver = some id →
      parsed.lower.rawKind id ≠ "field_identifier"

theorem IsRegular.lower {parsed : ParseTree} (regular : parsed.IsRegular)
    (grammar : parsed.FollowsGrammar) : parsed.lower.Regular where
  linked := parsed.linked_lower
  nested := regular.nested
  nonempty id isIdentifier := regular.nonempty id (grammar.leaf id isIdentifier) isIdentifier
  isLiteral _ := isLiteral_of_kind
  receiver := grammar.receiver

/-- What regularity asks of one node. -/
def IsRegularAt (parsed : ParseTree) (id : NodeId) : Prop :=
  let tree := parsed.lower
  (tree.span id).start ≤ (tree.span id).stop ∧
    (∀ child ∈ tree.children id, (tree.span id).covers (tree.span child) = true) ∧
    (tree.children id).Pairwise (fun first second =>
      (tree.span first).stop ≤ (tree.span second).start) ∧
    (tree.children id = [] → tree.kind id = .identifier →
      (tree.span id).start < (tree.span id).stop)

/-- What the grammar asks of one node. -/
def FollowsGrammarAt (parsed : ParseTree) (id : NodeId) : Prop :=
  let tree := parsed.lower
  (tree.kind id = .identifier → tree.children id = []) ∧
    (tree.rawKind id = "field_expression" → ∀ receiver ∈ tree.childInRole id .receiver,
      tree.rawKind receiver ≠ "field_identifier")

instance (parsed : ParseTree) (id : NodeId) : Decidable (parsed.IsRegularAt id) :=
  inferInstanceAs (Decidable (_ ∧ _))

instance (parsed : ParseTree) (id : NodeId) : Decidable (parsed.FollowsGrammarAt id) :=
  inferInstanceAs (Decidable (_ ∧ _))

section Nodes

variable {parsed : ParseTree}

theorem at_of_size_le {id : NodeId} (outside : parsed.lower.nodes.size ≤ id) :
    parsed.IsRegularAt id ∧ parsed.FollowsGrammarAt id := by
  simp [IsRegularAt, FollowsGrammarAt, Tree.span, Tree.children, Tree.kind, Tree.rawKind,
    Tree.node_of_size_le outside, Node.absent, Span.empty]

theorem isRegular_iff :
    parsed.IsRegular ↔ ∀ id < parsed.lower.nodes.size, parsed.IsRegularAt id := by
  constructor
  · intro regular id _
    exact ⟨regular.nested.upright id, regular.nested.inside id, regular.nested.apart id,
      regular.nonempty id⟩
  · intro inside
    have each : ∀ id, parsed.IsRegularAt id := by
      intro id
      by_cases inRange : id < parsed.lower.nodes.size
      · exact inside id inRange
      · exact (at_of_size_le (Nat.le_of_not_lt inRange)).1
    exact ⟨⟨fun id => (each id).1, fun id => (each id).2.1, fun id => (each id).2.2.1⟩,
      fun id => (each id).2.2.2⟩

theorem followsGrammar_iff :
    parsed.FollowsGrammar ↔ ∀ id < parsed.lower.nodes.size, parsed.FollowsGrammarAt id := by
  constructor
  · intro grammar id _
    exact ⟨grammar.leaf id, fun isAccess receiver => grammar.receiver id receiver isAccess⟩
  · intro inside
    have each : ∀ id, parsed.FollowsGrammarAt id := by
      intro id
      by_cases inRange : id < parsed.lower.nodes.size
      · exact inside id inRange
      · exact (at_of_size_le (Nat.le_of_not_lt inRange)).2
    exact ⟨fun id => (each id).1,
      fun access id isAccess receiverEq => (each access).2 isAccess id receiverEq⟩

end Nodes

instance (parsed : ParseTree) : Decidable parsed.IsRegular :=
  decidable_of_iff _ isRegular_iff.symm

instance (parsed : ParseTree) : Decidable parsed.FollowsGrammar :=
  decidable_of_iff _ followsGrammar_iff.symm

end ParseTree

end SourceLens
