import SourceLens.Proofs.Tree.Links
import SourceLens.Tree.Parsed

/-!
# Trees of parsed sources

A tree that was lowered from a concrete tree is linked, and the kind of each node was found from its
name in the grammar and the names of the nodes around it.  So a node is a literal only if the grammar
calls it one, or if it lies directly inside a literal that has parts.
-/

namespace SourceLens

namespace Tree.Builder

/-- The invariant of lowering inside nodes of the given kinds: the nodes that have not ended are of
these kinds, and every node was classified by the node around it. -/
structure Inside (builder : Builder) (around : List String) : Prop where
  /-- What has begun is linked. -/
  linked : builder.Linked
  /-- What has not ended is of the given kinds. -/
  kinds : (builder.unfinished.map fun id => (builder.node id).rawKind) = around
  /-- Every node was classified by what is around it. -/
  classified : ∀ id < builder.nodes.size, ∃ parsed outer,
    (builder.node id).toNodeHead = ParseTree.lowerHead parsed outer ∧
      outer.head? = (builder.node id).parent.map fun parent => (builder.node parent).rawKind

theorem Inside.empty : Builder.empty.Inside [] :=
  ⟨.empty, rfl, by simp [Builder.empty]⟩

/-- Beginning a node changes the head of no other node. -/
theorem Linked.toNodeHead_enter {builder : Builder} (linked : builder.Linked) (head : NodeHead)
    {id : Nat} (isOld : id ≠ builder.nodes.size) :
    ((builder.enter head).node id).toNodeHead = (builder.node id).toNodeHead ∧
      ((builder.enter head).node id).parent = (builder.node id).parent := by
  rw [linked.node_enter, if_neg isOld]
  split <;> exact ⟨rfl, rfl⟩

theorem Inside.enter {builder : Builder} {around : List String} (inside : builder.Inside around)
    (parsed : ParseNode) :
    (builder.enter (ParseTree.lowerHead parsed around)).Inside (parsed.kind :: around) := by
  have linked := inside.linked
  have newNode : (builder.enter (ParseTree.lowerHead parsed around)).node builder.nodes.size =
      { ParseTree.lowerHead parsed around with
        parent := builder.unfinished.head?, children := [] } := by
    rw [linked.node_enter, if_pos rfl]
  have sameKind : ∀ {id : Nat}, id < builder.nodes.size →
      ((builder.enter (ParseTree.lowerHead parsed around)).node id).rawKind =
        (builder.node id).rawKind := by
    intro id isOld
    rw [(linked.toNodeHead_enter _ (Nat.ne_of_lt isOld)).1]
  have oldKinds : (builder.unfinished.map fun id =>
      ((builder.enter (ParseTree.lowerHead parsed around)).node id).rawKind) = around := by
    refine Eq.trans (List.map_congr_left ?_) inside.kinds
    intro id member
    exact sameKind (linked.unfinished_lt id member)
  refine ⟨linked.enter _, ?_, ?_⟩
  · rw [unfinished_enter, List.map_cons, oldKinds, newNode]
    rfl
  · intro id inRange
    by_cases isNew : id = builder.nodes.size
    · subst isNew
      refine ⟨parsed, around, by rw [newNode], ?_⟩
      have innermost := congrArg List.head? oldKinds
      rw [List.head?_map] at innermost
      rw [newNode]
      exact innermost.symm
    · rw [size_enter] at inRange
      rcases inside.classified id (by omega) with ⟨parsed', outer, headEq, outerEq⟩
      rcases linked.toNodeHead_enter (ParseTree.lowerHead parsed around) isNew with
        ⟨sameHead, sameParent⟩
      refine ⟨parsed', outer, sameHead.trans headEq, ?_⟩
      rw [outerEq, sameParent]
      cases parentEq : (builder.node id).parent with
      | none => rfl
      | some parent =>
          have before := linked.parent_lt parentEq
          simp [@sameKind parent (by omega)]

theorem Inside.exit {builder : Builder} {kind : String} {around : List String}
    (inside : builder.Inside (kind :: around)) : builder.exit.Inside around := by
  refine ⟨inside.linked.exit, ?_, inside.classified⟩
  have kinds := congrArg (List.drop 1) inside.kinds
  rw [← List.map_drop] at kinds
  exact kinds

end Tree.Builder

namespace ParseTree

open Tree.Builder

mutual

theorem inside_events (tree : ParseTree) {builder : Tree.Builder} {around : List String}
    (inside : builder.Inside around) :
    ((tree.events around).foldl Tree.Builder.step builder).Inside around := by
  cases tree with
  | node head children =>
      rw [events, List.foldl_cons, List.foldl_append]
      exact (inside_forestEvents children (inside.enter head)).exit

theorem inside_forestEvents (trees : List ParseTree) {builder : Tree.Builder}
    {around : List String} (inside : builder.Inside around) :
    ((forestEvents around trees).foldl Tree.Builder.step builder).Inside around := by
  cases trees with
  | nil => exact inside
  | cons tree trees =>
      rw [forestEvents, List.foldl_append]
      exact inside_forestEvents trees (inside_events tree inside)

end

theorem size_le_run (events : List Tree.Event) (builder : Tree.Builder) :
    builder.nodes.size ≤ (events.foldl Tree.Builder.step builder).nodes.size := by
  induction events generalizing builder with
  | nil => exact Nat.le_refl _
  | cons event events ih =>
      have grows : builder.nodes.size ≤ (builder.step event).nodes.size := by
        cases event with
        | enter head => simp [Tree.Builder.step]
        | exit => exact Nat.le_refl _
      exact Nat.le_trans grows (ih _)

theorem linked_lower (parsed : ParseTree) : parsed.lower.Linked :=
  Tree.linked_ofEvents _

/-- Every node of a lowered tree was classified by the node around it. -/
theorem exists_lowerHead {parsed : ParseTree} {id : Nat} (inRange : id < parsed.lower.nodes.size) :
    ∃ node outer, (parsed.lower.node id).toNodeHead = lowerHead node outer ∧
      outer.head? = (parsed.lower.parent id).map parsed.lower.rawKind := by
  have inside := parsed.inside_events Inside.empty
  have filled : 0 < ((parsed.events []).foldl Tree.Builder.step .empty).nodes.size := by
    cases parsed with
    | node head children =>
        rw [events, List.foldl_cons]
        refine Nat.lt_of_lt_of_le ?_ (size_le_run _ _)
        simp [Tree.Builder.step]
  have sameNodes : parsed.lower.nodes =
      ((parsed.events []).foldl Tree.Builder.step .empty).nodes := by
    rw [lower, Tree.ofEvents, Tree.Builder.finish, dif_pos filled]
  rw [sameNodes] at inRange
  have sameNode : parsed.lower.node =
      ((parsed.events []).foldl Tree.Builder.step .empty).node := by
    funext id
    rw [Tree.node, sameNodes, Tree.Builder.node]
  unfold Tree.parent Tree.rawKind
  rw [sameNode]
  exact inside.classified id inRange

/-- Whether the grammar calls a node of a kind a literal. -/
def isLiteral (kind : String) : Bool :=
  ["integer_literal", "float_literal", "string_literal", "raw_string_literal", "char_literal",
    "boolean_literal"].contains kind

theorem unlistedKind_ne_literal (node : ParseNode) : unlistedKind node ≠ .literal := by
  unfold unlistedKind
  split
  · simp
  · split <;> simp

/-- Only literals are literals by their name in the grammar. -/
theorem isLiteral_of_kindByName {node : ParseNode} {parent : String}
    (kindEq : kindByName node parent = .literal) : isLiteral node.kind = true := by
  have unlisted := unlistedKind_ne_literal node
  unfold kindByName at kindEq
  split at kindEq
  case h_20 =>
    split at kindEq
    · cases kindEq
    · exact absurd kindEq unlisted
  all_goals simp_all [isLiteral]

/-- A literal is what the grammar calls one, or lies directly inside a literal that has parts. -/
theorem isLiteral_of_kind {parsed : ParseTree} {id : NodeId}
    (kindEq : parsed.lower.kind id = .literal) :
    isLiteral (parsed.lower.rawKind id) = true ∨
      ∃ parent, parsed.lower.parent id = some parent ∧
        isCompositeLiteral (parsed.lower.rawKind parent) = true := by
  by_cases inRange : id < parsed.lower.nodes.size
  · rcases exists_lowerHead inRange with ⟨node, outer, headEq, outerEq⟩
    unfold Tree.kind at kindEq
    rw [Tree.rawKind, headEq]
    rw [headEq] at kindEq
    simp only [lowerHead, classify] at kindEq ⊢
    split at kindEq
    · cases kindEq
    · split at kindEq
      next inLiteral =>
        right
        rw [outerEq] at inLiteral
        cases parentEq : parsed.lower.parent id with
        | none => simp [parentEq, isCompositeLiteral] at inLiteral
        | some parent => exact ⟨parent, rfl, by simpa [parentEq] using inLiteral⟩
      next => exact .inl (isLiteral_of_kindByName kindEq)
  · rw [Tree.kind, Tree.node_of_size_le (Nat.le_of_not_lt inRange)] at kindEq
    cases kindEq

end ParseTree

end SourceLens
