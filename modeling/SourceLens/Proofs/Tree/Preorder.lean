import Mathlib.Logic.Relation
import SourceLens.Proofs.Tree.Links

/-!
# Pre-order

Nodes are numbered in the order in which they begin.  A node can begin inside another one only as long
as that one has not ended, and what has not ended is around the node that began last.  So the parent of
a node is around the node before it (`Preordered`), and what lies inside a node follows it without a
gap.

In a nested tree with one root this puts leaves in the order of the source: a leaf ends before any later
node starts, wherever in the tree the two are.
-/

namespace SourceLens.Tree

/-- Nodes are in pre-order: the parent of a node is around the node before it, and children are in the
order of their numbers. -/
structure Preordered (tree : Tree) : Prop where
  parent_mem : ∀ {id parent : Nat}, tree.parent (id + 1) = some parent → parent ∈ tree.ancestors id
  sorted : ∀ id, (tree.children id).Pairwise (· < ·)

/-- Only the root has nothing around it. -/
def HasOneRoot (tree : Tree) : Prop :=
  ∀ id < tree.nodes.size, tree.parent id = none → id = root

namespace Builder

/-- Whether parents lead from a node to another one. -/
def Around (builder : Builder) : Nat → Nat → Prop :=
  Relation.ReflTransGen fun id parent => (builder.node id).parent = some parent

/-- The invariant of builders: what has begun is in pre-order, and what has not ended is around the last
node that has begun, from the inside out. -/
structure Preordered (builder : Builder) : Prop where
  linked : builder.Linked
  parent_around : ∀ {id parent : Nat}, (builder.node (id + 1)).parent = some parent →
    builder.Around id parent
  sorted : ∀ id, (builder.node id).children.Pairwise (· < ·)
  unfinished_around : ∀ {last : Nat}, last + 1 = builder.nodes.size →
    ∀ id ∈ builder.unfinished, builder.Around last id
  stacked : builder.unfinished.Pairwise builder.Around

variable {builder : Builder}

theorem Linked.parent_enter (linked : builder.Linked) (head : NodeHead) (id : Nat) :
    ((builder.enter head).node id).parent =
      if id = builder.nodes.size then builder.unfinished.head? else (builder.node id).parent := by
  rw [linked.node_enter]
  split
  · rfl
  · split <;> rfl

theorem lt_size_of_parent {id parent : Nat} (parentEq : (builder.node id).parent = some parent) :
    id < builder.nodes.size := by
  by_contra outside
  rw [node_of_size_le (Nat.le_of_not_lt outside)] at parentEq
  cases parentEq

/-- Beginning a node changes no way up. -/
theorem Around.enter (linked : builder.Linked) (head : NodeHead) {inner outer : Nat}
    (around : builder.Around inner outer) : (builder.enter head).Around inner outer := by
  refine Relation.ReflTransGen.mono ?_ inner outer around
  intro id parent parentEq
  have isOld := lt_size_of_parent parentEq
  rw [linked.parent_enter, if_neg (Nat.ne_of_lt isOld)]
  exact parentEq

theorem Preordered.empty : Builder.empty.Preordered := by
  refine ⟨.empty, ?_, ?_, ?_, ?_⟩ <;> simp [Builder.empty, node, Node.absent]

/-- Around a new node is all that has not ended. -/
theorem Preordered.around_new (preordered : builder.Preordered) (head : NodeHead) {id : Nat}
    (unfinished : id ∈ builder.unfinished) :
    (builder.enter head).Around builder.nodes.size id := by
  have linked := preordered.linked
  have stacked := preordered.stacked
  cases stack : builder.unfinished with
  | nil => simp [stack] at unfinished
  | cons parent outer =>
      rw [stack] at unfinished stacked
      have direct : ((builder.enter head).node builder.nodes.size).parent = some parent := by
        rw [linked.parent_enter, if_pos rfl, stack, List.head?_cons]
      rcases List.mem_cons.mp unfinished with rfl | further
      · exact .single direct
      · have beyond := (List.pairwise_cons.mp stacked).1 id further
        exact .head direct (beyond.enter linked head)

theorem Preordered.enter (preordered : builder.Preordered) (head : NodeHead) :
    (builder.enter head).Preordered := by
  have linked := preordered.linked
  refine ⟨linked.enter head, ?_, ?_, ?_, ?_⟩
  · intro id parent parentEq
    rw [linked.parent_enter] at parentEq
    split at parentEq
    next isNew =>
      have innermost : parent ∈ builder.unfinished := List.mem_of_mem_head? parentEq
      exact (preordered.unfinished_around isNew parent innermost).enter linked head
    next => exact (preordered.parent_around parentEq).enter linked head
  · intro id
    rw [linked.node_enter]
    split
    · exact List.Pairwise.nil
    · split
      · rw [List.pairwise_append]
        refine ⟨preordered.sorted id, List.pairwise_singleton _ _, ?_⟩
        intro child member new isNew
        rw [List.mem_singleton.mp isNew]
        exact lt_size_of_parent (linked.mem_children_iff.mp member)
      · exact preordered.sorted id
  · intro last isLast id member
    rw [size_enter] at isLast
    obtain rfl : last = builder.nodes.size := by omega
    rw [unfinished_enter, List.mem_cons] at member
    rcases member with rfl | member
    · exact .refl
    · exact preordered.around_new head member
  · rw [unfinished_enter, List.pairwise_cons]
    refine ⟨fun id member => preordered.around_new head member, ?_⟩
    exact preordered.stacked.imp fun around => around.enter linked head

theorem Preordered.exit (preordered : builder.Preordered) : builder.exit.Preordered := by
  refine ⟨preordered.linked.exit, preordered.parent_around, preordered.sorted, ?_, ?_⟩
  · intro last isLast id member
    exact preordered.unfinished_around isLast id (List.mem_of_mem_drop member)
  · exact preordered.stacked.sublist (List.drop_sublist 1 builder.unfinished)

theorem Preordered.run (preordered : builder.Preordered) (events : List Event) :
    (events.foldl Builder.step builder).Preordered := by
  induction events generalizing builder with
  | nil => exact preordered
  | cons event events ih =>
      cases event with
      | enter head => exact ih (preordered.enter head)
      | exit => exact ih preordered.exit

theorem Around.mem_ancestors {tree : Tree} (linked : tree.Linked)
    (sameNode : ∀ id, tree.node id = builder.node id) {inner outer : Nat}
    (around : builder.Around inner outer) : outer ∈ tree.ancestors inner := by
  induction around using Relation.ReflTransGen.head_induction_on with
  | refl => simp
  | head direct _ ih =>
      rw [← sameNode] at direct
      exact linked.mem_ancestors_iff.mpr (.inr ⟨_, direct, ih⟩)

theorem Preordered.finish (preordered : builder.Preordered) : builder.finish.Preordered := by
  let maker := if 0 < builder.nodes.size then builder else Builder.empty.enter loneRoot
  have made : maker.Preordered := by
    unfold maker
    split
    · exact preordered
    · exact Preordered.empty.enter loneRoot
  have sameNode : ∀ id, builder.finish.node id = maker.node id := node_finish builder
  refine ⟨?_, ?_⟩
  · intro id parent parentEq
    rw [Tree.parent, sameNode] at parentEq
    exact (made.parent_around parentEq).mem_ancestors preordered.linked.finish sameNode
  · intro id
    rw [Tree.children, sameNode]
    exact made.sorted id

end Builder

theorem preordered_ofEvents (events : List Event) : (ofEvents events).Preordered :=
  (Builder.Preordered.empty.run events).finish

section Order

variable {tree : Tree} (linked : tree.Linked)
include linked

/-- What lies inside a node follows it without a gap. -/
theorem Preordered.mem_ancestors_of_between (preordered : tree.Preordered) {outer id last : Nat}
    (around : outer ∈ tree.ancestors last) (after : outer ≤ id) (before : id ≤ last) :
    outer ∈ tree.ancestors id := by
  induction last with
  | zero =>
      obtain rfl : id = 0 := Nat.le_zero.mp before
      exact around
  | succ last ih =>
      rcases Nat.eq_or_lt_of_le before with rfl | earlier
      · exact around
      · rcases linked.mem_ancestors_iff.mp around with rfl | ⟨parent, parentEq, outside⟩
        · omega
        · apply ih _ (Nat.le_of_lt_succ earlier)
          exact linked.mem_ancestors_trans (preordered.parent_mem parentEq) outside

theorem HasOneRoot.root_mem_ancestors (oneRoot : tree.HasOneRoot) {id : Nat}
    (inRange : id < tree.nodes.size) : root ∈ tree.ancestors id := by
  induction id using Nat.strongRecOn with
  | ind id ih =>
      cases parentEq : tree.parent id with
      | none =>
          rw [oneRoot id inRange parentEq]
          simp
      | some parent =>
          have before := linked.parent_lt parentEq
          exact linked.mem_ancestors_iff.mpr (.inr ⟨parent, parentEq, ih parent before (by omega)⟩)

/-- On the way up from a node to an earlier one, some node begins after the earlier one and its parent
does not. -/
theorem HasOneRoot.exists_turn (oneRoot : tree.HasOneRoot) {first second : Nat}
    (inOrder : first < second) (inRange : second < tree.nodes.size) :
    ∃ inner outer, inner ∈ tree.ancestors second ∧ inner ∈ tree.children outer ∧
      outer ≤ first ∧ first < inner := by
  induction second using Nat.strongRecOn with
  | ind second ih =>
      cases parentEq : tree.parent second with
      | none =>
          have isRoot := oneRoot second inRange parentEq
          rw [isRoot, root] at inOrder
          omega
      | some parent =>
          have before := linked.parent_lt parentEq
          by_cases passed : parent ≤ first
          · exact ⟨second, parent, by simp, linked.mem_children_iff.mpr parentEq, passed, inOrder⟩
          · rcases ih parent before (Nat.lt_of_not_le passed) (by omega) with
              ⟨inner, outer, around, member, passed, beyond⟩
            exact ⟨inner, outer, linked.mem_ancestors_iff.mpr (.inr ⟨parent, parentEq, around⟩),
              member, passed, beyond⟩

/-- A leaf ends before any later node starts. -/
theorem Nested.stop_le_start (nested : tree.Nested) (preordered : tree.Preordered)
    (oneRoot : tree.HasOneRoot) {leaf later : Nat} (isLeaf : tree.children leaf = [])
    (inOrder : leaf < later) (inRange : later < tree.nodes.size) :
    (tree.span leaf).stop ≤ (tree.span later).start := by
  rcases oneRoot.exists_turn linked inOrder inRange with
    ⟨right, outer, aroundLater, rightMember, passed, beyond⟩
  -- The parent of the turn is around both, and they are below different children of it.
  have aroundRight := linked.mem_ancestors_of_child rightMember (tree.mem_ancestors_self outer)
  have aroundLeaf := preordered.mem_ancestors_of_between linked aroundRight passed (Nat.le_of_lt beyond)
  have different : outer ≠ leaf := by
    rintro rfl
    simp [isLeaf] at rightMember
  rcases linked.exists_child_of_mem_ancestors aroundLeaf different with ⟨left, leftMember, leftAround⟩
  have leftFirst : left < right := Nat.lt_of_le_of_lt (linked.le_of_mem_ancestors leftAround) beyond
  have apart : (tree.span left).stop ≤ (tree.span right).start := by
    have both := (nested.apart outer).and (preordered.sorted outer)
    rcases or_of_pairwise both leftMember rightMember (Nat.ne_of_lt leftFirst) with
      ⟨apart, -⟩ | ⟨-, reversed⟩
    · exact apart
    · exact absurd reversed (Nat.lt_asymm leftFirst)
  have leafInside := nested.span_of_mem_ancestors linked leftAround
  have laterInside := nested.span_of_mem_ancestors linked aroundLater
  omega

end Order

end SourceLens.Tree
