import SourceLens.Tree
import Mathlib.Data.List.Pairwise

/-!
# Links between nodes

A tree that was made from events is linked: a node is a child of another exactly when the other is its
parent, and parents come before their children.  What is around a node is then a chain that is
determined by any of its members, and below each member but the first there is exactly one child that
leads on to the node.

A tree is nested when the spans of children lie inside the span of their parent, in order and without
overlap.  Spans then follow the chain, and nodes below two different children are apart.
-/

namespace SourceLens

/-- What holds of the pairs of a list holds one way round of any two different members. -/
theorem or_of_pairwise {α : Type} {relation : α → α → Prop} {values : List α}
    (pairwise : values.Pairwise relation) {first second : α} (member : first ∈ values)
    (member' : second ∈ values) (different : first ≠ second) :
    relation first second ∨ relation second first := by
  let eitherWay := fun first second => relation first second ∨ relation second first
  have symmetric : Std.Symm eitherWay := ⟨fun _ _ => Or.symm⟩
  have eachWay : values.Pairwise eitherWay := pairwise.imp Or.inl
  exact eachWay.forall member member' different

namespace Tree

/-- Parents and children belong together, and parents come first. -/
structure Linked (tree : Tree) : Prop where
  /-- A parent comes before its children. -/
  parent_lt : ∀ {id parent : Nat}, tree.parent id = some parent → parent < id
  /-- Children are the nodes that have the node for a parent. -/
  mem_children_iff : ∀ {id child : Nat}, child ∈ tree.children id ↔ tree.parent child = some id

namespace Builder

/-- A node that has begun, by its address. -/
def node (builder : Builder) (id : NodeId) : Node :=
  builder.nodes.getD id Node.absent

/-- The invariant of builders: what has begun is linked, and what has not ended has begun. -/
structure Linked (builder : Builder) : Prop where
  /-- A parent comes before its children. -/
  parent_lt : ∀ {id parent : Nat}, (builder.node id).parent = some parent → parent < id
  /-- Children are the nodes that have the node for a parent. -/
  mem_children_iff : ∀ {id child : Nat},
    child ∈ (builder.node id).children ↔ (builder.node child).parent = some id
  /-- What has not ended has begun. -/
  unfinished_lt : ∀ id : Nat, id ∈ builder.unfinished → id < builder.nodes.size

theorem node_of_size_le {builder : Builder} {id : Nat} (outside : builder.nodes.size ≤ id) :
    builder.node id = Node.absent := by
  simp [node, Array.getD_eq_getD_getElem?, outside]

@[simp]
theorem size_enter (builder : Builder) (head : NodeHead) :
    (builder.enter head).nodes.size = builder.nodes.size + 1 := by
  unfold enter
  cases builder.unfinished.head? <;> simp

@[simp]
theorem unfinished_enter (builder : Builder) (head : NodeHead) :
    (builder.enter head).unfinished = builder.nodes.size :: builder.unfinished := rfl

/-- Beginning a node adds it, tells its parent, and leaves all other nodes as they are. -/
theorem Linked.node_enter {builder : Builder} (linked : builder.Linked) (head : NodeHead)
    (id : Nat) :
    (builder.enter head).node id =
      if id = builder.nodes.size then
        { head with parent := builder.unfinished.head?, children := [] }
      else if builder.unfinished.head? = some id then
        { builder.node id with children := (builder.node id).children ++ [builder.nodes.size] }
      else builder.node id := by
  have headLt := linked.unfinished_lt
  unfold enter node
  cases innermost : builder.unfinished.head? with
  | none =>
      simp only [Array.getD_eq_getD_getElem?, Array.getElem?_push]
      split <;> simp
  | some parent =>
      have parentLt : parent < builder.nodes.size :=
        headLt parent (List.mem_of_mem_head? (by simp [innermost]))
      simp only [Array.getD_eq_getD_getElem?, Array.getElem?_modify, Array.getElem?_push]
      by_cases isNew : id = builder.nodes.size
      · have notParent : parent ≠ builder.nodes.size := Nat.ne_of_lt parentLt
        simp [isNew, notParent]
      · by_cases isParent : parent = id
        · subst isParent
          simp [isNew, parentLt]
        · simp [isNew, isParent]

theorem Linked.empty : empty.Linked := by
  refine ⟨?_, ?_, ?_⟩ <;> simp [Builder.empty, node, Node.absent]

theorem Linked.enter {builder : Builder} (linked : builder.Linked) (head : NodeHead) :
    (builder.enter head).Linked := by
  have newParentLt : ∀ {parent : Nat}, builder.unfinished.head? = some parent →
      parent < builder.nodes.size := by
    intro parent innermost
    exact linked.unfinished_lt parent (List.mem_of_mem_head? (by simp [innermost]))
  have noNewLink : ∀ {id : Nat}, (builder.node id).parent = some builder.nodes.size → False := by
    intro id parentEq
    have before := linked.parent_lt parentEq
    rw [node_of_size_le (Nat.le_of_lt before)] at parentEq
    cases parentEq
  have noNewChild : ∀ {id : Nat}, builder.nodes.size ∉ (builder.node id).children := by
    intro id member
    rw [linked.mem_children_iff, node_of_size_le (Nat.le_refl _)] at member
    cases member
  refine ⟨?_, ?_, ?_⟩
  · intro id parent parentEq
    rw [linked.node_enter] at parentEq
    split at parentEq
    next isNew =>
      subst isNew
      exact newParentLt parentEq
    next =>
      split at parentEq <;> exact linked.parent_lt parentEq
  · intro id child
    rw [linked.node_enter, linked.node_enter]
    by_cases newChild : child = builder.nodes.size
    · subst newChild
      by_cases newId : id = builder.nodes.size
      · subst newId
        have notSelf : builder.unfinished.head? ≠ some builder.nodes.size := by
          intro innermost
          exact absurd (newParentLt innermost) (Nat.lt_irrefl _)
        simp [notSelf]
      · by_cases innermost : builder.unfinished.head? = some id
        · simp [newId, innermost]
        · simp [newId, innermost, noNewChild]
    · by_cases newId : id = builder.nodes.size
      · subst newId
        simp only [if_true, List.not_mem_nil, if_neg newChild, false_iff]
        split <;> exact noNewLink
      · simp only [if_neg newId, if_neg newChild]
        have sameParent : (if builder.unfinished.head? = some child then
            { builder.node child with
              children := (builder.node child).children ++ [builder.nodes.size] }
            else builder.node child).parent = (builder.node child).parent := by
          split <;> rfl
        rw [sameParent, ← linked.mem_children_iff]
        split
        · simp [newChild]
        · rfl
  · intro id member
    rw [unfinished_enter, List.mem_cons] at member
    rw [size_enter]
    rcases member with rfl | member
    · omega
    · have before := linked.unfinished_lt id member
      omega

theorem Linked.exit {builder : Builder} (linked : builder.Linked) : builder.exit.Linked := by
  refine ⟨linked.parent_lt, linked.mem_children_iff, ?_⟩
  intro id member
  exact linked.unfinished_lt id (List.mem_of_mem_drop member)

theorem Linked.step {builder : Builder} (linked : builder.Linked) (event : Event) :
    (builder.step event).Linked := by
  cases event with
  | enter head => exact linked.enter head
  | exit => exact linked.exit

theorem Linked.run {builder : Builder} (linked : builder.Linked) (events : List Event) :
    (events.foldl Builder.step builder).Linked := by
  induction events generalizing builder with
  | nil => exact linked
  | cons event events ih => exact ih (linked.step event)

/-- The nodes of the tree are those of its builder, or the lone root if there are none. -/
theorem node_finish (builder : Builder) (id : NodeId) :
    builder.finish.node id =
      (if 0 < builder.nodes.size then builder else empty.enter loneRoot).node id := by
  unfold finish
  split <;> rfl

theorem Linked.finish {builder : Builder} (linked : builder.Linked) : builder.finish.Linked := by
  have maker : (if 0 < builder.nodes.size then builder else Builder.empty.enter loneRoot).Linked := by
    split
    · exact linked
    · exact Builder.Linked.empty.enter loneRoot
  refine ⟨?_, ?_⟩
  · intro id parent parentEq
    rw [Tree.parent, node_finish] at parentEq
    exact maker.parent_lt parentEq
  · intro id child
    rw [Tree.parent, Tree.children, node_finish, node_finish]
    exact maker.mem_children_iff

end Builder

/-- Trees that are made from events are linked. -/
theorem linked_ofEvents (events : List Event) : (ofEvents events).Linked :=
  (Builder.Linked.empty.run events).finish

section Chains

variable {tree : Tree}

theorem node_of_size_le {id : Nat} (outside : tree.nodes.size ≤ id) :
    tree.node id = Node.absent := by
  simp [node, Array.getD_eq_getD_getElem?, outside]

theorem lt_size_of_node {id : Nat} (present : tree.node id ≠ Node.absent) :
    id < tree.nodes.size := by
  by_contra outside
  exact present (node_of_size_le (Nat.le_of_not_lt outside))

theorem lt_size_of_parent {id parent : Nat} (parentEq : tree.parent id = some parent) :
    id < tree.nodes.size := by
  apply lt_size_of_node
  intro absent
  rw [Tree.parent, absent] at parentEq
  cases parentEq

theorem lt_size_of_kind {id : Nat} (kind : tree.kind id ≠ .other) : id < tree.nodes.size := by
  apply lt_size_of_node
  intro absent
  rw [Tree.kind, absent] at kind
  exact kind rfl

theorem lt_size_of_rawKind {id : Nat} (rawKind : tree.rawKind id ≠ "") :
    id < tree.nodes.size := by
  apply lt_size_of_node
  intro absent
  rw [Tree.rawKind, absent] at rawKind
  exact rawKind rfl

/-- The tokens are the nodes without children. -/
theorem tokens_toList (tree : Tree) :
    tree.tokens.toList = tree.ids.filter fun id => (tree.children id).isEmpty := by
  simp only [tree.tokens_eq, Node.leaves, ids]
  apply List.filter_congr
  intro id inRange
  have present := Array.getElem?_eq_getElem (List.mem_range.mp inRange)
  simp [Tree.children, Tree.node, Array.getD_eq_getD_getElem?, present]

theorem mem_tokens_iff {token : NodeId} :
    token ∈ tree.tokens ↔ token < tree.nodes.size ∧ tree.children token = [] := by
  rw [← Array.mem_toList_iff, tree.tokens_toList]
  simp [Tree.ids]

theorem nodup_tokens (tree : Tree) : tree.tokens.toList.Nodup := by
  rw [tree.tokens_toList]
  exact List.nodup_range.filter _

@[simp]
theorem mem_ancestors_self (tree : Tree) (id : NodeId) : id ∈ tree.ancestors id := by
  rw [ancestors]
  exact List.mem_cons_self

theorem isWithin_iff {id outer : NodeId} :
    tree.isWithin id outer = true ↔ outer ∈ tree.ancestors id := by
  simp [isWithin]

theorem mem_children_of_childInRole {id child : NodeId} {role : Role}
    (found : tree.childInRole id role = some child) : child ∈ tree.children id :=
  List.mem_of_find?_eq_some found

theorem role_of_childInRole {id child : NodeId} {role : Role}
    (found : tree.childInRole id role = some child) : tree.role child = some role := by
  simpa using List.find?_some found

namespace Linked

variable (linked : tree.Linked)
include linked

theorem parent_of_mem_children {id child : Nat} (member : child ∈ tree.children id) :
    tree.parent child = some id :=
  linked.mem_children_iff.mp member

theorem lt_of_mem_children {id child : Nat} (member : child ∈ tree.children id) : id < child :=
  linked.parent_lt (linked.parent_of_mem_children member)

theorem lt_size_of_mem_children {id child : Nat} (member : child ∈ tree.children id) :
    child < tree.nodes.size :=
  lt_size_of_parent (linked.parent_of_mem_children member)

/-- What is around a node is the node and what is around its parent. -/
theorem mem_ancestors_iff {id outer : Nat} :
    outer ∈ tree.ancestors id ↔
      outer = id ∨ ∃ parent, tree.parent id = some parent ∧ outer ∈ tree.ancestors parent := by
  rw [ancestors]
  cases parentEq : tree.parent id with
  | none => simp
  | some parent => simp [linked.parent_lt parentEq]

theorem mem_ancestors_of_child {id child outer : Nat} (member : child ∈ tree.children id)
    (around : outer ∈ tree.ancestors id) : outer ∈ tree.ancestors child :=
  linked.mem_ancestors_iff.mpr (.inr ⟨id, linked.parent_of_mem_children member, around⟩)

theorem le_of_mem_ancestors {id outer : Nat} (around : outer ∈ tree.ancestors id) : outer ≤ id := by
  induction id using Nat.strongRecOn with
  | ind id ih =>
      rcases linked.mem_ancestors_iff.mp around with rfl | ⟨parent, parentEq, around⟩
      · exact Nat.le_refl _
      · have before := linked.parent_lt parentEq
        have outside := ih parent before around
        omega

theorem mem_ancestors_trans {id middle outer : Nat} (inner : middle ∈ tree.ancestors id)
    (around : outer ∈ tree.ancestors middle) : outer ∈ tree.ancestors id := by
  induction id using Nat.strongRecOn with
  | ind id ih =>
      rcases linked.mem_ancestors_iff.mp inner with rfl | ⟨parent, parentEq, inner⟩
      · exact around
      · exact linked.mem_ancestors_iff.mpr
          (.inr ⟨parent, parentEq, ih parent (linked.parent_lt parentEq) inner⟩)

/-- Of two nodes around a third, one is around the other. -/
theorem mem_ancestors_or {id first second : Nat} (around : first ∈ tree.ancestors id)
    (around' : second ∈ tree.ancestors id) :
    first ∈ tree.ancestors second ∨ second ∈ tree.ancestors first := by
  induction id using Nat.strongRecOn with
  | ind id ih =>
      rcases linked.mem_ancestors_iff.mp around with rfl | ⟨parent, parentEq, outside⟩
      · exact .inr around'
      · rcases linked.mem_ancestors_iff.mp around' with rfl | ⟨parent', parentEq', outside'⟩
        · exact .inl around
        · cases parentEq.symm.trans parentEq'
          exact ih parent (linked.parent_lt parentEq) outside outside'

/-- From a node around another one, a child leads on to it. -/
theorem exists_child_of_mem_ancestors {id outer : Nat} (around : outer ∈ tree.ancestors id)
    (different : outer ≠ id) : ∃ child ∈ tree.children outer, child ∈ tree.ancestors id := by
  induction id using Nat.strongRecOn with
  | ind id ih =>
      rcases linked.mem_ancestors_iff.mp around with rfl | ⟨parent, parentEq, outside⟩
      · exact absurd rfl different
      · by_cases direct : outer = parent
        · subst direct
          exact ⟨id, linked.mem_children_iff.mpr parentEq, by simp⟩
        · rcases ih parent (linked.parent_lt parentEq) outside direct with ⟨child, member, below⟩
          exact ⟨child, member, linked.mem_ancestors_iff.mpr (.inr ⟨parent, parentEq, below⟩)⟩

/-- Only one child of a node leads on to another node. -/
theorem eq_of_children_of_mem_ancestors {id outer first second : Nat}
    (member : first ∈ tree.children outer) (member' : second ∈ tree.children outer)
    (around : first ∈ tree.ancestors id) (around' : second ∈ tree.ancestors id) :
    first = second := by
  have outside : ∀ {inner other : Nat}, inner ∈ tree.children outer →
      other ∈ tree.children outer → inner ∈ tree.ancestors other → inner = other := by
    intro inner other member member' around
    rcases linked.mem_ancestors_iff.mp around with same | ⟨parent, parentEq, around⟩
    · exact same
    · cases (linked.parent_of_mem_children member').symm.trans parentEq
      have before := linked.lt_of_mem_children member
      have after := linked.le_of_mem_ancestors around
      omega
  rcases linked.mem_ancestors_or around around' with inside | inside
  · exact outside member member' inside
  · exact (outside member' member inside).symm

end Linked

/-- The spans of children lie inside the span of their parent, in order and without overlap. -/
structure Nested (tree : Tree) : Prop where
  /-- No node ends before it starts. -/
  upright : ∀ id, (tree.span id).start ≤ (tree.span id).stop
  /-- Children lie inside their parent. -/
  inside : ∀ id, ∀ child ∈ tree.children id, (tree.span id).covers (tree.span child) = true
  /-- Each child ends before all later ones. -/
  apart : ∀ id, (tree.children id).Pairwise fun first second =>
    (tree.span first).stop ≤ (tree.span second).start

namespace Nested

variable (nested : tree.Nested) (linked : tree.Linked)
include nested linked

theorem span_of_mem_ancestors {id outer : Nat} (around : outer ∈ tree.ancestors id) :
    (tree.span outer).start ≤ (tree.span id).start ∧
      (tree.span id).stop ≤ (tree.span outer).stop := by
  induction id using Nat.strongRecOn with
  | ind id ih =>
      rcases linked.mem_ancestors_iff.mp around with rfl | ⟨parent, parentEq, outside⟩
      · exact ⟨Nat.le_refl _, Nat.le_refl _⟩
      · have inside := nested.inside parent id (linked.mem_children_iff.mpr parentEq)
        simp only [Span.covers, Bool.and_eq_true, decide_eq_true_eq] at inside
        have outer := ih parent (linked.parent_lt parentEq) outside
        omega

end Nested

end Chains

end Tree

end SourceLens
