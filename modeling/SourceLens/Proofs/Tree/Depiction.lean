import SourceLens.Proofs.Tree.Placement
import SourceLens.Proofs.Tree.Walk

/-!
# Lowered trees depict concrete trees

A lowered tree has one node for each node of the concrete tree, in pre-order.  Each looks as its node
does, is classified by what is around it, and is linked to the nodes that stand for its parent and its
children; the tokens are the leaves.  A walk with a cursor comes to the same tree.
-/

namespace SourceLens

/-- Whether there is a node without children at an address. -/
def ParseTree.isLeaf (tree : ParseTree) (address : List Nat) : Bool :=
  (tree.part? address).any fun part => part.children.isEmpty

/-- What it takes for a tree to depict a concrete tree.  Its node number `id` stands for the node at the
address number `id`. -/
structure Tree.Depicts (tree : Tree) (parsed : ParseTree) : Prop where
  /-- All nodes of the concrete tree have an address in the list, and nothing else has. -/
  complete : ∀ address, address ∈ parsed.addresses ↔ (parsed.part? address).isSome = true
  /-- Addresses are in pre-order, so none of them is there twice. -/
  preorder : parsed.addresses.Pairwise (· < ·)
  /-- There is one node for each address. -/
  size : tree.nodes.size = parsed.addresses.length
  /-- The first node is the root. -/
  root : parsed.addresses[Tree.root]? = some []
  /-- Each node is what the concrete tree has at its address, in kind, span and role, and so are its
  parent and its children. -/
  node : ∀ {id address part}, parsed.addresses[id]? = some address → parsed.part? address = some part →
    tree.node id =
      { kind := ParseTree.classify part.head ((parsed.kindsAround address).take 2)
        rawKind := part.head.kind
        span := part.head.span
        role := part.head.field.map (ParseTree.roleOf ((parsed.kindsAround address).head?.getD ""))
        missing := part.head.missing
        parent := if address = [] then none else some (parsed.index address.dropLast)
        children := (List.range part.children.length).map fun position =>
          parsed.index (address ++ [position]) }
  /-- Parents come before their children. -/
  parent_lt : ∀ {id parent : Nat}, tree.parent id = some parent → parent < id
  /-- The tokens are the leaves, in order. -/
  tokens : tree.tokens.toList = (parsed.addresses.filter parsed.isLeaf).map parsed.index

namespace ParseTree

/-- A node is classified by its own kind and those of the two nodes around it. -/
theorem classify_take (head : ParseNode) (around : List String) :
    classify head (around.take 2) = classify head around := by
  have sameParent : (around.take 2).head? = around.head? := by
    cases around <;> rfl
  have twice : (around.take 2).take 2 = around.take 2 := by
    simp [List.take_take]
  simp only [classify, sameParent, twice]

theorem index_of_getElem? {parsed : ParseTree} {id : Nat} {address : List Nat}
    (listed : parsed.addresses[id]? = some address) : parsed.index address = id := by
  rcases List.getElem?_eq_some_iff.mp listed with ⟨inRange, rfl⟩
  exact (nodup_addresses parsed).idxOf_getElem id inRange

theorem node_lower {parsed part : ParseTree} {id : Nat} {address : List Nat}
    (listed : parsed.addresses[id]? = some address) (found : parsed.part? address = some part) :
    parsed.lower.node id =
      { lowerHead part.head (parsed.kindsAround address) with
        parent := if address = [] then none else some (parsed.index address.dropLast)
        children := (List.range part.children.length).map fun position =>
          parsed.index (address ++ [position]) } := by
  have placed := getElem?_placed found [] none 0
  rw [index_of_getElem? listed] at placed
  simp [Tree.node, nodes_lower, Array.getD_eq_getD_getElem?, placed]

theorem map_index_addresses (parsed : ParseTree) :
    parsed.addresses.map parsed.index = List.range parsed.size := by
  apply List.ext_getElem
  · simp
  · intro id inRange _
    rw [List.getElem_map, List.getElem_range]
    rw [List.length_map] at inRange
    exact index_of_getElem? (List.getElem?_eq_getElem inRange)

theorem isEmpty_children_lower {parsed : ParseTree} {address : List Nat}
    (member : address ∈ parsed.addresses) :
    (parsed.lower.children (parsed.index address)).isEmpty = parsed.isLeaf address := by
  have listed : parsed.addresses[parsed.index address]? = some address := List.getElem?_idxOf member
  rcases Option.isSome_iff_exists.mp (mem_addresses_iff.mp member) with ⟨part, found⟩
  rw [Tree.children, node_lower listed found, isLeaf, found]
  cases children : part.children <;> simp [children]

theorem tokens_lower (parsed : ParseTree) :
    parsed.lower.tokens.toList = (parsed.addresses.filter parsed.isLeaf).map parsed.index := by
  have sameSize : parsed.lower.nodes.size = parsed.size := by simp [nodes_lower]
  rw [Tree.tokens_toList, Tree.ids, sameSize, ← map_index_addresses, List.filter_map]
  apply congrArg (List.map parsed.index)
  apply List.filter_congr
  intro address member
  exact isEmpty_children_lower member

/-- For every concrete tree, the lowered tree depicts it, and a walk with a cursor comes to an end with
that tree. -/
theorem lower_depicts (parsed : ParseTree) :
    parsed.lower.Depicts parsed ∧ Walk.Makes parsed parsed.lower := by
  refine ⟨?_, Walk.makes_lower parsed⟩
  refine ⟨fun _ => mem_addresses_iff, pairwise_addresses parsed, ?_, ?_, ?_, ?_, ?_⟩
  · simp [nodes_lower]
  · rcases parsed with ⟨head, children⟩
    rfl
  · intro id address part listed found
    rw [node_lower listed found, classify_take]
    rfl
  · exact parsed.linked_lower.parent_lt
  · exact tokens_lower parsed

end ParseTree

end SourceLens
