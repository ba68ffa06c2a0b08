import SourceLens.Proofs.Tree.Addresses
import SourceLens.Proofs.Tree.Lowered

/-!
# Where the nodes of a concrete tree are placed

Lowering puts the nodes of a concrete tree into one list.  What is inside a node fills a block of that
list, right after the node, with one block for each child in order.  So all links can be told from
the sizes of the blocks (`placed`), and a builder that is told of the tree makes these very nodes,
whatever it has made before (`foldl_events`).

The place of a node is then its index in pre-order, and its links are the indices of the addresses
around and inside its own (`getElem?_placed`).
-/

namespace SourceLens

namespace Tree

/-- The nodes with more children for one of them. -/
def adopt (nodes : Array Node) (parent : Option NodeId) (ids : List NodeId) : Array Node :=
  match parent with
  | some parent => nodes.modify parent fun node => { node with children := node.children ++ ids }
  | none => nodes

section Adopt

variable {nodes : Array Node} {parent : Option NodeId}

@[simp]
theorem size_adopt (ids : List NodeId) : (adopt nodes parent ids).size = nodes.size := by
  cases parent <;> simp [adopt]

@[simp]
theorem adopt_nil : adopt nodes parent [] = nodes := by
  cases parent with
  | none => rfl
  | some parent =>
      apply Array.ext_getElem?
      intro id
      simp [adopt, Array.getElem?_modify]

theorem adopt_adopt (first second : List NodeId) :
    adopt (adopt nodes parent first) parent second = adopt nodes parent (first ++ second) := by
  cases parent with
  | none => rfl
  | some parent =>
      apply Array.ext_getElem?
      intro id
      simp only [adopt, Array.getElem?_modify]
      split <;> simp [Function.comp_def]

/-- Nodes that come later do not change who adopts. -/
theorem adopt_append (begun : ∀ id ∈ parent, id < nodes.size) (ids : List NodeId)
    (more : Array Node) :
    adopt (nodes ++ more) parent ids = adopt nodes parent ids ++ more := by
  cases parent with
  | none => rfl
  | some parent =>
      have inRange : parent < nodes.size := begun parent rfl
      apply Array.ext_getElem?
      intro id
      simp only [adopt, Array.getElem?_modify, Array.getElem?_append, Array.size_modify]
      by_cases isParent : parent = id
      · subst isParent
        simp [inRange]
      · simp [isParent]

/-- A node that has just begun adopts. -/
theorem adopt_last {last : NodeId} (isLast : nodes.size = last) (node : Node) (ids : List NodeId) :
    adopt (nodes.push node) (some last) ids =
      nodes.push { node with children := node.children ++ ids } := by
  subst isLast
  apply Array.ext_getElem?
  intro id
  simp only [adopt, Array.getElem?_modify, Array.getElem?_push]
  by_cases same : nodes.size = id
  · simp [same]
  · simp [same, Ne.symm same]

/-- Beginning a node tells its parent and adds it. -/
theorem Builder.enter_eq {builder : Builder}
    (begun : ∀ id ∈ builder.unfinished.head?, id < builder.nodes.size) (head : NodeHead) :
    builder.enter head =
      ⟨(adopt builder.nodes builder.unfinished.head? [builder.nodes.size]).push
        { head with parent := builder.unfinished.head?, children := [] },
        builder.nodes.size :: builder.unfinished⟩ := by
  have told := adopt_append begun [builder.nodes.size]
    #[{ head with parent := builder.unfinished.head?, children := [] }]
  rw [Array.push_eq_append, ← told, ← Array.push_eq_append]
  rfl

end Adopt

end Tree

namespace ParseTree

/-- Where some trees begin, if the first begins at a place and each follows the one before. -/
def starts (start : Nat) : List ParseTree → List NodeId
  | [] => []
  | tree :: trees => start :: starts (start + tree.size) trees

mutual

/-- The nodes of a tree that begins at a place, given the kinds of the nodes around it and the
innermost of them. -/
def placed (around : List String) (parent : Option NodeId) (start : Nat) :
    ParseTree → List Node
  | node head children =>
      { lowerHead head around with parent := parent, children := starts (start + 1) children } ::
        forestPlaced (head.kind :: around) (some start) (start + 1) children

/-- The nodes of some trees that follow each other. -/
def forestPlaced (around : List String) (parent : Option NodeId) (start : Nat) :
    List ParseTree → List Node
  | [] => []
  | tree :: trees =>
      tree.placed around parent start ++ forestPlaced around parent (start + tree.size) trees

end

mutual

@[simp]
theorem length_placed (around : List String) (parent : Option NodeId) (start : Nat)
    (tree : ParseTree) : (tree.placed around parent start).length = tree.size := by
  rcases tree with ⟨head, children⟩
  simp [placed, size, length_forestPlaced]

@[simp]
theorem length_forestPlaced (around : List String) (parent : Option NodeId) (start : Nat)
    (trees : List ParseTree) :
    (forestPlaced around parent start trees).length = forestSize trees := by
  cases trees with
  | nil => rfl
  | cons tree trees => simp [forestPlaced, forestSize, length_placed, length_forestPlaced]

end

mutual

/-- A builder that is told of a tree tells the innermost node that has not ended of its root, and adds
the nodes of the tree to those that it has made. -/
theorem foldl_events (around : List String) (tree : ParseTree) (builder : Tree.Builder)
    (begun : ∀ id ∈ builder.unfinished.head?, id < builder.nodes.size) :
    (tree.events around).foldl Tree.Builder.step builder =
      ⟨Tree.adopt builder.nodes builder.unfinished.head? [builder.nodes.size] ++
        (tree.placed around builder.unfinished.head? builder.nodes.size).toArray,
        builder.unfinished⟩ := by
  rcases tree with ⟨head, children⟩
  rw [events, List.foldl_cons, List.foldl_append, Tree.Builder.step, Tree.Builder.enter_eq begun,
    foldl_forestEvents]
  · -- The children are told to the node that has just begun, the last one so far.
    simp only [List.head?_cons, Array.size_push, Tree.size_adopt]
    rw [Tree.adopt_last (Tree.size_adopt _)]
    simp [Tree.Builder.step, Tree.Builder.exit, placed]
  · simp

theorem foldl_forestEvents (around : List String) (trees : List ParseTree)
    (builder : Tree.Builder)
    (begun : ∀ id ∈ builder.unfinished.head?, id < builder.nodes.size) :
    (forestEvents around trees).foldl Tree.Builder.step builder =
      ⟨Tree.adopt builder.nodes builder.unfinished.head? (starts builder.nodes.size trees) ++
        (forestPlaced around builder.unfinished.head? builder.nodes.size trees).toArray,
        builder.unfinished⟩ := by
  cases trees with
  | nil => simp [forestEvents, starts, forestPlaced]
  | cons tree trees =>
      rw [forestEvents, List.foldl_append, foldl_events around tree builder begun,
        foldl_forestEvents]
      · have stillBegun : ∀ id ∈ builder.unfinished.head?,
            id < (Tree.adopt builder.nodes builder.unfinished.head? [builder.nodes.size]).size := by
          simpa using begun
        simp only [Array.size_append, Tree.size_adopt, List.size_toArray, length_placed]
        rw [Tree.adopt_append stillBegun, Tree.adopt_adopt]
        simp [starts, forestPlaced]
      · intro id innermost
        have before := begun id innermost
        simpa using Nat.lt_add_right tree.size before

end

/-- The nodes of a lowered tree are those of the concrete tree, placed from zero on. -/
theorem nodes_lower (tree : ParseTree) : tree.lower.nodes = (tree.placed [] none 0).toArray := by
  have made : (tree.events []).foldl Tree.Builder.step .empty =
      ⟨(tree.placed [] none 0).toArray, []⟩ := by
    simpa [Tree.Builder.empty, Tree.adopt] using
      foldl_events [] tree .empty (by simp [Tree.Builder.empty])
  have filled : 0 < (tree.placed [] none 0).toArray.size := by
    rcases tree with ⟨head, children⟩
    simp [placed]
  rw [lower, Tree.ofEvents, made, Tree.Builder.finish, dif_pos filled]

section Blocks

variable {around : List String} {parent : Option NodeId} {trees : List ParseTree}
  {child : ParseTree} {position : Nat}

/-- The nodes of a child are a block of the nodes of all children. -/
theorem getElem?_forestPlaced (start : Nat) (isChild : trees[position]? = some child) {offset : Nat}
    (inBlock : offset < child.size) :
    (forestPlaced around parent start trees)[forestSize (trees.take position) + offset]? =
      (child.placed around parent (start + forestSize (trees.take position)))[offset]? := by
  induction trees generalizing start position with
  | nil => simp at isChild
  | cons tree trees ih =>
      cases position with
      | zero =>
          obtain rfl : tree = child := by simpa using isChild
          simp [forestPlaced, forestSize, List.getElem?_append, inBlock]
      | succ position =>
          have later := ih (start + tree.size) (by simpa using isChild)
          have beyond : tree.size ≤ forestSize ((tree :: trees).take (position + 1)) + offset := by
            simp [forestSize]
            omega
          have shift : forestSize ((tree :: trees).take (position + 1)) + offset - tree.size =
              forestSize (trees.take position) + offset := by
            simp [forestSize]
            omega
          rw [forestPlaced, List.getElem?_append_right (by simpa using beyond), length_placed, shift,
            later]
          simp [forestSize, Nat.add_assoc]

theorem starts_eq (start : Nat) (trees : List ParseTree) :
    starts start trees =
      (List.range trees.length).map fun position => start + forestSize (trees.take position) := by
  induction trees generalizing start with
  | nil => rfl
  | cons tree trees ih =>
      simp [starts, ih, List.range_succ_eq_map, forestSize, Function.comp_def, Nat.add_assoc]

/-- The node at an address: it is told by its part of the tree and by the kinds of the nodes around it,
its parent is at the address around its own, and its children are at the addresses right inside it. -/
theorem getElem?_placed {tree part : ParseTree} {address : List Nat}
    (found : tree.part? address = some part) (around : List String) (parent : Option NodeId)
    (start : Nat) :
    (tree.placed around parent start)[tree.index address]? =
      some { lowerHead part.head (tree.kindsAround address ++ around) with
        parent := if address = [] then parent else some (start + tree.index address.dropLast)
        children := (List.range part.children.length).map fun position =>
          start + tree.index (address ++ [position]) } := by
  induction address generalizing tree around parent start with
  | nil =>
      rcases tree with ⟨head, children⟩
      obtain rfl : node head children = part := by simpa [part?] using found
      have inside : starts (start + 1) children = (List.range children.length).map fun position =>
          start + (node head children).index [position] := by
        rw [starts_eq]
        apply List.map_congr_left
        intro position inRange
        have isChild := List.getElem?_eq_getElem (List.mem_range.mp inRange)
        rw [index_cons isChild (mem_addresses_iff.mpr rfl), index_nil]
        omega
      simp [placed, inside, ParseTree.head, ParseTree.children]
  | cons position rest ih =>
      rcases tree with ⟨head, children⟩
      rcases Option.bind_eq_some_iff.mp found with ⟨child, isChild, found⟩
      have inside : rest ∈ child.addresses := by simp [mem_addresses_iff, found]
      have inBlock : child.index rest < child.size := by
        rw [← length_addresses]
        exact List.idxOf_lt_length_of_mem inside
      -- The block of the child lies behind its parent and the blocks of the children before it.
      have below : ∀ {address}, address ∈ child.addresses →
          start + (node head children).index (position :: address) =
            start + 1 + forestSize (children.take position) + child.index address := by
        intro address inside
        rw [index_cons isChild inside]
        omega
      have kinds : child.kindsAround rest ++ head.kind :: around =
          (node head children).kindsAround (position :: rest) ++ around := by
        simp [kindsAround_cons isChild]
      have outer : (if rest = [] then some start else
            some (start + 1 + forestSize (children.take position) + child.index rest.dropLast)) =
          some (start + (node head children).index (position :: rest).dropLast) := by
        cases rest with
        | nil => simp
        | cons next rest =>
            rw [if_neg (by simp), List.dropLast_cons_cons, below (dropLast_mem_addresses inside)]
      have inner : ((List.range part.children.length).map fun next =>
            start + 1 + forestSize (children.take position) + child.index (rest ++ [next])) =
          (List.range part.children.length).map fun next =>
            start + (node head children).index (position :: rest ++ [next]) := by
        apply List.map_congr_left
        intro next inRange
        exact (below (append_mem_addresses found (List.mem_range.mp inRange))).symm
      rw [index_cons isChild inside, placed, Nat.add_assoc, Nat.add_comm 1,
        List.getElem?_cons_succ, getElem?_forestPlaced _ isChild inBlock, ih found, kinds, outer,
        inner, if_neg (by simp)]

end Blocks

end ParseTree

end SourceLens
