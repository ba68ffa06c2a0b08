import Mathlib.Data.List.Induction
import Mathlib.Data.List.Infix
import Mathlib.Data.List.Lex
import SourceLens.Tree.Parsed

/-!
# Addresses in concrete trees

A node of a concrete tree is told by the way that leads to it from the root: its address lists which
child to take at each node.  A node comes before the nodes inside it, and what is inside a child comes
before what is inside later ones, so pre-order is the lexicographic order of addresses.
-/

namespace SourceLens.ParseTree

/-- The part of a tree at an address. -/
def part? : ParseTree → List Nat → Option ParseTree
  | tree, [] => some tree
  | node _ children, position :: rest => children[position]?.bind fun child => child.part? rest

mutual

/-- The addresses of all nodes, in pre-order. -/
def addresses : ParseTree → List (List Nat)
  | node _ children => [] :: forestAddresses 0 children

/-- The addresses of all nodes of some trees, if they are the children from a position on. -/
def forestAddresses (first : Nat) : List ParseTree → List (List Nat)
  | [] => []
  | tree :: trees => tree.addresses.map (first :: ·) ++ forestAddresses (first + 1) trees

end

/-- The kinds of the nodes around an address, from the inside out. -/
def kindsAround (tree : ParseTree) (address : List Nat) : List String :=
  (address.inits.dropLast.reverse.filterMap tree.part?).map fun part => part.head.kind

/-- The place of an address in pre-order. -/
def index (tree : ParseTree) (address : List Nat) : Nat :=
  tree.addresses.idxOf address

mutual

/-- The number of nodes. -/
def size : ParseTree → Nat
  | node _ children => forestSize children + 1

/-- The number of nodes of some trees. -/
def forestSize : List ParseTree → Nat
  | [] => 0
  | tree :: trees => tree.size + forestSize trees

end

section Membership

variable {head : ParseNode} {children trees : List ParseTree} {child : ParseTree}
  {first position : Nat} {rest : List Nat}

theorem cons_mem_forestAddresses_iff :
    position :: rest ∈ forestAddresses first trees ↔
      first ≤ position ∧ ∃ child, trees[position - first]? = some child ∧ rest ∈ child.addresses := by
  induction trees generalizing first with
  | nil => simp [forestAddresses]
  | cons tree trees ih =>
      rw [forestAddresses, List.mem_append, ih]
      by_cases here : position = first
      · simp [here]
      · by_cases before : position < first
        · simp
          omega
        · have shift : position - first = position - (first + 1) + 1 := by omega
          simp [shift, Ne.symm here]
          omega

theorem nil_not_mem_forestAddresses : [] ∉ forestAddresses first trees := by
  induction trees generalizing first with
  | nil => simp [forestAddresses]
  | cons tree trees ih => simp [forestAddresses, ih]

/-- All nodes of a tree are listed, and nothing else. -/
theorem mem_addresses_iff {tree : ParseTree} {address : List Nat} :
    address ∈ tree.addresses ↔ (tree.part? address).isSome := by
  induction address generalizing tree with
  | nil =>
      rcases tree with ⟨head, children⟩
      simp [addresses, part?]
  | cons position rest ih =>
      rcases tree with ⟨head, children⟩
      simp only [addresses, part?, List.mem_cons, cons_mem_forestAddresses_iff]
      cases children[position]? <;> simp [ih]

theorem part?_append (tree : ParseTree) (first second : List Nat) :
    tree.part? (first ++ second) = (tree.part? first).bind fun part => part.part? second := by
  induction first generalizing tree with
  | nil => simp [part?]
  | cons position rest ih =>
      rcases tree with ⟨head, children⟩
      cases isChild : children[position]? <;> simp [part?, isChild, ih]

theorem dropLast_mem_addresses {tree : ParseTree} {address : List Nat}
    (member : address ∈ tree.addresses) : address.dropLast ∈ tree.addresses := by
  cases address using List.reverseRecOn with
  | nil => exact member
  | append_singleton outer position =>
      rw [mem_addresses_iff, part?_append] at member
      rw [List.dropLast_concat, mem_addresses_iff]
      exact Option.isSome_of_isSome_bind member

theorem append_mem_addresses {tree part : ParseTree} {address : List Nat}
    (found : tree.part? address = some part) (isChild : position < part.children.length) :
    address ++ [position] ∈ tree.addresses := by
  rcases part with ⟨head, children⟩
  rw [mem_addresses_iff, part?_append, found]
  simpa [part?, ParseTree.children] using isChild

end Membership

mutual

/-- Pre-order is the order of addresses. -/
theorem pairwise_addresses (tree : ParseTree) : tree.addresses.Pairwise (· < ·) := by
  rcases tree with ⟨head, children⟩
  rw [addresses, List.pairwise_cons]
  refine ⟨?_, pairwise_forestAddresses 0 children⟩
  intro address member
  cases address with
  | nil => exact absurd member nil_not_mem_forestAddresses
  | cons position rest => exact List.nil_lt_cons position rest

theorem pairwise_forestAddresses (first : Nat) (trees : List ParseTree) :
    (forestAddresses first trees).Pairwise (· < ·) := by
  cases trees with
  | nil => simp [forestAddresses]
  | cons tree trees =>
      rw [forestAddresses, List.pairwise_append]
      refine ⟨?_, pairwise_forestAddresses (first + 1) trees, ?_⟩
      · rw [List.pairwise_map]
        apply (pairwise_addresses tree).imp
        intro earlier later before
        exact List.cons_lt_cons_self.mpr before
      · intro earlier earlierMember later laterMember
        rcases List.mem_map.mp earlierMember with ⟨rest, -, rfl⟩
        cases later with
        | nil => exact absurd laterMember nil_not_mem_forestAddresses
        | cons position rest' =>
            have beyond := (cons_mem_forestAddresses_iff.mp laterMember).1
            apply List.cons_lt_cons_iff.mpr
            left
            omega

end

theorem nodup_addresses (tree : ParseTree) : tree.addresses.Nodup :=
  (pairwise_addresses tree).imp fun before => ne_of_lt before

mutual

@[simp]
theorem length_addresses (tree : ParseTree) : tree.addresses.length = tree.size := by
  rcases tree with ⟨head, children⟩
  simp [addresses, size, length_forestAddresses 0 children]

@[simp]
theorem length_forestAddresses (first : Nat) (trees : List ParseTree) :
    (forestAddresses first trees).length = forestSize trees := by
  cases trees with
  | nil => rfl
  | cons tree trees =>
      simp [forestAddresses, forestSize, length_addresses tree,
        length_forestAddresses (first + 1) trees]

end

@[simp]
theorem index_nil (tree : ParseTree) : tree.index [] = 0 := by
  rcases tree with ⟨head, children⟩
  simp [index, addresses]

theorem idxOf_map_cons (first : Nat) (rest : List Nat) (addresses : List (List Nat)) :
    (addresses.map (first :: ·)).idxOf (first :: rest) = addresses.idxOf rest := by
  induction addresses with
  | nil => rfl
  | cons address addresses ih => simp [List.idxOf_cons, ih]

theorem idxOf_forestAddresses {trees : List ParseTree} {child : ParseTree} {position : Nat}
    (first : Nat) (isChild : trees[position]? = some child) {rest : List Nat}
    (inside : rest ∈ child.addresses) :
    (forestAddresses first trees).idxOf ((first + position) :: rest) =
      forestSize (trees.take position) + child.index rest := by
  induction trees generalizing first position with
  | nil => simp at isChild
  | cons tree trees ih =>
      cases position with
      | zero =>
          obtain rfl : tree = child := by simpa using isChild
          have here : first :: rest ∈ tree.addresses.map (first :: ·) := List.mem_map_of_mem inside
          rw [forestAddresses, Nat.add_zero, List.idxOf_append_of_mem here, idxOf_map_cons]
          simp [forestSize, index]
      | succ position =>
          have notHere : (first + (position + 1)) :: rest ∉ tree.addresses.map (first :: ·) := by
            simp
          have later := ih (first + 1) (by simpa using isChild)
          rw [forestAddresses, List.idxOf_append_of_notMem notHere, List.length_map,
            length_addresses, Nat.add_comm position 1, ← Nat.add_assoc first 1 position, later]
          simp [forestSize, Nat.add_comm 1 position, Nat.add_assoc]

/-- A node inside a child comes after the parent, after all that is inside earlier children, and
after what comes before it inside the child. -/
theorem index_cons {head : ParseNode} {children : List ParseTree} {child : ParseTree}
    {position : Nat} (isChild : children[position]? = some child) {rest : List Nat}
    (inside : rest ∈ child.addresses) :
    (node head children).index (position :: rest) =
      1 + forestSize (children.take position) + child.index rest := by
  have deeper := idxOf_forestAddresses 0 isChild inside
  rw [Nat.zero_add] at deeper
  rw [index, addresses, List.idxOf_cons_ne _ (by simp), deeper]
  omega

@[simp]
theorem kindsAround_nil (tree : ParseTree) : tree.kindsAround [] = [] := rfl

theorem kindsAround_cons {head : ParseNode} {children : List ParseTree} {child : ParseTree}
    {position : Nat} (isChild : children[position]? = some child) (rest : List Nat) :
    (node head children).kindsAround (position :: rest) = child.kindsAround rest ++ [head.kind] := by
  have nonempty : rest.inits.map (position :: ·) ≠ [] := by
    apply List.ne_nil_of_length_pos
    simp
  have below : (node head children).part? ∘ (position :: ·) = child.part? := by
    funext address
    simp [part?, isChild]
  rw [kindsAround, List.inits_cons, List.dropLast_cons_of_ne_nil nonempty, List.reverse_cons,
    List.filterMap_append, ← List.map_dropLast, ← List.map_reverse, List.filterMap_map, below]
  simp [kindsAround, part?, ParseTree.head]

end SourceLens.ParseTree
