import SourceLens.Bisection
import SourceLens.Tree

/-!
# Looking up positions

A cursor stands between two bytes.  It is contained in the token to its right and touches the token
that ends at it; which of the two it belongs to depends on whether they are words.
-/

namespace SourceLens

namespace Tree

/-- The token that contains an offset. -/
def tokenAt (tree : Tree) (offset : Nat) : Option NodeId :=
  let index := partitionPoint (fun token => (tree.span token).stop ≤ offset) tree.tokens
  tree.tokens[index]?.filter fun token => (tree.span token).contains offset

/-- The token that ends at an offset and is not empty. -/
def tokenEndingAt (tree : Tree) (offset : Nat) : Option NodeId :=
  let index := partitionPoint (fun token => (tree.span token).stop < offset) tree.tokens
  tree.tokens[index]?.filter fun token =>
    (tree.span token).stop == offset && !(tree.span token).isEmpty

/-- The token that a cursor belongs to.  A word wins over a token that is none, and otherwise the
token on the right wins. -/
def tokenTouching (tree : Tree) (offset : Nat) : Option NodeId :=
  match tree.tokenEndingAt offset, tree.tokenAt offset with
  | some left, some right =>
      if (tree.kind right).isWord || !(tree.kind left).isWord then some right else some left
  | left, right => right.or left

/-- The innermost node around an offset, from a node downwards.  The first argument bounds the
number of levels. -/
def descend (tree : Tree) (offset : Nat) : Nat → NodeId → NodeId
  | 0, id => id
  | bound + 1, id =>
      match (tree.children id).find? fun child => (tree.span child).contains offset with
      | some child => descend tree offset bound child
      | none => id

/-- The innermost node at an offset: the token that contains it, else the token that ends at it,
else the innermost node around it. -/
def coveringNode (tree : Tree) (offset : Nat) : Option NodeId :=
  (tree.tokenAt offset).or <| (tree.tokenEndingAt offset).or <|
    if (tree.span root).touches offset then some (tree.descend offset tree.nodes.size root)
    else none

/-- The innermost node at or around an offset that passes a test. -/
def findAt (tree : Tree) (offset : Nat) (test : NodeId → Bool) : Option NodeId := do
  let start ← tree.coveringNode offset
  tree.findAncestor start test

end Tree

end SourceLens
