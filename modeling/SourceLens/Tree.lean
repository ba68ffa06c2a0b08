import SourceLens.Text.Span
import SourceLens.Text.Units
import SourceLens.Tree.Kind

/-!
# Trees

The tree of a source is an arena of nodes in pre-order: a node is addressed by its position, the
root is node zero, and every node comes after its parent.  A tree is made by a `Tree.Builder`,
which is told when a node begins and when it ends.
-/

namespace SourceLens

/-- The position of a node in its tree. -/
abbrev NodeId := Nat

/-- What is known about a node when it begins. -/
structure NodeHead where
  kind : NodeKind
  /-- The kind's name in the grammar. -/
  rawKind : String
  /-- The bytes of the source that the node covers. -/
  span : Span
  /-- The slot it fills in its parent. -/
  role : Option Role
  /-- Whether the parser inserted it to recover from an error. -/
  missing : Bool
  deriving DecidableEq, Repr

/-- A node with its place in the tree. -/
structure Node extends NodeHead where
  parent : Option NodeId
  /-- The nodes directly inside it, in order. -/
  children : List NodeId
  deriving DecidableEq, Repr

/-- The node that stands for an address outside a tree. -/
def Node.absent : Node :=
  { kind := .other, rawKind := "", span := .empty 0, role := none, missing := false
    parent := none, children := [] }

/-- The nodes without children, in order. -/
def Node.leaves (nodes : Array Node) : Array NodeId :=
  ((List.range nodes.size).filter fun id =>
    match nodes[id]? with
    | some node => node.children.isEmpty
    | none => false).toArray

/-- A source as an arena of nodes. -/
structure Tree where
  /-- The nodes in pre-order. -/
  nodes : Array Node
  /-- The nodes without children, in order. -/
  tokens : Array NodeId
  /-- The tokens are the leaves. -/
  tokens_eq : tokens = Node.leaves nodes
  /-- There is a root. -/
  nonempty : 0 < nodes.size

namespace Tree

/-- The root of a tree. -/
def root : NodeId := 0

/-- A node by its address. -/
def node (tree : Tree) (id : NodeId) : Node :=
  tree.nodes.getD id Node.absent

/-- The coarse kind of a node. -/
def kind (tree : Tree) (id : NodeId) : NodeKind :=
  (tree.node id).kind

/-- The name of a node's kind in the grammar. -/
def rawKind (tree : Tree) (id : NodeId) : String :=
  (tree.node id).rawKind

/-- The bytes that a node covers. -/
def span (tree : Tree) (id : NodeId) : Span :=
  (tree.node id).span

/-- The slot that a node fills in its parent. -/
def role (tree : Tree) (id : NodeId) : Option Role :=
  (tree.node id).role

/-- The node around a node. -/
def parent (tree : Tree) (id : NodeId) : Option NodeId :=
  (tree.node id).parent

/-- The nodes directly inside a node. -/
def children (tree : Tree) (id : NodeId) : List NodeId :=
  (tree.node id).children

/-- Every node, in pre-order. -/
def ids (tree : Tree) : List NodeId :=
  List.range tree.nodes.size

/-- The first child in a role. -/
def childInRole (tree : Tree) (id : NodeId) (role : Role) : Option NodeId :=
  (tree.children id).find? fun child => tree.role child == some role

/-- The first child whose kind has a name in the grammar. -/
def childOfRawKind (tree : Tree) (id : NodeId) (rawKind : String) : Option NodeId :=
  (tree.children id).find? fun child => tree.rawKind child == rawKind

/-- The children of a kind. -/
def childrenOfKind (tree : Tree) (id : NodeId) (kind : NodeKind) : List NodeId :=
  (tree.children id).filter fun child => tree.kind child == kind

/-- The part of the source that a node covers, empty when its span does not fit the source. -/
def text (tree : Tree) (source : String) (id : NodeId) : String :=
  (Text.slice? source (tree.span id).start (tree.span id).stop).getD ""

/-- A node and the nodes around it, from the inside out. -/
def ancestors (tree : Tree) (id : NodeId) : List NodeId :=
  id ::
    match tree.parent id with
    | some parent => if _inner : parent < id then ancestors tree parent else []
    | none => []
termination_by id

/-- The nodes around a node, from the inside out. -/
def enclosing (tree : Tree) (id : NodeId) : List NodeId :=
  (tree.ancestors id).drop 1

/-- Whether a node is another one or lies inside it. -/
def isWithin (tree : Tree) (id ancestor : NodeId) : Bool :=
  (tree.ancestors id).any (· == ancestor)

/-- The innermost node at or around a node that passes a test. -/
def findAncestor (tree : Tree) (id : NodeId) (test : NodeId → Bool) : Option NodeId :=
  (tree.ancestors id).find? test

/-- A tree that is being made. -/
structure Builder where
  /-- The nodes that have begun, in order. -/
  nodes : Array Node
  /-- The nodes that have not ended, the innermost first. -/
  unfinished : List NodeId

namespace Builder

/-- The builder that has seen nothing. -/
def empty : Builder :=
  ⟨#[], []⟩

/-- Begins a node inside the innermost node that has not ended. -/
def enter (builder : Builder) (head : NodeHead) : Builder :=
  let id := builder.nodes.size
  let parent := builder.unfinished.head?
  let nodes := builder.nodes.push { head with parent := parent, children := [] }
  let nodes :=
    match parent with
    | some parent => nodes.modify parent fun node => { node with children := node.children ++ [id] }
    | none => nodes
  ⟨nodes, id :: builder.unfinished⟩

/-- Ends the innermost node that has not ended. -/
def exit (builder : Builder) : Builder :=
  { builder with unfinished := builder.unfinished.drop 1 }

/-- The root of a tree to which nothing was added. -/
def loneRoot : NodeHead :=
  { kind := .root, rawKind := "root", span := .empty 0, role := none, missing := false }

/-- Makes the tree. -/
def finish (builder : Builder) : Tree :=
  if filled : 0 < builder.nodes.size then
    { nodes := builder.nodes, tokens := Node.leaves builder.nodes, tokens_eq := rfl
      nonempty := filled }
  else
    let nodes := (empty.enter loneRoot).nodes
    { nodes := nodes, tokens := Node.leaves nodes, tokens_eq := rfl
      nonempty := by decide }

end Builder

/-- What happens while a tree is made. -/
inductive Event where
  | enter (head : NodeHead)
  | exit

/-- The builder after an event. -/
def Builder.step (builder : Builder) : Event → Builder
  | .enter head => builder.enter head
  | .exit => builder.exit

/-- The tree that a list of events makes. -/
def ofEvents (events : List Event) : Tree :=
  (events.foldl Builder.step Builder.empty).finish

end Tree

end SourceLens
