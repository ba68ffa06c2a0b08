import Mathlib.Logic.Relation
import SourceLens.Tree.Parsed

/-!
# Walking over a concrete tree

A parser hands out its trees through a cursor that can go to the first child of a node, to its next
sibling and to its parent.  A walk with such a cursor visits every node, tells a builder where nodes
begin and end, and keeps the kinds of the nodes around the cursor on a stack of its own.

The builder and the stack stay in step with the cursor: having visited a node and all that is inside,
the walk is back at the node, with the builder told of the events of its tree and the stack as it was
(`Walk.visit`).  So the walk comes to an end, and with the tree that lowering gives.
-/

namespace SourceLens.ParseTree

/-- A node around a cursor, with the trees inside it on both sides of the way to the cursor. -/
structure Frame where
  head : ParseNode
  /-- The trees before, the nearest first. -/
  before : List ParseTree
  after : List ParseTree

/-- A place in a concrete tree. -/
structure Cursor where
  focus : ParseTree
  /-- The nodes around the focus, from the inside out. -/
  frames : List Frame

namespace Cursor

def firstChild? : Cursor → Option Cursor
  | ⟨node head (child :: rest), frames⟩ => some ⟨child, ⟨head, [], rest⟩ :: frames⟩
  | ⟨node _ [], _⟩ => none

def nextSibling? : Cursor → Option Cursor
  | ⟨focus, ⟨head, before, next :: after⟩ :: frames⟩ =>
      some ⟨next, ⟨head, focus :: before, after⟩ :: frames⟩
  | _ => none

def parent? : Cursor → Option Cursor
  | ⟨focus, ⟨head, before, after⟩ :: frames⟩ =>
      some ⟨node head (before.reverse ++ focus :: after), frames⟩
  | ⟨_, []⟩ => none

end Cursor

/-- A walk under way. -/
structure Walk where
  cursor : Cursor
  builder : Tree.Builder
  /-- The kinds of the nodes around the cursor, from the inside out. -/
  kinds : List String
  /-- Whether all that is at the cursor has been visited. -/
  isVisited : Bool

namespace Walk

/-- The walk before its first step. -/
def start (tree : ParseTree) : Walk :=
  ⟨⟨tree, []⟩, .empty, [], false⟩

/-- One step of a walk: a node begins, and the walk goes down if it can; or, with all inside visited,
it goes on to the next sibling, or up.  There is no step after the root. -/
def next? (walk : Walk) : Option Walk :=
  if walk.isVisited then
    match walk.cursor.nextSibling? with
    | some cursor => some { walk with cursor := cursor, isVisited := false }
    | none =>
        match walk.cursor.parent? with
        | some cursor =>
            some { walk with
              cursor := cursor, builder := walk.builder.exit, kinds := walk.kinds.drop 1 }
        | none => none
  else
    let builder := walk.builder.enter (lowerHead walk.cursor.focus.head walk.kinds)
    match walk.cursor.firstChild? with
    | some cursor => some ⟨cursor, builder, walk.cursor.focus.head.kind :: walk.kinds, false⟩
    | none => some { walk with builder := builder.exit, isVisited := true }

/-- Whether one step leads from a walk to another. -/
def Steps (walk later : Walk) : Prop :=
  walk.next? = some later

/-- Whether steps lead from a walk to another. -/
def Reaches : Walk → Walk → Prop :=
  Relation.ReflTransGen Steps

-- A step down adds a kind to the stack and an unfinished node to the builder, the step up takes both
-- away, and a step sideways leaves them alone.
mutual

/-- Visiting a node and all that is inside tells the builder of its events. -/
theorem visit (tree : ParseTree) (frames : List Frame) (builder : Tree.Builder)
    (kinds : List String) :
    Reaches ⟨⟨tree, frames⟩, builder, kinds, false⟩
      ⟨⟨tree, frames⟩, (tree.events kinds).foldl Tree.Builder.step builder, kinds, true⟩ := by
  rcases tree with ⟨head, children⟩
  cases children with
  | nil => exact .single rfl
  | cons child rest =>
      have down : Steps ⟨⟨node head (child :: rest), frames⟩, builder, kinds, false⟩
          ⟨⟨child, ⟨head, [], rest⟩ :: frames⟩, builder.enter (lowerHead head kinds),
            head.kind :: kinds, false⟩ := rfl
      apply Relation.ReflTransGen.head down
      apply (visit child _ _ _).trans
      have up := leave rest child head [] frames
        ((child.events (head.kind :: kinds)).foldl Tree.Builder.step
          (builder.enter (lowerHead head kinds))) (head.kind :: kinds)
      simpa [Reaches, events, forestEvents, Tree.Builder.step] using up

/-- Having visited a child, the walk visits the children after it and goes up. -/
theorem leave (trees : List ParseTree) (tree : ParseTree) (head : ParseNode)
    (before : List ParseTree) (frames : List Frame) (builder : Tree.Builder)
    (kinds : List String) :
    Reaches ⟨⟨tree, ⟨head, before, trees⟩ :: frames⟩, builder, kinds, true⟩
      ⟨⟨node head (before.reverse ++ tree :: trees), frames⟩,
        ((forestEvents kinds trees).foldl Tree.Builder.step builder).exit, kinds.drop 1, true⟩ := by
  cases trees with
  | nil => exact .single rfl
  | cons next trees =>
      have sideways : Steps ⟨⟨tree, ⟨head, before, next :: trees⟩ :: frames⟩, builder, kinds, true⟩
          ⟨⟨next, ⟨head, tree :: before, trees⟩ :: frames⟩, builder, kinds, false⟩ := rfl
      apply Relation.ReflTransGen.head sideways
      apply (visit next _ _ _).trans
      have up := leave trees next head (tree :: before) frames
        ((next.events kinds).foldl Tree.Builder.step builder) kinds
      simpa [Reaches, forestEvents] using up

end

/-- Whether the walk over a concrete tree comes to an end, with a tree. -/
def Makes (parsed : ParseTree) (tree : Tree) : Prop :=
  ∃ last, Reaches (start parsed) last ∧ last.next? = none ∧ last.builder.finish = tree

/-- The walk over a concrete tree ends with the lowered tree. -/
theorem makes_lower (parsed : ParseTree) : Makes parsed parsed.lower :=
  ⟨_, visit parsed [] .empty [], rfl, rfl⟩

end Walk

end SourceLens.ParseTree
