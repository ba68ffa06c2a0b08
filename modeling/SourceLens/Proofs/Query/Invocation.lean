import SourceLens.Proofs.Tree.Lookup
import SourceLens.Query.SignatureHelp

/-!
# Which invocation is found around an offset

The search for an invocation starts at the node that covers the offset and goes up from there.  What it
can find is therefore what lies around that node, and this can be told from spans alone: around the leaf
at the offset is what goes on behind the offset, and around the leaf before it is what begins before it.

A list of arguments without its closing bracket also holds the offset at its end, and the invocation ends
there too.  It is in reach if its last leaf ends there and nothing follows directly.  A leaf that does
follow directly, like the semicolon of `f(1, 2;`, covers the offset instead, and then the search passes
the invocation by.
-/

namespace SourceLens

namespace Tree

/-- Whether a node is a call, a construction or an attribute with a list of arguments that holds an
offset: the offset is before one of its bytes, or it is its end and the last node of the list was inserted
by the parser. -/
def HoldsAt (tree : Tree) (offset : Nat) (node : NodeId) : Prop :=
  (tree.kind node).takesArguments = true ∧ ∃ list, tree.childInRole node .arguments = some list ∧
    (tree.IsAt offset list ∨ offset = (tree.span list).stop ∧
      ∃ last, (tree.children list).getLast? = some last ∧ (tree.node last).missing = true)

/-- Whether a node holds an offset, and no node inside it does. -/
def IsInnermost (tree : Tree) (offset : Nat) (node : NodeId) : Prop :=
  tree.HoldsAt offset node ∧
    ∀ other, tree.HoldsAt offset other → node ∈ tree.ancestors other → other = node

/-- Whether a node that touches an offset is around what covers the offset. -/
structure InReach (tree : Tree) (offset : Nat) (node : NodeId) : Prop where
  /-- With a leaf at the offset, what ends at the offset is out of reach. -/
  right : (∃ leaf, tree.IsLeafAt offset leaf) → offset < (tree.span node).stop
  /-- With a leaf before the offset only, what begins at the offset is out of reach. -/
  left : (∀ leaf, ¬tree.IsLeafAt offset leaf) → (∃ leaf, tree.IsLeafBefore offset leaf) →
    (tree.span node).start < offset
  /-- With neither, what ends at the offset is out of reach, unless it is the root. -/
  neither : (∀ leaf, ¬tree.IsLeafAt offset leaf) → (∀ leaf, ¬tree.IsLeafBefore offset leaf) →
    offset < (tree.span node).stop ∨ node = root

section Holding

variable {tree : Tree} {offset : Nat} {node : NodeId}

theorem argumentsHold_iff {list : NodeId} :
    tree.argumentsHold list offset = true ↔ tree.IsAt offset list ∨
      offset = (tree.span list).stop ∧
        ∃ last, (tree.children list).getLast? = some last ∧ (tree.node last).missing = true := by
  rw [argumentsHold, Bool.or_eq_true, contains_iff, Bool.and_eq_true, Option.any_eq_true, beq_iff_eq,
    and_comm]

theorem invocationAt?_eq_some_iff {invocation : Invocation} :
    tree.invocationAt? offset node = some invocation ↔
      (tree.kind node).takesArguments = true ∧
        tree.childInRole node .arguments = some invocation.arguments ∧
        tree.argumentsHold invocation.arguments offset = true ∧
        (tree.childInRole node .target).getD node = invocation.target := by
  unfold invocationAt?
  simp only [Option.ite_none_right_eq_some, Option.bind_eq_bind, Option.bind_eq_some_iff,
    Option.some.injEq]
  refine and_congr_right fun _ => ?_
  constructor
  · rintro ⟨list, found, holds, rfl⟩
    exact ⟨found, holds, rfl⟩
  · rintro ⟨found, holds, targetEq⟩
    exact ⟨invocation.arguments, found, holds, by rw [targetEq]⟩

/-- A node holds an offset exactly when it is an invocation there. -/
theorem holdsAt_iff :
    tree.HoldsAt offset node ↔ ∃ invocation, tree.invocationAt? offset node = some invocation := by
  simp only [invocationAt?_eq_some_iff, argumentsHold_iff]
  constructor
  · rintro ⟨takes, list, found, holds⟩
    exact ⟨⟨(tree.childInRole node .target).getD node, list⟩, takes, found, holds, rfl⟩
  · rintro ⟨invocation, takes, found, holds, -⟩
    exact ⟨takes, invocation.arguments, found, holds⟩

theorem lt_size_of_holdsAt {node : Nat} (holds : tree.HoldsAt offset node) :
    node < tree.nodes.size := by
  apply lt_size_of_kind
  intro isOther
  have takes := holds.1
  rw [isOther] at takes
  cases takes

instance (tree : Tree) (offset : Nat) (node : NodeId) : Decidable (tree.HoldsAt offset node) :=
  decidable_of_iff ((tree.invocationAt? offset node).isSome = true)
    (by rw [holdsAt_iff, Option.isSome_iff_exists])

instance (tree : Tree) (offset : Nat) (node : NodeId) : Decidable (tree.IsInnermost offset node) :=
  decidable_of_iff (tree.HoldsAt offset node ∧ ∀ other < tree.nodes.size,
      tree.HoldsAt offset other → node ∈ tree.ancestors other → other = node)
    (and_congr_right fun _ => ⟨fun inside other holds => inside other (lt_size_of_holdsAt holds) holds,
      fun isInnermost other _ => isInnermost other⟩)

/-- An invocation belongs to one node. -/
theorem Linked.eq_of_invocationAt? (linked : tree.Linked) {other : NodeId} {invocation : Invocation}
    (found : tree.invocationAt? offset node = some invocation)
    (found' : tree.invocationAt? offset other = some invocation) : node = other := by
  have member := mem_children_of_childInRole (invocationAt?_eq_some_iff.mp found).2.1
  have member' := mem_children_of_childInRole (invocationAt?_eq_some_iff.mp found').2.1
  exact Option.some.inj
    ((linked.parent_of_mem_children member).symm.trans (linked.parent_of_mem_children member'))

end Holding

section Search

variable {tree : Tree}

/-- What follows a node on the way up is what is around it. -/
theorem ancestors_eq_of_append {id node : NodeId} {inner outer : List NodeId}
    (wayUp : tree.ancestors id = inner ++ node :: outer) : tree.ancestors node = node :: outer := by
  induction inner generalizing id with
  | nil =>
      have isFirst : id = node := by
        rw [ancestors] at wayUp
        exact (List.cons.inj wayUp).1
      rw [← isFirst, wayUp, List.nil_append, isFirst]
  | cons first inner ih =>
      rw [ancestors, List.cons_append] at wayUp
      have rest := (List.cons.inj wayUp).2
      split at rest
      next parent _ =>
        split at rest
        · exact ih rest
        · simp at rest
      next => simp at rest

/-- A search upwards ends at a node that is inside all others at which it could end. -/
theorem exists_of_findSome?_ancestors {α : Type} {search : NodeId → Option α} {id : NodeId} {found : α}
    (isFound : (tree.ancestors id).findSome? search = some found) :
    ∃ node ∈ tree.ancestors id, search node = some found ∧
      ∀ other ∈ tree.ancestors id, (search other).isSome = true → other ∈ tree.ancestors node := by
  rcases List.findSome?_eq_some_iff.mp isFound with ⟨inner, node, outer, wayUp, foundThere, notInside⟩
  refine ⟨node, by simp [wayUp], foundThere, ?_⟩
  intro other around isSome
  rw [wayUp] at around
  rcases List.mem_append.mp around with inside | outside
  · rw [notInside other inside] at isSome
    cases isSome
  · rwa [ancestors_eq_of_append wayUp]

end Search

section Reach

variable {tree : Tree} {offset : Nat} (orderly : tree.Orderly)
include orderly

/-- All nodes at an offset are around the leaf there. -/
theorem Orderly.mem_ancestors_of_isLeafAt {leaf node : Nat} (isLeaf : tree.IsLeafAt offset leaf)
    (isAt : tree.IsAt offset node) : node ∈ tree.ancestors leaf := by
  have isDeepest := orderly.isDeepestAt_descend_root (orderly.isAt_root isAt)
  have onTheWay := isDeepest.2 leaf isLeaf.2
  have noChildren := (mem_tokens_iff.mp isLeaf.1).2
  by_cases same : leaf = tree.descend offset tree.nodes.size root
  · rw [same]
    exact isDeepest.2 node isAt
  · rcases orderly.linked.exists_child_of_mem_ancestors onTheWay same with ⟨child, member, -⟩
    simp [noChildren] at member

/-- Of the nodes that touch an offset, those in reach are around what covers it. -/
theorem Orderly.mem_ancestors_iff_inReach {covering node : Nat}
    (covers : tree.Covering offset (some covering))
    (touches : (tree.span node).start ≤ offset ∧ offset ≤ (tree.span node).stop) :
    node ∈ tree.ancestors covering ↔ tree.InReach offset node := by
  have linked := orderly.linked
  cases covers with
  | right contains =>
      constructor
      · intro around
        have inside := orderly.nested.span_of_mem_ancestors linked around
        have before := contains.2.2
        refine ⟨fun _ => by omega, fun noRight => ?_, fun noRight => ?_⟩
        · exact absurd contains (noRight covering)
        · exact absurd contains (noRight covering)
      · intro inReach
        have goesOn := inReach.right ⟨covering, contains⟩
        exact orderly.mem_ancestors_of_isLeafAt contains ⟨touches.1, goesOn⟩
  | left noRight ends =>
      rcases ends with ⟨isLeaf, nonempty, stopEq⟩
      constructor
      · intro around
        have inside := orderly.nested.span_of_mem_ancestors linked around
        refine ⟨fun ⟨right, contains⟩ => ?_, fun _ _ => by omega, fun _ noLeft => ?_⟩
        · exact absurd contains (noRight right)
        · exact absurd ⟨isLeaf, nonempty, stopEq⟩ (noLeft covering)
      · intro inReach
        have begins := inReach.left noRight ⟨covering, isLeaf, nonempty, stopEq⟩
        -- Both are before the byte in front of the offset.
        apply @Orderly.mem_ancestors_of_isLeafAt tree (offset - 1) orderly
        · exact ⟨isLeaf, by omega, by omega⟩
        · exact ⟨by omega, by omega⟩
  | deepest noRight noLeft isDeepest =>
      constructor
      · intro around
        have goesOn := (orderly.isAt_of_mem_ancestors around isDeepest.1).2
        refine ⟨fun _ => goesOn, fun _ ⟨left, ends⟩ => ?_, fun _ _ => .inl goesOn⟩
        exact absurd ends (noLeft left)
      · intro inReach
        rcases inReach.neither noRight noLeft with goesOn | rfl
        · exact isDeepest.2 node ⟨touches.1, goesOn⟩
        · exact orderly.oneRoot.root_mem_ancestors linked (lt_size_of_isAt isDeepest.1)
  | root noRight noLeft outside touchesRoot =>
      constructor
      · intro around
        have isRoot : node = root := Nat.le_zero.mp (linked.le_of_mem_ancestors around)
        refine ⟨fun ⟨right, contains⟩ => ?_, fun _ ⟨left, ends⟩ => ?_, fun _ _ => .inr isRoot⟩
        · exact absurd contains (noRight right)
        · exact absurd ends (noLeft left)
      · intro inReach
        rcases inReach.neither noRight noLeft with goesOn | rfl
        · exact absurd ⟨touches.1, goesOn⟩ (outside node)
        · simp

/-- What holds an offset touches it. -/
theorem Orderly.touches_of_holdsAt {node : NodeId} (holds : tree.HoldsAt offset node) :
    (tree.span node).start ≤ offset ∧ offset ≤ (tree.span node).stop := by
  rcases holds with ⟨-, list, found, held⟩
  have inside := orderly.nested.inside node list (mem_children_of_childInRole found)
  have upright := orderly.nested.upright list
  simp only [Span.covers, Bool.and_eq_true, decide_eq_true_eq] at inside
  rcases held with isAt | ⟨atEnd, -⟩
  · unfold IsAt at isAt
    omega
  · omega

/-- Something covers an offset that is held. -/
theorem Orderly.exists_covering_of_holdsAt {node : NodeId} (holds : tree.HoldsAt offset node) :
    ∃ covering, tree.Covering offset (some covering) := by
  rcases orderly.exists_covering offset with ⟨_ | covering, covers⟩
  · cases covers with
    | nothing _ _ _ apart =>
        have touches := orderly.touches_of_holdsAt holds
        have inside := orderly.nested.span_of_mem_ancestors orderly.linked
          (orderly.oneRoot.root_mem_ancestors orderly.linked (lt_size_of_holdsAt holds))
        have touchesRoot : (tree.span root).touches offset = true := by
          simp only [Span.touches, Bool.and_eq_true, decide_eq_true_eq]
          omega
        rw [apart] at touchesRoot
        cases touchesRoot
  · exact ⟨covering, covers⟩

theorem Orderly.findInvocation?_of_covering {covering : NodeId}
    (covers : tree.Covering offset (some covering)) :
    tree.findInvocation? offset =
      (tree.ancestors covering).findSome? (tree.invocationAt? offset) := by
  rw [findInvocation?, orderly.coveringNode_of_covering covers]
  rfl

/-- What is found is in reach, and everything in reach that holds the offset is around it. -/
theorem Orderly.exists_of_findInvocation? {invocation : Invocation}
    (found : tree.findInvocation? offset = some invocation) :
    ∃ node, tree.invocationAt? offset node = some invocation ∧ tree.InReach offset node ∧
      ∀ other, tree.HoldsAt offset other → tree.InReach offset other → other ∈ tree.ancestors node := by
  rcases orderly.exists_covering offset with ⟨_ | covering, covers⟩
  · rw [findInvocation?, orderly.coveringNode_of_covering covers] at found
    cases found
  · rw [orderly.findInvocation?_of_covering covers] at found
    rcases exists_of_findSome?_ancestors found with ⟨node, around, foundThere, othersAround⟩
    have holds := holdsAt_iff.mpr ⟨invocation, foundThere⟩
    have inReach : ∀ {other}, tree.HoldsAt offset other →
        (other ∈ tree.ancestors covering ↔ tree.InReach offset other) := fun otherHolds =>
      orderly.mem_ancestors_iff_inReach covers (orderly.touches_of_holdsAt otherHolds)
    refine ⟨node, foundThere, (inReach holds).mp around, ?_⟩
    intro other otherHolds otherInReach
    apply othersAround other ((inReach otherHolds).mpr otherInReach)
    exact Option.isSome_iff_exists.mpr (holdsAt_iff.mp otherHolds)

/-- Something is found if anything that holds the offset is in reach. -/
theorem Orderly.exists_findInvocation?_of_inReach {node : NodeId} (holds : tree.HoldsAt offset node)
    (inReach : tree.InReach offset node) :
    ∃ invocation, tree.findInvocation? offset = some invocation := by
  rcases orderly.exists_covering_of_holdsAt holds with ⟨covering, covers⟩
  have around := (orderly.mem_ancestors_iff_inReach covers (orderly.touches_of_holdsAt holds)).mpr inReach
  rw [orderly.findInvocation?_of_covering covers, ← Option.isSome_iff_exists, List.findSome?_isSome_iff]
  exact ⟨node, around, Option.isSome_iff_exists.mpr (holdsAt_iff.mp holds)⟩

theorem Orderly.findInvocation?_eq_some_iff {invocation : Invocation} :
    tree.findInvocation? offset = some invocation ↔
      ∃ node, tree.invocationAt? offset node = some invocation ∧ tree.InReach offset node ∧
        ∀ other, tree.HoldsAt offset other → tree.InReach offset other →
          other ∈ tree.ancestors node := by
  refine ⟨orderly.exists_of_findInvocation?, ?_⟩
  rintro ⟨node, isThere, inReach, around⟩
  have holds := holdsAt_iff.mpr ⟨invocation, isThere⟩
  rcases orderly.exists_findInvocation?_of_inReach holds inReach with ⟨invocation', found⟩
  rcases orderly.exists_of_findInvocation? found with ⟨node', isThere', inReach', around'⟩
  have holds' := holdsAt_iff.mpr ⟨invocation', isThere'⟩
  have same : node = node' := Nat.le_antisymm
    (orderly.linked.le_of_mem_ancestors (around' node holds inReach))
    (orderly.linked.le_of_mem_ancestors (around node' holds' inReach'))
  rw [found, ← isThere, same, isThere']

end Reach

/-- In every tree with one root and nested spans, and at every offset, what the search finds is the
invocation inside all others that hold the offset and are in reach.  So it finds an innermost invocation
that holds the offset exactly when such an invocation is in reach. -/
theorem findInvocation?_innermost_iff_inReach (events : List Event)
    (oneRoot : (ofEvents events).HasOneRoot) (nested : (ofEvents events).Nested) (offset : Nat) :
    (∀ invocation, (ofEvents events).findInvocation? offset = some invocation ↔
      ∃ node, (ofEvents events).invocationAt? offset node = some invocation ∧
        (ofEvents events).InReach offset node ∧
        ∀ other, (ofEvents events).HoldsAt offset other → (ofEvents events).InReach offset other →
          other ∈ (ofEvents events).ancestors node) ∧
    ((∃ node invocation, (ofEvents events).IsInnermost offset node ∧
      (ofEvents events).invocationAt? offset node = some invocation ∧
      (ofEvents events).findInvocation? offset = some invocation) ↔
    ∃ node, (ofEvents events).IsInnermost offset node ∧ (ofEvents events).InReach offset node) := by
  have orderly := orderly_ofEvents oneRoot nested
  refine ⟨fun invocation => orderly.findInvocation?_eq_some_iff, ?_, ?_⟩
  · rintro ⟨node, invocation, isInnermost, isThere, found⟩
    rcases orderly.exists_of_findInvocation? found with ⟨other, isThere', inReach, -⟩
    rw [orderly.linked.eq_of_invocationAt? isThere' isThere] at inReach
    exact ⟨node, isInnermost, inReach⟩
  · rintro ⟨node, isInnermost, inReach⟩
    rcases orderly.exists_findInvocation?_of_inReach isInnermost.1 inReach with ⟨invocation, found⟩
    rcases orderly.exists_of_findInvocation? found with ⟨other, isThere, -, around⟩
    have inside := around node isInnermost.1 inReach
    have same := isInnermost.2 other (holdsAt_iff.mpr ⟨invocation, isThere⟩) inside
    exact ⟨node, invocation, isInnermost, same ▸ isThere, found⟩

/-- The events of a node around others.  A node without bytes was inserted by the parser. -/
def eventsOf (kind : NodeKind) (start stop : Nat) (role : Option Role) (inside : List Event) :
    List Event :=
  .enter ⟨kind, "", ⟨start, stop⟩, role, start == stop⟩ :: (inside ++ [.exit])

/-- The tree of `g(f(1 , 2)`, where the inner call has no closing bracket. -/
def unclosedBeforeBlank : List Event :=
  let leaf (kind : NodeKind) (start stop : Nat) : List Event := eventsOf kind start stop none []
  eventsOf .root 0 10 none (eventsOf .invocation 0 10 none
    (eventsOf .identifier 0 1 (some .target) [] ++ eventsOf .argumentList 1 10 (some .arguments)
      (leaf .punctuation 1 2 ++
        eventsOf .invocation 2 5 none
          (eventsOf .identifier 2 3 (some .target) [] ++ eventsOf .argumentList 3 5 (some .arguments)
            (leaf .punctuation 3 4 ++ leaf .literal 4 5 ++ leaf .punctuation 5 5)) ++
        leaf .separator 6 7 ++ leaf .literal 8 9 ++ leaf .punctuation 9 10)))

/-- At its end before a blank the inner call is found, so it is in reach there. -/
theorem findInvocation?_innermost_iff_inReach_unclosed :
    (ofEvents unclosedBeforeBlank).findInvocation? 5 = some ⟨6, 7⟩ ∧
    ∃ node, (ofEvents unclosedBeforeBlank).IsInnermost 5 node ∧
      (ofEvents unclosedBeforeBlank).InReach 5 node := by
  have found : (ofEvents unclosedBeforeBlank).findInvocation? 5 = some ⟨6, 7⟩ := by decide +kernel
  refine ⟨found, ?_⟩
  apply (findInvocation?_innermost_iff_inReach unclosedBeforeBlank (by decide +kernel)
    (by decide +kernel) 5).2.mp
  exact ⟨5, ⟨6, 7⟩, by decide +kernel, by decide +kernel, found⟩

/-- The tree of the statement `f(1, 2;`, where the call has no closing bracket. -/
def unclosedBeforeSemicolon : List Event :=
  let leaf (kind : NodeKind) (start stop : Nat) : List Event := eventsOf kind start stop none []
  eventsOf .root 0 7 none (eventsOf .other 0 7 none
    (eventsOf .invocation 0 6 none
      (eventsOf .identifier 0 1 (some .target) [] ++ eventsOf .argumentList 1 6 (some .arguments)
        (leaf .punctuation 1 2 ++ leaf .literal 2 3 ++ leaf .separator 3 4 ++ leaf .literal 5 6 ++
          leaf .punctuation 6 6)) ++
      leaf .punctuation 6 7))

/-- Before a semicolon, the end of the call is held by it and by nothing else, and nothing is found. -/
theorem findInvocation?_eq_none_before_semicolon :
    (ofEvents unclosedBeforeSemicolon).HasOneRoot ∧ (ofEvents unclosedBeforeSemicolon).Nested ∧
      (ofEvents unclosedBeforeSemicolon).IsInnermost 6 2 ∧
      (ofEvents unclosedBeforeSemicolon).findInvocation? 6 = none := by
  decide +kernel

end Tree

end SourceLens
