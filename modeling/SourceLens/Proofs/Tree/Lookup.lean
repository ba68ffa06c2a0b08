import SourceLens.Proofs.Bisection
import SourceLens.Proofs.Tree.Preorder
import SourceLens.Tree.Lookup

/-!
# Looking up positions finds the right node

Leaves are searched by where they end.  Since a leaf ends before any later leaf starts, the leaves that
end too early come first, and bisection finds the first one that does not.  Leaves without bytes may
stand at the same offset as others.  They contain no offset and are never taken for a leaf that ends
there, and they come too late to be in the way of one that does.

Where there is no leaf, the search goes down from the root.  At most one child of a node contains an
offset, so all nodes that contain it are on one way down, and the last of them is the deepest.
-/

namespace SourceLens

namespace Tree

/-- What makes the lookups work: nodes are linked and in pre-order below one root, and spans are
nested. -/
structure Orderly (tree : Tree) : Prop where
  linked : tree.Linked
  preordered : tree.Preordered
  oneRoot : tree.HasOneRoot
  nested : tree.Nested

theorem orderly_ofEvents {events : List Event} (oneRoot : (ofEvents events).HasOneRoot)
    (nested : (ofEvents events).Nested) : (ofEvents events).Orderly :=
  ⟨linked_ofEvents events, preordered_ofEvents events, oneRoot, nested⟩

/-- Whether an offset is before one of the bytes of a node. -/
def IsAt (tree : Tree) (offset : Nat) (id : NodeId) : Prop :=
  (tree.span id).start ≤ offset ∧ offset < (tree.span id).stop

/-- Whether a node is a leaf, and an offset is before one of its bytes. -/
def IsLeafAt (tree : Tree) (offset : Nat) (leaf : NodeId) : Prop :=
  leaf ∈ tree.tokens ∧ tree.IsAt offset leaf

/-- Whether a node is a leaf with some bytes, and an offset is right behind the last one. -/
def IsLeafBefore (tree : Tree) (offset : Nat) (leaf : NodeId) : Prop :=
  leaf ∈ tree.tokens ∧ (tree.span leaf).start < (tree.span leaf).stop ∧
    (tree.span leaf).stop = offset

/-- Whether a node is inside all others at an offset. -/
def IsDeepestAt (tree : Tree) (offset : Nat) (id : NodeId) : Prop :=
  tree.IsAt offset id ∧ ∀ other, tree.IsAt offset other → other ∈ tree.ancestors id

/-- Whether a leaf before an offset is preferred to the leaf at it: there is none, or the first is a word
and the other is not. -/
def Wins (tree : Tree) (offset : Nat) (left : NodeId) : Prop :=
  (∀ right, ¬tree.IsLeafAt offset right) ∨
    (tree.kind left).isWord = true ∧
      ∀ right, tree.IsLeafAt offset right → (tree.kind right).isWord = false

/-- What a cursor touches. -/
inductive Touching (tree : Tree) (offset : Nat) : Option NodeId → Prop where
  | left {left : NodeId} (ends : tree.IsLeafBefore offset left) (wins : tree.Wins offset left) :
      Touching tree offset (some left)
  | right {right : NodeId} (contains : tree.IsLeafAt offset right)
      (loses : ∀ left, tree.IsLeafBefore offset left → ¬tree.Wins offset left) :
      Touching tree offset (some right)
  | nothing (noLeft : ∀ left, ¬tree.IsLeafBefore offset left)
      (noRight : ∀ right, ¬tree.IsLeafAt offset right) : Touching tree offset none

/-- What covers an offset: the leaf at it, else the leaf before it, else the deepest node at it, else the
root if the offset is right behind it. -/
inductive Covering (tree : Tree) (offset : Nat) : Option NodeId → Prop where
  | right {right : NodeId} (contains : tree.IsLeafAt offset right) :
      Covering tree offset (some right)
  | left {left : NodeId} (noRight : ∀ right, ¬tree.IsLeafAt offset right)
      (ends : tree.IsLeafBefore offset left) : Covering tree offset (some left)
  | deepest {id : NodeId} (noRight : ∀ right, ¬tree.IsLeafAt offset right)
      (noLeft : ∀ left, ¬tree.IsLeafBefore offset left) (isDeepest : tree.IsDeepestAt offset id) :
      Covering tree offset (some id)
  | root (noRight : ∀ right, ¬tree.IsLeafAt offset right)
      (noLeft : ∀ left, ¬tree.IsLeafBefore offset left) (outside : ∀ id, ¬tree.IsAt offset id)
      (touches : (tree.span Tree.root).touches offset = true) :
      Covering tree offset (some Tree.root)
  | nothing (noRight : ∀ right, ¬tree.IsLeafAt offset right)
      (noLeft : ∀ left, ¬tree.IsLeafBefore offset left) (outside : ∀ id, ¬tree.IsAt offset id)
      (apart : (tree.span Tree.root).touches offset = false) : Covering tree offset none

section Lookup

variable {tree : Tree} {offset : Nat}

theorem contains_iff {id : NodeId} :
    (tree.span id).contains offset = true ↔ tree.IsAt offset id := by
  simp [Span.contains, IsAt]

theorem lt_size_of_isAt {id : Nat} (isAt : tree.IsAt offset id) : id < tree.nodes.size := by
  apply lt_size_of_node
  intro absent
  simp [IsAt, Tree.span, absent, Node.absent, Span.empty] at isAt

theorem descend_root_of_outside (outside : ∀ id, ¬tree.IsAt offset id) (bound : Nat) :
    tree.descend offset bound root = root := by
  cases bound with
  | zero => rfl
  | succ bound =>
      have noChild : (tree.children root).find? (fun child => (tree.span child).contains offset) =
          none := by
        rw [List.find?_eq_none]
        intro child _ contains
        exact outside child (contains_iff.mp contains)
      rw [descend, noChild]

variable (orderly : tree.Orderly)
include orderly

theorem Orderly.pairwise_tokens : tree.tokens.toList.Pairwise fun first second =>
    (tree.span first).stop ≤ (tree.span second).start := by
  rw [tree.tokens_toList]
  refine (List.pairwise_lt_range.filter _).imp_of_mem ?_
  intro first second firstMember secondMember inOrder
  simp only [List.mem_filter, List.isEmpty_iff] at firstMember secondMember
  exact orderly.nested.stop_le_start orderly.linked orderly.preordered orderly.oneRoot
    firstMember.2 inOrder (List.mem_range.mp secondMember.1)

theorem Orderly.pairwise_stop : tree.tokens.toList.Pairwise fun first second =>
    (tree.span first).stop ≤ (tree.span second).stop := by
  refine orderly.pairwise_tokens.imp ?_
  intro first second apart
  exact Nat.le_trans apart (orderly.nested.upright second)

theorem Orderly.tokenAt_eq_some_iff {leaf : NodeId} :
    tree.tokenAt offset = some leaf ↔ tree.IsLeafAt offset leaf := by
  unfold tokenAt
  rw [filter_getElem?_partitionPoint, contains_iff]
  · rfl
  · refine orderly.pairwise_stop.imp ?_
    intro first second inOrder passed
    simp only [decide_eq_true_eq] at passed ⊢
    omega
  · refine orderly.pairwise_tokens.imp ?_
    intro first second apart contained
    rw [contains_iff, IsAt] at contained
    simp only [decide_eq_true_eq]
    omega
  · intro token contained
    rw [contains_iff, IsAt] at contained
    simpa using contained.2

theorem Orderly.tokenEndingAt_eq_some_iff {leaf : NodeId} :
    tree.tokenEndingAt offset = some leaf ↔ tree.IsLeafBefore offset leaf := by
  have ends_iff : ∀ token, ((tree.span token).stop == offset && !(tree.span token).isEmpty) = true ↔
      (tree.span token).start < (tree.span token).stop ∧ (tree.span token).stop = offset := by
    intro token
    have upright := orderly.nested.upright token
    simp only [Span.isEmpty, Bool.and_eq_true, beq_iff_eq, Bool.not_eq_true', beq_eq_false_iff_ne]
    omega
  unfold tokenEndingAt
  rw [filter_getElem?_partitionPoint, ends_iff]
  · rfl
  · refine orderly.pairwise_stop.imp ?_
    intro first second inOrder passed
    simp only [decide_eq_true_eq] at passed ⊢
    omega
  · refine orderly.pairwise_tokens.imp ?_
    intro first second apart ends
    rw [ends_iff] at ends
    simp only [decide_eq_true_eq]
    omega
  · intro token ends
    rw [ends_iff] at ends
    simp [ends.2]

theorem Orderly.tokenAt_eq_none (noRight : ∀ right, ¬tree.IsLeafAt offset right) :
    tree.tokenAt offset = none := by
  cases found : tree.tokenAt offset with
  | none => rfl
  | some right => exact absurd (orderly.tokenAt_eq_some_iff.mp found) (noRight right)

theorem Orderly.tokenEndingAt_eq_none (noLeft : ∀ left, ¬tree.IsLeafBefore offset left) :
    tree.tokenEndingAt offset = none := by
  cases found : tree.tokenEndingAt offset with
  | none => rfl
  | some left => exact absurd (orderly.tokenEndingAt_eq_some_iff.mp found) (noLeft left)

theorem Orderly.tokenTouching_of_touching {result : Option NodeId}
    (touching : tree.Touching offset result) : tree.tokenTouching offset = result := by
  cases touching with
  | @left left ends wins =>
      rw [tokenTouching, orderly.tokenEndingAt_eq_some_iff.mpr ends]
      cases found : tree.tokenAt offset with
      | none => rfl
      | some right =>
          have contains := orderly.tokenAt_eq_some_iff.mp found
          rcases wins with noRight | ⟨isWord, noWord⟩
          · exact absurd contains (noRight right)
          · simp [isWord, noWord right contains]
  | @right right contains loses =>
      rw [tokenTouching, orderly.tokenAt_eq_some_iff.mpr contains]
      cases found : tree.tokenEndingAt offset with
      | none => rfl
      | some left =>
          have loses := loses left (orderly.tokenEndingAt_eq_some_iff.mp found)
          have rightWins : (tree.kind right).isWord = true ∨ (tree.kind left).isWord = false := by
            by_contra neither
            rw [not_or, Bool.not_eq_true, Bool.not_eq_false] at neither
            apply loses
            refine .inr ⟨neither.2, ?_⟩
            intro other containsToo
            have same := (orderly.tokenAt_eq_some_iff.mpr containsToo).symm.trans
              (orderly.tokenAt_eq_some_iff.mpr contains)
            rw [Option.some.inj same]
            exact neither.1
          rcases rightWins with isWord | noWord
          · simp [isWord]
          · simp [noWord]
  | nothing noLeft noRight =>
      rw [tokenTouching, orderly.tokenAt_eq_none noRight, orderly.tokenEndingAt_eq_none noLeft]
      rfl

omit orderly in
theorem exists_touching (tree : Tree) (offset : Nat) : ∃ result, tree.Touching offset result := by
  by_cases someLeft : ∃ left, tree.IsLeafBefore offset left ∧ tree.Wins offset left
  · rcases someLeft with ⟨left, ends, wins⟩
    exact ⟨some left, .left ends wins⟩
  · have loses : ∀ left, tree.IsLeafBefore offset left → ¬tree.Wins offset left := by
      intro left ends wins
      exact someLeft ⟨left, ends, wins⟩
    by_cases someRight : ∃ right, tree.IsLeafAt offset right
    · rcases someRight with ⟨right, contains⟩
      exact ⟨some right, .right contains loses⟩
    · have noRight := not_exists.mp someRight
      exact ⟨none, .nothing (fun left ends => loses left ends (.inl noRight)) noRight⟩

section Descent

theorem Orderly.isAt_of_mem_ancestors {id outer : Nat} (around : outer ∈ tree.ancestors id)
    (isAt : tree.IsAt offset id) : tree.IsAt offset outer := by
  have inside := orderly.nested.span_of_mem_ancestors orderly.linked around
  unfold IsAt at isAt ⊢
  omega

theorem Orderly.eq_of_isAt {outer first second : NodeId} (member : first ∈ tree.children outer)
    (member' : second ∈ tree.children outer) (isAt : tree.IsAt offset first)
    (isAt' : tree.IsAt offset second) : first = second := by
  by_contra different
  unfold IsAt at isAt isAt'
  rcases or_of_pairwise (orderly.nested.apart outer) member member' different with apart | apart
  · omega
  · omega

/-- The way down ends at the deepest node, if it starts on the way to it. -/
theorem Orderly.isDeepestAt_descend {bound id : Nat} (enough : tree.nodes.size ≤ id + bound)
    (isAt : tree.IsAt offset id)
    (onTheWay : ∀ other, tree.IsAt offset other →
      other ∈ tree.ancestors id ∨ id ∈ tree.ancestors other) :
    tree.IsDeepestAt offset (tree.descend offset bound id) := by
  have linked := orderly.linked
  induction bound generalizing id with
  | zero =>
      have inRange := lt_size_of_isAt isAt
      omega
  | succ bound ih =>
      -- A node at the offset is not below, or is below the child that the search goes to.
      have below : ∀ other, tree.IsAt offset other → other ∈ tree.ancestors id ∨
          ∃ child ∈ tree.children id, child ∈ tree.ancestors other ∧ tree.IsAt offset child := by
        intro other otherAt
        rcases onTheWay other otherAt with around | inside
        · exact .inl around
        · by_cases same : id = other
          · subst same
            exact .inl (by simp)
          · rcases linked.exists_child_of_mem_ancestors inside same with ⟨child, member, around⟩
            exact .inr ⟨child, member, around, orderly.isAt_of_mem_ancestors around otherAt⟩
      rw [descend]
      cases found : (tree.children id).find? fun child => (tree.span child).contains offset with
      | none =>
          refine ⟨isAt, ?_⟩
          intro other otherAt
          rcases below other otherAt with around | ⟨child, member, -, childAt⟩
          · exact around
          · have apart := List.find?_eq_none.mp found child member
            exact absurd (contains_iff.mpr childAt) apart
      | some child =>
          have member := List.mem_of_find?_eq_some found
          have childAt : tree.IsAt offset child :=
            contains_iff.mp (by simpa using List.find?_some found)
          have after : id < child := linked.lt_of_mem_children member
          apply ih _ childAt
          · intro other otherAt
            rcases below other otherAt with around | ⟨child', member', around, childAt'⟩
            · exact .inl (linked.mem_ancestors_of_child member around)
            · rw [orderly.eq_of_isAt member member' childAt childAt']
              exact .inr around
          · exact Nat.le_trans enough (by omega)

theorem Orderly.isAt_root {id : Nat} (isAt : tree.IsAt offset id) : tree.IsAt offset root :=
  orderly.isAt_of_mem_ancestors
    (orderly.oneRoot.root_mem_ancestors orderly.linked (lt_size_of_isAt isAt)) isAt

theorem Orderly.isDeepestAt_descend_root (isAt : tree.IsAt offset root) :
    tree.IsDeepestAt offset (tree.descend offset tree.nodes.size root) := by
  apply orderly.isDeepestAt_descend _ isAt
  · intro other otherAt
    exact .inr (orderly.oneRoot.root_mem_ancestors orderly.linked (lt_size_of_isAt otherAt))
  · exact Nat.le_add_left _ _

theorem Orderly.isDeepestAt_unique {first second : NodeId} (isDeepest : tree.IsDeepestAt offset first)
    (isDeepest' : tree.IsDeepestAt offset second) : first = second := by
  have linked := orderly.linked
  apply Nat.le_antisymm
  · exact linked.le_of_mem_ancestors (isDeepest'.2 first isDeepest.1)
  · exact linked.le_of_mem_ancestors (isDeepest.2 second isDeepest'.1)

end Descent

/-- Without a leaf at the offset or before it, the search goes down from the root. -/
theorem Orderly.coveringNode_of_no_leaf (noRight : ∀ right, ¬tree.IsLeafAt offset right)
    (noLeft : ∀ left, ¬tree.IsLeafBefore offset left) :
    tree.coveringNode offset =
      if (tree.span root).touches offset then some (tree.descend offset tree.nodes.size root)
      else none := by
  rw [coveringNode, orderly.tokenAt_eq_none noRight, orderly.tokenEndingAt_eq_none noLeft]
  rfl

theorem Orderly.coveringNode_of_covering {result : Option NodeId}
    (covering : tree.Covering offset result) : tree.coveringNode offset = result := by
  cases covering with
  | right contains =>
      rw [coveringNode, orderly.tokenAt_eq_some_iff.mpr contains]
      rfl
  | left noRight ends =>
      rw [coveringNode, orderly.tokenAt_eq_none noRight, orderly.tokenEndingAt_eq_some_iff.mpr ends]
      rfl
  | deepest noRight noLeft isDeepest =>
      have rootAt := orderly.isAt_root isDeepest.1
      have touches : (tree.span root).touches offset = true := by
        unfold IsAt at rootAt
        simp only [Span.touches, Bool.and_eq_true, decide_eq_true_eq]
        omega
      rw [orderly.coveringNode_of_no_leaf noRight noLeft, if_pos touches,
        orderly.isDeepestAt_unique (orderly.isDeepestAt_descend_root rootAt) isDeepest]
  | root noRight noLeft outside touches =>
      rw [orderly.coveringNode_of_no_leaf noRight noLeft, if_pos touches,
        descend_root_of_outside outside]
  | nothing noRight noLeft outside apart =>
      rw [orderly.coveringNode_of_no_leaf noRight noLeft, apart]
      rfl

theorem Orderly.exists_covering (offset : Nat) : ∃ result, tree.Covering offset result := by
  by_cases someRight : ∃ right, tree.IsLeafAt offset right
  · rcases someRight with ⟨right, contains⟩
    exact ⟨some right, .right contains⟩
  · have noRight := not_exists.mp someRight
    by_cases someLeft : ∃ left, tree.IsLeafBefore offset left
    · rcases someLeft with ⟨left, ends⟩
      exact ⟨some left, .left noRight ends⟩
    · have noLeft := not_exists.mp someLeft
      by_cases rootAt : tree.IsAt offset root
      · exact ⟨_, .deepest noRight noLeft (orderly.isDeepestAt_descend_root rootAt)⟩
      · have outside : ∀ id, ¬tree.IsAt offset id := fun id isAt => rootAt (orderly.isAt_root isAt)
        cases touches : (tree.span root).touches offset with
        | true => exact ⟨some root, .root noRight noLeft outside touches⟩
        | false => exact ⟨none, .nothing noRight noLeft outside touches⟩

end Lookup

/-- In every tree with one root and nested spans, and at every offset, a lookup of the token there finds
the leaf that contains the offset, and nothing if there is none; the token that is touched is the leaf
that ends there if it is preferred, and the leaf that contains the offset otherwise; and the node that
covers the offset is one of these leaves, else the deepest node there, else the root right behind its
end. -/
theorem lookups_ofEvents (events : List Event) (oneRoot : (ofEvents events).HasOneRoot)
    (nested : (ofEvents events).Nested) (offset : Nat) :
    (∀ leaf, (ofEvents events).tokenAt offset = some leaf ↔
      (ofEvents events).IsLeafAt offset leaf) ∧
    (∀ result, (ofEvents events).tokenTouching offset = result ↔
      (ofEvents events).Touching offset result) ∧
    (∀ result, (ofEvents events).coveringNode offset = result ↔
      (ofEvents events).Covering offset result) := by
  have orderly := orderly_ofEvents oneRoot nested
  refine ⟨fun leaf => orderly.tokenAt_eq_some_iff, ?_, ?_⟩
  · intro result
    refine ⟨?_, orderly.tokenTouching_of_touching⟩
    rintro rfl
    rcases exists_touching (ofEvents events) offset with ⟨result, touching⟩
    rwa [orderly.tokenTouching_of_touching touching]
  · intro result
    refine ⟨?_, orderly.coveringNode_of_covering⟩
    rintro rfl
    rcases orderly.exists_covering offset with ⟨result, covering⟩
    rwa [orderly.coveringNode_of_covering covering]

/-- What nested spans ask of one node, of neighbours among its children only. -/
def IsNestedAt (tree : Tree) (id : NodeId) : Prop :=
  (tree.span id).start ≤ (tree.span id).stop ∧
    (∀ child ∈ tree.children id, (tree.span id).covers (tree.span child) = true) ∧
    (tree.children id).IsChain fun first second => (tree.span first).stop ≤ (tree.span second).start

theorem nested_iff {tree : Tree} : tree.Nested ↔ ∀ id < tree.nodes.size, tree.IsNestedAt id := by
  constructor
  · intro nested id _
    exact ⟨nested.upright id, nested.inside id, (nested.apart id).isChain⟩
  · intro inside
    have each : ∀ id, tree.IsNestedAt id := by
      intro id
      by_cases inRange : id < tree.nodes.size
      · exact inside id inRange
      · simp [IsNestedAt, Tree.span, Tree.children, node_of_size_le (Nat.le_of_not_lt inRange),
          Node.absent, Span.empty]
    refine ⟨fun id => (each id).1, fun id => (each id).2.1, fun id => ?_⟩
    have transitive : IsTrans NodeId fun first second =>
        (tree.span first).stop ≤ (tree.span second).start := by
      refine ⟨fun first second third apart apart' => ?_⟩
      have := (each second).1
      omega
    exact List.isChain_iff_pairwise.mp (each id).2.2

instance (tree : Tree) (id : NodeId) : Decidable (tree.IsNestedAt id) :=
  inferInstanceAs (Decidable (_ ∧ _))

instance (tree : Tree) : Decidable tree.Nested :=
  decidable_of_iff _ nested_iff.symm

instance (tree : Tree) : Decidable tree.HasOneRoot :=
  inferInstanceAs (Decidable (∀ id < tree.nodes.size, tree.parent id = none → id = root))

/-- The tree of `f(,  x)` with a blank behind it, in which the parser has inserted a name before the
comma. -/
def recoveredCall : List Event :=
  let enter (kind : NodeKind) (start stop : Nat) : Event :=
    .enter ⟨kind, "", ⟨start, stop⟩, none, start == stop⟩
  let leaf (kind : NodeKind) (start stop : Nat) : List Event := [enter kind start stop, .exit]
  [enter .root 0 8, enter .invocation 0 7] ++ leaf .identifier 0 1 ++ [enter .argumentList 1 7] ++
    leaf .punctuation 1 2 ++ leaf .identifier 2 2 ++ leaf .separator 2 3 ++ leaf .identifier 5 6 ++
    leaf .punctuation 6 7 ++ [.exit, .exit, .exit]

/-- The name before the bracket wins, the comma is found behind the inserted name, the arguments are
around the second blank, and the root is all there is behind the last one. -/
theorem lookups_ofEvents_recoveredCall :
    (ofEvents recoveredCall).HasOneRoot ∧ (ofEvents recoveredCall).Nested ∧
      (ofEvents recoveredCall).Touching 1 (some 2) ∧ (ofEvents recoveredCall).IsLeafAt 2 6 ∧
      (ofEvents recoveredCall).Covering 3 (some 6) ∧ (ofEvents recoveredCall).Covering 4 (some 3) ∧
      (ofEvents recoveredCall).Covering 8 (some root) := by
  have oneRoot : (ofEvents recoveredCall).HasOneRoot := by decide +kernel
  have nested : (ofEvents recoveredCall).Nested := by decide +kernel
  have lookups := lookups_ofEvents recoveredCall oneRoot nested
  refine ⟨oneRoot, nested, ?_, ?_, ?_, ?_, ?_⟩
  · exact ((lookups 1).2.1 _).mp (by decide +kernel)
  · exact ((lookups 2).1 _).mp (by decide +kernel)
  · exact ((lookups 3).2.2 _).mp (by decide +kernel)
  · exact ((lookups 4).2.2 _).mp (by decide +kernel)
  · exact ((lookups 8).2.2 _).mp (by decide +kernel)

end Tree

end SourceLens
