import SourceLens.Proofs.Program.Resolution

/-!
# What inference asks for

To find the type of a node, inference may ask for the types of other nodes: of a part of the node, of
the receiver of the member that the node is known by, or of the initial value of the variable that the
node denotes.  `Program.Asks` lists these questions, and inference has an end at a node once it has an
end at every node that it asks for.

The number of steps is only a bound: an answer that was found within some steps is the answer within
any larger number.
-/

namespace SourceLens

namespace Search

variable {α β : Type}

/-- Whether a search has not ended, or has ended like another one. -/
def Approximates (search other : Search α) : Prop :=
  search = .endless ∨ search = other

theorem Approximates.refl (search : Search α) : search.Approximates search :=
  .inr rfl

theorem Approximates.bind {search other : Search α} {next next' : α → Search β}
    (approximates : search.Approximates other)
    (nextApproximates : ∀ value, (next value).Approximates (next' value)) :
    (search >>= next).Approximates (other >>= next') := by
  rcases approximates with rfl | rfl
  · exact .inl rfl
  · cases search with
    | found value => exact nextApproximates value
    | absent => exact .inr rfl
    | endless => exact .inl rfl

theorem Approximates.trans {first second third : Search α} (before : first.Approximates second)
    (after : second.Approximates third) : first.Approximates third := by
  rcases before with rfl | rfl
  · exact .inl rfl
  · exact after

theorem Approximates.eq {search other : Search α} (approximates : search.Approximates other)
    (ends : search ≠ .endless) : search = other :=
  approximates.resolve_left ends

end Search

/-- The part of the node whose type is asked for. -/
def Evidence.part? : Evidence → Option NodeId
  | same node | reference _ node | referent node => some node
  | _ => none

/-- The node whose declaration is asked for, given the node that the evidence is about. -/
def Evidence.denoting? (node : NodeId) : Evidence → Option NodeId
  | denoted => some node
  | result target => some target
  | _ => none

namespace Program

variable {program : Program} {bindings : Bindings}

section Bounds

variable {typeOf typeOf' : NodeId → Search TypeText}
  (approximates : ∀ node, (typeOf node).Approximates (typeOf' node))
include approximates

theorem resolveTokenWith_approximates (token : NodeId) :
    (program.resolveTokenWith typeOf token).Approximates (program.resolveTokenWith typeOf' token) := by
  unfold resolveTokenWith accessedMember
  split
  · exact .refl _
  · split
    · split
      · exact (approximates _).bind fun _ => .refl _
      · exact .refl _
    · exact .refl _

theorem denotedWith_approximates (node : NodeId) :
    (program.denotedWith bindings typeOf node).Approximates
      (program.denotedWith bindings typeOf' node) := by
  unfold denotedWith
  split
  · exact .refl _
  · split
    · exact .refl _
    · exact resolveTokenWith_approximates approximates _

theorem valueTypeWith_approximates (declaration : Declaration) :
    (program.valueTypeWith typeOf declaration).Approximates
      (program.valueTypeWith typeOf' declaration) := by
  unfold valueTypeWith
  dsimp only
  split
  · split
    · exact .refl _
    · split
      · exact approximates _
      · exact .refl _
  · split
    · exact .refl _
    · split
      · exact approximates _
      · exact .refl _
  all_goals exact .refl _

end Bounds

/-- One step of inference, given how the types of other expressions are found. -/
def inferStep (program : Program) (bindings : Bindings) (typeOf : NodeId → Nat → Search TypeText)
    (node : NodeId) (depth : Nat) : Search TypeText :=
  if maxDepth < depth then .absent
  else
    match program.evidence node with
    | .known type => .found type
    | .denoted => do
        let declaration ← program.denotedWith bindings (fun receiver => typeOf receiver 0) node
        program.valueTypeWith (fun initializer => typeOf initializer (depth + 2)) declaration
    | .result target => do
        let declaration ← program.denotedWith bindings (fun receiver => typeOf receiver 0) target
        .ofOption (resultType declaration)
    | .same inner => typeOf inner (depth + 1)
    | .reference isMutable inner => return referenceTo isMutable (← typeOf inner (depth + 1))
    | .referent inner => return referentOf (← typeOf inner (depth + 1))
    | .unknown => .absent

theorem inferWithin_succ (bound : Nat) (node : NodeId) (depth : Nat) :
    program.inferWithin bindings (bound + 1) node depth =
      program.inferStep bindings (program.inferWithin bindings bound) node depth := by
  cases evidenceEq : program.evidence node <;>
    simp only [inferWithin, inferStep, evidenceEq]

/-- A step that is given more, and finds declarations from it, finds more. -/
theorem inferStep_approximates {bindings' : Bindings} {typeOf typeOf' : NodeId → Nat → Search TypeText}
    (approximates : ∀ node depth, (typeOf node depth).Approximates (typeOf' node depth))
    (denotes : ∀ node, (program.denotedWith bindings (fun receiver => typeOf receiver 0) node).Approximates
      (program.denotedWith bindings' (fun receiver => typeOf' receiver 0) node))
    (node : NodeId) (depth : Nat) :
    (program.inferStep bindings typeOf node depth).Approximates
      (program.inferStep bindings' typeOf' node depth) := by
  unfold inferStep
  split
  · exact .refl _
  · cases program.evidence node with
    | known type => exact .refl _
    | denoted =>
        refine (denotes node).bind fun declaration => ?_
        exact valueTypeWith_approximates (fun initializer => approximates initializer (depth + 2)) declaration
    | result target => exact (denotes target).bind fun _ => .refl _
    | same inner => exact approximates inner (depth + 1)
    | reference isMutable inner => exact (approximates inner (depth + 1)).bind fun _ => .refl _
    | referent inner => exact (approximates inner (depth + 1)).bind fun _ => .refl _
    | unknown => exact .refl _

/-- One more step changes no answer. -/
theorem inferWithin_approximates_succ (bound : Nat) (node : NodeId) (depth : Nat) :
    (program.inferWithin bindings bound node depth).Approximates
      (program.inferWithin bindings (bound + 1) node depth) := by
  induction bound generalizing node depth with
  | zero => exact .inl rfl
  | succ bound ih =>
      rw [inferWithin_succ, inferWithin_succ]
      exact inferStep_approximates ih (denotedWith_approximates fun receiver => ih receiver 0) node depth

theorem inferWithin_approximates {bound more : Nat} (fewer : bound ≤ more) (node : NodeId)
    (depth : Nat) :
    (program.inferWithin bindings bound node depth).Approximates
      (program.inferWithin bindings more node depth) := by
  induction fewer with
  | refl => exact .refl _
  | @step more _ ih => exact ih.trans (inferWithin_approximates_succ more node depth)

/-- The identifier by which the declaration is found that a node's type rests on. -/
def KnownBy (program : Program) (node name : NodeId) : Prop :=
  ((program.evidence node).denoting? node).bind program.namingNode? = some name

/-- The questions of inference: the node whose type is wanted, and a node whose type may be asked for
on the way. -/
inductive Asks (program : Program) (node : NodeId) : NodeId → Prop where
  | part {inner : NodeId} (partEq : (program.evidence node).part? = some inner) :
      Asks program node inner
  | receiver {name access inner : NodeId} (known : program.KnownBy node name)
      (accessEq : program.memberAccess? name = some access)
      (receiverEq : program.tree.childInRole access .receiver = some inner) :
      Asks program node inner
  | value {name inner : NodeId} {declaration : Declaration} {typeOf : NodeId → Search TypeText}
      (known : program.KnownBy node name)
      (found : program.resolveTokenWith typeOf name = .found declaration)
      (isOwn : program.isOwn declaration = true)
      (valueEq : declaration.initializer = some inner) : Asks program node inner

theorem kind_of_namingNode? {node name : NodeId} (named : program.namingNode? node = some name) :
    program.tree.kind name = .identifier := by
  fun_induction program.namingNode? node with
  | case1 node isIdentifier =>
      cases named
      exact isIdentifier
  | case2 node notIdentifier child childEq deeper ih => exact ih named
  | case3 => cases named
  | case4 => cases named

/-- Whether looking up a token by its name has an end at every identifier that is no declaration's
name. -/
def ResolvesNames (program : Program) : Prop :=
  ∀ token, program.tree.kind token = .identifier → program.table.namedBy? token = none →
    program.resolveByName token ≠ .endless

/-- Looking up what a token denotes has an end, if names are resolved and types of receivers are
found. -/
theorem resolveTokenWith_ne_endless {typeOf : NodeId → Search TypeText} {token : NodeId}
    (byName : program.table.namedBy? token = none → program.resolveByName token ≠ .endless)
    (receivers : ∀ access inner, program.memberAccess? token = some access →
      program.tree.childInRole access .receiver = some inner → typeOf inner ≠ .endless) :
    program.resolveTokenWith typeOf token ≠ .endless := by
  unfold resolveTokenWith
  split
  · simp
  next unnamed =>
    split
    next access accessEq =>
      unfold accessedMember
      split
      next receiver member receiverEq memberEq =>
        apply Search.bind_ne_endless (receivers access receiver accessEq receiverEq)
        simp
      next => simp
    next => exact byName unnamed

theorem valueTypeWith_ne_endless {typeOf : NodeId → Search TypeText} {declaration : Declaration}
    (values : ∀ inner, program.isOwn declaration = true → declaration.initializer = some inner →
      typeOf inner ≠ .endless) : program.valueTypeWith typeOf declaration ≠ .endless := by
  unfold valueTypeWith
  dsimp only
  split
  case h_1 | h_2 =>
    split
    · simp
    · split
      next initializer valueEq =>
        rw [Option.filter_eq_some_iff] at valueEq
        exact values initializer valueEq.2 valueEq.1
      next => simp
  all_goals simp

end Program

/-- Whether everything that is known was found by resolving a token, with types found in some way. -/
def Bindings.IsSound (bindings : Bindings) (program : Program) : Prop :=
  ∀ token declaration, bindings.known? token = some declaration →
    ∃ typeOf, program.resolveTokenWith typeOf token = .found declaration

namespace Program

variable {program : Program} {bindings : Bindings}

theorem exists_resolved_of_denotedWith (sound : bindings.IsSound program)
    {typeOf : NodeId → Search TypeText} {node : NodeId} {declaration : Declaration}
    (found : program.denotedWith bindings typeOf node = .found declaration) :
    ∃ name typeOf', program.namingNode? node = some name ∧
      program.resolveTokenWith typeOf' name = .found declaration := by
  unfold denotedWith at found
  split at found
  · cases found
  next name namedEq =>
    split at found
    next known knownEq =>
      cases found
      rcases sound name declaration knownEq with ⟨typeOf', resolved⟩
      exact ⟨name, typeOf', namedEq, resolved⟩
    next => exact ⟨name, typeOf, namedEq, found⟩

theorem denotedWith_ne_endless {typeOf : NodeId → Search TypeText} {node : NodeId}
    (byName : program.ResolvesNames)
    (receivers : ∀ name access inner, program.namingNode? node = some name →
      program.memberAccess? name = some access →
      program.tree.childInRole access .receiver = some inner → typeOf inner ≠ .endless) :
    program.denotedWith bindings typeOf node ≠ .endless := by
  unfold denotedWith
  split
  · simp
  next name namedEq =>
    split
    · simp
    · apply resolveTokenWith_ne_endless (byName name (kind_of_namingNode? namedEq))
      intro access inner
      exact receivers name access inner namedEq

/-- Inference has an end at a node, if it has an end at every node that it asks for. -/
theorem inferWithin_succ_ne_endless (sound : bindings.IsSound program)
    (byName : program.ResolvesNames)
    {bound : Nat} {node : NodeId}
    (asked : ∀ inner depth, program.Asks node inner →
      program.inferWithin bindings bound inner depth ≠ .endless)
    (depth : Nat) : program.inferWithin bindings (bound + 1) node depth ≠ .endless := by
  have denotes : ∀ target, (program.evidence node).denoting? node = some target →
      program.denotedWith bindings
        (fun receiver => program.inferWithin bindings bound receiver 0) target ≠ .endless := by
    intro target targetEq
    apply denotedWith_ne_endless byName
    intro name access inner namedEq accessEq receiverEq
    have known : program.KnownBy node name := by
      rw [KnownBy, targetEq]
      exact namedEq
    exact asked inner 0 (.receiver known accessEq receiverEq)
  rw [inferWithin]
  split
  · simp
  · cases evidenceEq : program.evidence node with
    | known type => simp
    | denoted =>
        apply Search.bind_ne_endless (denotes node (by rw [evidenceEq]; rfl))
        intro declaration found
        rcases exists_resolved_of_denotedWith sound found with ⟨name, typeOf, namedEq, resolved⟩
        apply valueTypeWith_ne_endless
        intro inner isOwn valueEq
        have known : program.KnownBy node name := by
          rw [KnownBy, evidenceEq]
          exact namedEq
        exact asked inner (depth + 2) (.value known resolved isOwn valueEq)
    | result target =>
        apply Search.bind_ne_endless (denotes target (by rw [evidenceEq]; rfl))
        simp
    | same inner => exact asked inner (depth + 1) (.part (by rw [evidenceEq]; rfl))
    | reference isMutable inner =>
        apply Search.bind_ne_endless (asked inner (depth + 1) (.part (by rw [evidenceEq]; rfl)))
        simp [pure]
    | referent inner =>
        apply Search.bind_ne_endless (asked inner (depth + 1) (.part (by rw [evidenceEq]; rfl)))
        simp [pure]
    | unknown => simp

end Program

end SourceLens
