import Mathlib.Data.Finset.Prod
import SourceLens.Proofs.Analysis.Compilation
import SourceLens.Proofs.Program.Spelling

/-!
# Bindings are a memo

Names are bound through types and types are found through bindings.  What tokens are bound to is found
while nothing is known, and afterwards it is looked up instead of being found again.  This changes no
answer, neither of what a node denotes nor of its type at any depth.

The steps of inference are a bound that no tree exceeds: inference is at one of finitely many nodes and
depths, so if one more step decides nothing new, no further step does.  Inference is therefore the least
solution of its own equation (`inferAt_eq_inferStep`), and so is inference with bindings.  Each of the two
solves the equation of the other, as far as it has an end, so that they agree even where they have none.
-/

namespace SourceLens

theorem Search.Approximates.antisymm {α : Type} {search other : Search α}
    (approximates : search.Approximates other) (approximated : other.Approximates search) :
    search = other := by
  rcases approximates with endless | same
  · rcases approximated with endless' | same'
    · rw [endless, endless']
    · exact same'.symm
  · exact same

namespace Program

variable {program : Program} {bindings : Bindings}

section Steps

/-- The nodes and depths at which inference has not come to an end within some steps. -/
def undecided (program : Program) (bindings : Bindings) (bound : Nat) : Finset (Nat × Nat) :=
  (Finset.range program.tree.nodes.size ×ˢ Finset.range (maxDepth + 1)).filter fun place =>
    program.inferWithin bindings bound place.1 place.2 = .endless

theorem evidence_of_size_le {node : Nat} (outside : program.tree.nodes.size ≤ node) :
    program.evidence node = .unknown := by
  have absent : program.tree.node node = Node.absent := Tree.node_of_size_le outside
  simp [evidence, Tree.rawKind, Tree.parent, absent, Node.absent, Evidence.about]

/-- After one step, inference has an end outside of the tree and beyond the largest depth. -/
theorem mem_undecided_iff {bound node depth : Nat} :
    (node, depth) ∈ program.undecided bindings (bound + 1) ↔
      program.inferWithin bindings (bound + 1) node depth = .endless := by
  simp only [undecided, Finset.mem_filter, Finset.mem_product, Finset.mem_range, and_iff_right_iff_imp]
  intro endless
  rw [inferWithin_succ, inferStep] at endless
  constructor
  · by_contra outside
    rw [evidence_of_size_le (Nat.le_of_not_lt outside)] at endless
    split at endless <;> cases endless
  · by_contra beyond
    rw [if_pos (by omega)] at endless
    cases endless

theorem undecided_succ_subset (bound : Nat) :
    program.undecided bindings (bound + 1) ⊆ program.undecided bindings bound := by
  intro place member
  simp only [undecided, Finset.mem_filter] at member ⊢
  refine ⟨member.1, ?_⟩
  by_contra ends
  rcases inferWithin_approximates_succ bound place.1 place.2 with endless | same
  · exact ends endless
  · exact ends (same.trans member.2)

/-- If a step decides nothing new, it changes nothing. -/
theorem inferWithin_succ_eq_of_undecided {bound : Nat}
    (same : program.undecided bindings (bound + 1 + 1) = program.undecided bindings (bound + 1)) :
    program.inferWithin bindings (bound + 1 + 1) = program.inferWithin bindings (bound + 1) := by
  funext node depth
  rcases inferWithin_approximates_succ (bound + 1) node depth with endless | unchanged
  · have still := endless
    rw [← mem_undecided_iff, ← same, mem_undecided_iff] at still
    rw [still, endless]
  · exact unchanged.symm

/-- Once a step changes nothing, no later step does. -/
theorem inferWithin_eq_of_le {bound more : Nat}
    (unchanged : program.inferWithin bindings (bound + 1) = program.inferWithin bindings bound)
    (fewer : bound ≤ more) :
    program.inferWithin bindings more = program.inferWithin bindings bound := by
  induction fewer with
  | refl => rfl
  | @step more _ ih =>
      calc program.inferWithin bindings (more + 1)
          = program.inferStep bindings (program.inferWithin bindings more) :=
            funext₂ (inferWithin_succ more)
        _ = program.inferStep bindings (program.inferWithin bindings bound) := by rw [ih]
        _ = program.inferWithin bindings (bound + 1) := (funext₂ (inferWithin_succ bound)).symm
        _ = program.inferWithin bindings bound := unchanged

/-- As long as every step changes something, every step decides something. -/
theorem unchanged_or_card_undecided_le (program : Program) (bindings : Bindings) (steps : Nat) :
    (∃ bound ≤ steps, program.inferWithin bindings (bound + 1) = program.inferWithin bindings bound) ∨
      (program.undecided bindings (steps + 1)).card + steps ≤
        program.tree.nodes.size * (maxDepth + 1) := by
  induction steps with
  | zero =>
      have all := Finset.card_filter_le
        (Finset.range program.tree.nodes.size ×ˢ Finset.range (maxDepth + 1))
        fun place => program.inferWithin bindings 1 place.1 place.2 = .endless
      rw [Finset.card_product, Finset.card_range, Finset.card_range] at all
      exact .inr all
  | succ steps ih =>
      rcases ih with ⟨bound, fewer, unchanged⟩ | few
      · exact .inl ⟨bound, by omega, unchanged⟩
      · by_cases same : program.undecided bindings (steps + 1 + 1) =
            program.undecided bindings (steps + 1)
        · exact .inl ⟨steps + 1, by omega, inferWithin_succ_eq_of_undecided same⟩
        · have fewer := Finset.card_lt_card
            ((undecided_succ_subset (steps + 1)).ssubset_of_ne same)
          right
          omega

/-- More steps than inference is given change nothing, whatever the tree is like. -/
theorem inferWithin_eq_inferAt {bound : Nat} (enough : program.inferenceSteps ≤ bound) (node : NodeId)
    (depth : Nat) :
    program.inferWithin bindings bound node depth = program.inferAt bindings node depth := by
  have decided := program.unchanged_or_card_undecided_le bindings
    (program.tree.nodes.size * (maxDepth + 1) + 1)
  rcases decided with ⟨first, early, unchanged⟩ | few
  · have inTime : first ≤ program.inferenceSteps := by
      simp only [inferenceSteps, maxDepth] at early ⊢
      omega
    rw [inferAt, inferWithin_eq_of_le unchanged inTime,
      inferWithin_eq_of_le unchanged (Nat.le_trans inTime enough)]
  · omega

/-- Inference solves its own equation. -/
theorem inferAt_eq_inferStep (node : NodeId) (depth : Nat) :
    program.inferAt bindings node depth =
      program.inferStep bindings (program.inferAt bindings) node depth := by
  rw [← inferWithin_eq_inferAt (Nat.le_succ program.inferenceSteps), inferWithin_succ]
  rfl

/-- Inference is the least solution of its equation: whatever a step leads back to has all its answers. -/
theorem inferAt_approximates {typeOf : NodeId → Nat → Search TypeText}
    (solves : ∀ node depth,
      (program.inferStep bindings typeOf node depth).Approximates (typeOf node depth))
    (node : NodeId) (depth : Nat) :
    (program.inferAt bindings node depth).Approximates (typeOf node depth) := by
  have within : ∀ bound node depth,
      (program.inferWithin bindings bound node depth).Approximates (typeOf node depth) := by
    intro bound
    induction bound with
    | zero => exact fun _ _ => .inl rfl
    | succ bound ih =>
        intro node depth
        rw [inferWithin_succ]
        exact (inferStep_approximates ih (denotedWith_approximates fun receiver => ih receiver 0)
          node depth).trans (solves node depth)
  exact within _ node depth

end Steps

section Recall

variable {typeOf : NodeId → Search TypeText}

/-- Looking a declaration up comes to the same as finding it, if it would be found. -/
theorem denotedWith_eq_of_found
    (finds : ∀ name declaration, bindings.known? name = some declaration →
      program.resolveTokenWith typeOf name = .found declaration) (node : NodeId) :
    program.denotedWith bindings typeOf node = program.denotedWith #[] typeOf node := by
  unfold denotedWith
  split
  · rfl
  next name _ =>
    cases isKnown : bindings.known? name with
    | none => rfl
    | some declaration => exact (finds name declaration isKnown).symm

/-- Finding a declaration ends as looking it up does, if it ends. -/
theorem denotedWith_approximates_of_known
    (finds : ∀ name declaration, bindings.known? name = some declaration →
      (program.resolveTokenWith typeOf name).Approximates (.found declaration)) (node : NodeId) :
    (program.denotedWith #[] typeOf node).Approximates (program.denotedWith bindings typeOf node) := by
  unfold denotedWith
  split
  · exact .refl _
  next name _ =>
    cases isKnown : bindings.known? name with
    | none => exact .refl _
    | some declaration => exact finds name declaration isKnown

end Recall

section Memo

variable (bound : program.bindAll = .found bindings)
include bound

theorem resolveToken_of_known {name : NodeId} {declaration : Declaration}
    (known : bindings.known? name = some declaration) :
    program.resolveToken #[] name = .found declaration := by
  have denotes := (binding_of_bindAll bound).2 name (lt_size_of_known bound known)
  rw [known] at denotes
  exact resolveToken_of_binding denotes

/-- What is found with bindings is found without them. -/
theorem inferAt_bindAll_approximates (node : NodeId) (depth : Nat) :
    (program.inferAt bindings node depth).Approximates (program.inferAt #[] node depth) := by
  refine inferAt_approximates (fun node depth => ?_) node depth
  rw [inferAt_eq_inferStep node depth]
  refine inferStep_approximates (fun _ _ => .refl _) (fun node => ?_) node depth
  exact .inr (denotedWith_eq_of_found (fun _ _ known => resolveToken_of_known bound known) node)

/-- Types are the same, whether declarations are looked up or found. -/
theorem inferAt_of_bindAll (node : NodeId) (depth : Nat) :
    program.inferAt bindings node depth = program.inferAt #[] node depth := by
  have below := inferAt_bindAll_approximates bound
  refine (below node depth).antisymm (inferAt_approximates (fun node depth => ?_) node depth)
  rw [inferAt_eq_inferStep node depth]
  refine inferStep_approximates (fun _ _ => .refl _) (fun node => ?_) node depth
  apply denotedWith_approximates_of_known
  intro name declaration known
  -- With the types that bindings give, the token leads to the same declaration, or nowhere in the end.
  have closer : (program.resolveToken bindings name).Approximates (program.resolveToken #[] name) :=
    resolveTokenWith_approximates (fun receiver => below receiver 0) name
  rwa [resolveToken_of_known bound known] at closer

theorem infer_of_bindAll : program.infer bindings = program.infer #[] :=
  funext fun node => inferAt_of_bindAll bound node 0

/-- Nodes denote the same, whether declarations are looked up or found. -/
theorem denoted_of_bindAll (node : NodeId) :
    program.denoted bindings node = program.denoted #[] node := by
  rw [denoted, denoted, infer_of_bindAll bound]
  exact denotedWith_eq_of_found (fun _ _ known => resolveToken_of_known bound known) node

theorem valueType_of_bindAll (declaration : Declaration) :
    program.valueType bindings declaration = program.valueType #[] declaration := by
  have sameType : (fun initializer => program.inferAt bindings initializer 1) =
      fun initializer => program.inferAt #[] initializer 1 :=
    funext fun initializer => inferAt_of_bindAll bound initializer 1
  rw [valueType, valueType, sameType]

/-- The bindings hold what would be found for each identifier, and the search for it has an end. -/
theorem denoted_eq_ofOption_known {token : NodeId} (isToken : token ∈ program.tree.tokens)
    (isIdentifier : program.tree.kind token = .identifier) :
    program.denoted #[] token = .ofOption (bindings.known? token) := by
  rcases Tree.mem_tokens_iff.mp isToken with ⟨inRange, isLeaf⟩
  have bindingEq := (binding_of_bindAll bound).2 token inRange
  rw [binding_of_isName isLeaf isIdentifier] at bindingEq
  have denotes : program.denoted #[] token = program.resolveToken #[] token := by
    simp [denoted, denotedWith, namingNode?, isIdentifier, Bindings.known?, resolveToken]
  rw [denotes]
  cases found : program.resolveToken #[] token with
  | found declaration =>
      rw [found] at bindingEq
      rw [← Search.found.inj bindingEq, Search.ofOption]
  | absent =>
      rw [found] at bindingEq
      rw [← Search.found.inj bindingEq, Search.ofOption]
  | endless =>
      rw [found] at bindingEq
      cases bindingEq

end Memo

end Program

/-- The bindings of a compiled buffer are a memo.  What they hold for an identifier is what would be found
for it while nothing is bound.  At every node, what the node denotes and its type at every depth are the
same with these bindings as with none, and so is the type of every declaration used as a value. -/
theorem Analysis.bindings_are_memo {library : Library} {indentWidth : Nat} {source : String} {tree : Tree}
    {output : OutputKind} {analysis : Analysis}
    (compiled : compile library indentWidth source tree output false = .ok analysis) :
    (∀ token ∈ analysis.tree.tokens, analysis.tree.kind token = .identifier →
      analysis.program.denoted #[] token = .ofOption (analysis.bindings.known? token)) ∧
    (∀ node, analysis.program.denoted analysis.bindings node = analysis.program.denoted #[] node) ∧
    (∀ node depth, analysis.program.inferAt analysis.bindings node depth =
      analysis.program.inferAt #[] node depth) ∧
    (∀ declaration, analysis.program.valueType analysis.bindings declaration =
      analysis.program.valueType #[] declaration) := by
  have bound := (of_compile compiled).1
  refine ⟨?_, Program.denoted_of_bindAll bound, Program.inferAt_of_bindAll bound,
    Program.valueType_of_bindAll bound⟩
  intro token isToken isIdentifier
  exact Program.denoted_eq_ofOption_known bound isToken isIdentifier

/-- In the rebuilding method, the type of the variable `x` is found through its initial value `self.x`
while nothing is bound, and through its binding afterwards. -/
theorem Analysis.bindings_are_memo_rebuilding :
    compile .empty 4 rebuildingSource rebuildingTree.lower .library false = .ok rebuildingAnalysis ∧
    rebuildingAnalysis.program.inferAt #[] 42 0 = .found ⟨"i32"⟩ ∧
    rebuildingAnalysis.program.inferAt rebuildingAnalysis.bindings 42 0 = .found ⟨"i32"⟩ := by
  have unbound : rebuildingAnalysis.program.inferAt #[] 42 0 = .found ⟨"i32"⟩ := by decide +kernel
  have sameType := (bindings_are_memo compile_rebuildingTree).2.2.1 42 0
  exact ⟨compile_rebuildingTree, unbound, sameType.trans unbound⟩

end SourceLens
