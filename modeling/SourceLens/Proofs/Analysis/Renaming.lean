import SourceLens.Proofs.Analysis.Compilation
import SourceLens.Proofs.Edit.RoundTrip
import SourceLens.Proofs.Program.Spelling
import SourceLens.Query.Action

/-!
# Renaming reaches every use of a symbol

A symbol is used by the tokens that are bound to it and, when it is a field, by the tokens that name
it together with a variable.  The two groups are collected by different rules.  They have no token in
common, each of their tokens gets one edit, and leaves that are apart have edits that are apart: the
edits can always be put in order and carried out.
-/

namespace SourceLens

/-- Whether the leaves of a tree are in order, apart from each other and inside a text. -/
structure Tree.LeavesFit (tree : Tree) (length : Nat) : Prop where
  inOrder : tree.tokens.toList.Pairwise fun first second =>
    (tree.span first).stop ≤ (tree.span second).start
  inside : ∀ token ∈ tree.tokens,
    (tree.span token).start ≤ (tree.span token).stop ∧ (tree.span token).stop ≤ length

theorem Tree.LeavesFit.pairwise_apart {tree : Tree} {length : Nat} (fit : tree.LeavesFit length)
    {tokens : List NodeId} (distinct : tokens.Nodup)
    (leaves : ∀ token ∈ tokens, token ∈ tree.tokens)
    {edit : NodeId → Edit} (covers : ∀ token, (edit token).span = tree.span token) :
    (tokens.map edit).Pairwise Edit.Apart := by
  rw [List.pairwise_map]
  refine distinct.imp_of_mem ?_
  intro first second firstMember secondMember different
  simp only [Edit.Apart, covers]
  exact or_of_pairwise fit.inOrder (Array.mem_toList_iff.mpr (leaves first firstMember))
    (Array.mem_toList_iff.mpr (leaves second secondMember)) different

namespace Analysis

variable {analysis : Analysis}

/-- Whether a token is bound to a symbol. -/
def IsBoundTo (analysis : Analysis) (id : SymbolId) (token : NodeId) : Prop :=
  ∃ declaration, analysis.bindings.known? token = some declaration ∧ declaration.id = id

instance (analysis : Analysis) (id : SymbolId) (token : NodeId) :
    Decidable (analysis.IsBoundTo id token) :=
  decidable_of_iff
    ((analysis.bindings.known? token).any (fun declaration => declaration.id == id) = true)
    (by simp [IsBoundTo, Option.any_eq_true])

/-- Whether a leaf names a field together with a variable. -/
def IsShorthandFor (analysis : Analysis) (field : SymbolId) (token : NodeId) : Prop :=
  token ∈ analysis.tree.tokens ∧ analysis.isShorthand token = true ∧
    ∃ declaration, analysis.shorthandField? token = some declaration ∧ declaration.id = field

/-- Whether a token uses a symbol, so that a new name of the symbol shows there. -/
def Uses (analysis : Analysis) (symbol : Symbol) (token : NodeId) : Prop :=
  analysis.IsBoundTo symbol.id token ∨
    symbol.kind = .field ∧ analysis.IsShorthandFor symbol.id token

/-- The tokens that use a symbol, in the order of the source. -/
def uses (analysis : Analysis) (symbol : Symbol) : List NodeId :=
  if symbol.kind = .field then
    (analysis.references symbol.id ++ analysis.shorthandUses symbol.id).mergeSort
      fun first second => (analysis.tree.span first).start ≤ (analysis.tree.span second).start
  else analysis.references symbol.id

/-- The edit of a token that uses a symbol.  It covers the token and writes the new name over it.  A
token that names a field together with a variable is written out, the field first, with the new name
for the one that is renamed. -/
def useEdit (analysis : Analysis) (id : SymbolId) (newName : String) (token : NodeId) : Edit :=
  let oldName := analysis.program.text token
  ⟨analysis.tree.span token,
    (if analysis.isShorthand token = false then newName
      else if analysis.IsBoundTo id token then oldName ++ ": " ++ newName
      else newName ++ ": " ++ oldName).toList⟩

theorem span_useEdit (id : SymbolId) (newName : String) (token : NodeId) :
    (analysis.useEdit id newName token).span = analysis.tree.span token :=
  rfl

theorem mem_references_iff {id : SymbolId} {token : NodeId} :
    token ∈ analysis.references id ↔
      token < analysis.tree.nodes.size ∧ analysis.IsBoundTo id token := by
  simp [references, Tree.ids, IsBoundTo, Option.any_eq_true]

theorem map_useEdit_references (id : SymbolId) (newName : String) :
    (analysis.references id).map (analysis.useEdit id newName) =
      (analysis.references id).map (analysis.referenceEdit newName) := by
  apply List.map_congr_left
  intro token member
  have bound := (mem_references_iff.mp member).2
  cases shorthand : analysis.isShorthand token <;> simp [useEdit, referenceEdit, shorthand, bound]

theorem not_mem_references_of_mem_shorthandUses {field : SymbolId} {token : NodeId}
    (member : token ∈ analysis.shorthandUses field) :
    token ∉ analysis.references field ∧ analysis.isShorthand token = true := by
  simp only [shorthandUses, List.mem_filter, Bool.and_eq_true, Bool.not_eq_true',
    List.contains_eq_mem, decide_eq_false_iff_not] at member
  exact member.2.1

theorem map_useEdit_shorthandUses (id : SymbolId) (newName : String) :
    (analysis.shorthandUses id).map (analysis.useEdit id newName) =
      (analysis.shorthandUses id).map (analysis.shorthandEdit newName) := by
  apply List.map_congr_left
  intro token member
  rcases not_mem_references_of_mem_shorthandUses member with ⟨noReference, shorthand⟩
  have isLeaf : token ∈ analysis.tree.tokens := Array.mem_toList_iff.mp (List.mem_filter.mp member).1
  have unbound : ¬analysis.IsBoundTo id token := fun bound =>
    noReference (mem_references_iff.mpr ⟨(Tree.mem_tokens_iff.mp isLeaf).1, bound⟩)
  simp [useEdit, shorthandEdit, shorthand, unbound]

/-- Each use has one edit, and there are no others. -/
theorem renameEdits_eq_map (symbol : Symbol) (newName : String) :
    analysis.renameEdits symbol newName =
      (analysis.uses symbol).map (analysis.useEdit symbol.id newName) := by
  unfold renameEdits uses
  split
  · rw [List.map_mergeSort, List.map_append, map_useEdit_references, map_useEdit_shorthandUses]
    intro first _ second _
    rfl
  · exact (map_useEdit_references symbol.id newName).symm

theorem nodup_references (id : SymbolId) : (analysis.references id).Nodup :=
  (List.mergeSort_perm _ _).nodup_iff.mpr (List.nodup_range.filter _)

theorem nodup_uses (symbol : Symbol) : (analysis.uses symbol).Nodup := by
  unfold uses
  split
  · rw [(List.mergeSort_perm _ _).nodup_iff, List.nodup_append']
    refine ⟨nodup_references _, analysis.tree.nodup_tokens.filter _, ?_⟩
    intro token isReference isShorthandUse
    exact (not_mem_references_of_mem_shorthandUses isShorthandUse).1 isReference
  · exact nodup_references _

section Bound

variable (bound : analysis.program.bindAll = .found analysis.bindings)

include bound

theorem mem_references_iff_isBoundTo {id : SymbolId} {token : NodeId} :
    token ∈ analysis.references id ↔ analysis.IsBoundTo id token := by
  rw [mem_references_iff, and_iff_right_iff_imp]
  rintro ⟨declaration, known, -⟩
  exact Program.lt_size_of_known bound known

theorem mem_shorthandUses_iff {field : SymbolId} {token : NodeId} :
    token ∈ analysis.shorthandUses field ↔
      ¬analysis.IsBoundTo field token ∧ analysis.IsShorthandFor field token := by
  rw [← mem_references_iff_isBoundTo bound]
  simp only [shorthandUses, IsShorthandFor, List.mem_filter, Array.mem_toList_iff,
    Bool.and_eq_true, Bool.not_eq_true', List.contains_eq_mem, decide_eq_false_iff_not,
    Option.any_eq_true, beq_iff_eq]
  tauto

theorem mem_uses_iff {symbol : Symbol} {token : NodeId} :
    token ∈ analysis.uses symbol ↔ analysis.Uses symbol token := by
  unfold uses Uses
  split
  next isField =>
    simp only [List.mem_mergeSort, List.mem_append, mem_references_iff_isBoundTo bound,
      mem_shorthandUses_iff bound, isField, true_and]
    tauto
  next isNoField =>
    simp only [mem_references_iff_isBoundTo bound, isNoField, false_and, or_false]

theorem Uses.mem_tokens {symbol : Symbol} {token : NodeId} (isUse : analysis.Uses symbol token) :
    token ∈ analysis.tree.tokens := by
  rcases isUse with ⟨declaration, known, -⟩ | ⟨-, isLeaf, -⟩
  · exact Tree.mem_tokens_iff.mpr
      ⟨Program.lt_size_of_known bound known, (Program.isName_of_known bound known).1⟩
  · exact isLeaf

/-- The name of a declaration is bound to it. -/
theorem known?_of_namedBy? {token : NodeId} {declaration : Declaration}
    (isLeaf : token ∈ analysis.tree.tokens) (isIdentifier : analysis.tree.kind token = .identifier)
    (named : analysis.program.table.namedBy? token = some declaration) :
    analysis.bindings.known? token = some declaration := by
  rcases Tree.mem_tokens_iff.mp isLeaf with ⟨inRange, noChildren⟩
  have resolved : analysis.program.resolveToken #[] token = .found declaration := by
    simp [Program.resolveToken, Program.resolveTokenWith, named]
  have denotes := (Program.binding_of_bindAll bound).2 token inRange
  rw [Program.binding_of_isName noChildren isIdentifier, resolved] at denotes
  simpa [Search.optional] using denotes.symm

/-- The edits of a renaming can be put in order. -/
theorem exists_normalize_renameEdits (fit : analysis.tree.LeavesFit analysis.source.utf8ByteSize)
    (symbol : Symbol) (newName : String) :
    ∃ sorted, Edit.normalize (analysis.renameEdits symbol newName)
      analysis.source.utf8ByteSize = .ok sorted := by
  have leaves : ∀ token ∈ analysis.uses symbol, token ∈ analysis.tree.tokens := fun token member =>
    ((mem_uses_iff bound).mp member).mem_tokens bound
  rw [renameEdits_eq_map]
  apply Edit.exists_normalize_of_apart
  · intro edit member
    rcases List.mem_map.mp member with ⟨token, isUse, rfl⟩
    rw [span_useEdit]
    exact fit.inside token (leaves token isUse)
  · exact fit.pairwise_apart (nodup_uses symbol) leaves (span_useEdit symbol.id newName)

theorem isBoundary_of_mem_renameEdits {text : String} {symbol : Symbol} {newName : String}
    (boundaries : ∀ token ∈ analysis.tree.tokens,
      Text.isBoundary text (analysis.tree.span token).start = true ∧
        Text.isBoundary text (analysis.tree.span token).stop = true) :
    ∀ edit ∈ analysis.renameEdits symbol newName,
      Text.isBoundary text edit.span.start = true ∧ Text.isBoundary text edit.span.stop = true := by
  intro edit member
  rw [renameEdits_eq_map] at member
  rcases List.mem_map.mp member with ⟨token, isUse, rfl⟩
  rw [span_useEdit]
  exact boundaries token (((mem_uses_iff bound).mp isUse).mem_tokens bound)

end Bound

theorem rename_eq (symbol : Symbol) (newName : String) :
    analysis.rename symbol newName false =
      .ok (if analysis.renameEdits symbol newName = [] then []
        else [(.source, analysis.renameEdits symbol newName)]) := by
  simp [rename]

end Analysis

namespace Snapshot

variable {snapshot : Snapshot}

theorem documentChanges_of_normalize {edits sorted : List Edit}
    (accepted : Edit.normalize edits snapshot.source.utf8ByteSize = .ok sorted) :
    snapshot.documentChanges false .source edits = .error .crashed ∧
        Edit.applied? snapshot.source.toList sorted = none ∨
      ∃ changes, snapshot.documentChanges false .source edits = .ok changes := by
  cases applied : Edit.applied? snapshot.source.toList sorted with
  | none =>
    left
    refine ⟨?_, rfl⟩
    simp [documentChanges, editedText, Edit.ordered, accepted, applied, Outcome.orCrash]
  | some after =>
    right
    rcases Edit.exists_between? snapshot.source.toList after with ⟨changes, -, compared, -⟩
    refine ⟨changes.map (Edit.toChange (.ofText snapshot.source)), ?_⟩
    simp [documentChanges, editedText, Edit.ordered, accepted, applied, compared, Outcome.orCrash]

/-- A request to rename a symbol of the buffer alone is answered, unless its edits are accepted and
cannot be carried out. -/
theorem rename_cases (offset : Nat) {newName : String} {edits : Symbol → List Edit}
    (inBuffer : ∀ symbol, snapshot.semantics.rename symbol newName false =
      .ok (if edits symbol = [] then [] else [(.source, edits symbol)]))
    (accepted : ∀ symbol, ∃ sorted,
      Edit.normalize (edits symbol) snapshot.source.utf8ByteSize = .ok sorted) :
    (∃ action, snapshot.rename offset newName false = .ok action) ∨
      snapshot.rename offset newName false = .error .crashed ∧ ∃ symbol sorted,
        Edit.normalize (edits symbol) snapshot.source.utf8ByteSize = .ok sorted ∧
          Edit.applied? snapshot.source.toList sorted = none := by
  cases pointed : snapshot.semantics.symbolAt offset with
  | none =>
    left
    exact ⟨none, by simp [rename, pointed]⟩
  | some symbol =>
    by_cases isEmpty : edits symbol = []
    · left
      exact ⟨some ⟨"Rename to " ++ newName, []⟩, by simp [rename, pointed, inBuffer, isEmpty]⟩
    · rcases accepted symbol with ⟨sorted, normal⟩
      rcases documentChanges_of_normalize normal with ⟨crashed, stuck⟩ | ⟨changes, changed⟩
      · right
        exact ⟨by simp [rename, pointed, inBuffer, isEmpty, crashed], symbol, sorted, normal, stuck⟩
      · left
        exact ⟨some ⟨"Rename to " ++ newName, changes⟩, by
          simp [rename, pointed, inBuffer, isEmpty, changed]⟩

end Snapshot

namespace Analysis

variable {analysis : Analysis}

/-- In every compiled buffer whose leaves are in order, apart and inside the text, renaming a symbol
gives one edit for each token that uses it, and none besides; the name of its declaration is among
these tokens.  The edits can be put in order, so that a request to rename never fails for the sake of
its edits, and is answered where the leaves keep to the boundaries of characters. -/
theorem rename_eq_map_uses {library : Library} {indentWidth : Nat} {source : String} {tree : Tree}
    {output : OutputKind}
    (compiled : compile library indentWidth source tree output false = .ok analysis)
    (fit : tree.LeavesFit source.utf8ByteSize) (newName : String) :
    (∀ symbol : Symbol, ∃ (tokens : List NodeId) (edits : List Edit),
      (tokens.Nodup ∧ ∀ token, token ∈ tokens ↔ analysis.Uses symbol token) ∧
      (∀ token ∈ tree.tokens, tree.kind token = .identifier → ∀ declaration,
        analysis.program.table.namedBy? token = some declaration →
          declaration.id = symbol.id → token ∈ tokens) ∧
      analysis.rename symbol newName false =
        .ok (if edits = [] then [] else [(.source, edits)]) ∧
      edits = tokens.map (analysis.useEdit symbol.id newName) ∧
      edits.map Edit.span = tokens.map tree.span ∧
      ∃ sorted, Edit.normalize edits source.utf8ByteSize = .ok sorted) ∧
    ∀ (orders : NameOrders) (withDiagnostics isCancelled : Bool) (snapshot : Snapshot)
      (offset : Nat),
      Snapshot.build source tree (analysis.semantics orders) output withDiagnostics isCancelled =
        .ok snapshot →
      (∀ (isCancelled : Bool) (message : String),
        snapshot.rename offset newName isCancelled ≠ Outcome.fail (.internal message)) ∧
      ((∀ token ∈ tree.tokens, Text.isBoundary source (tree.span token).start = true ∧
          Text.isBoundary source (tree.span token).stop = true) →
        ∃ action, snapshot.rename offset newName false = .ok action) := by
  rcases of_compile compiled with ⟨bound, rfl, rfl⟩
  have accepted := fun symbol => exists_normalize_renameEdits bound fit symbol newName
  constructor
  · intro symbol
    refine ⟨analysis.uses symbol, analysis.renameEdits symbol newName,
      ⟨nodup_uses symbol, fun token => mem_uses_iff bound⟩, ?_, rename_eq symbol newName,
      renameEdits_eq_map symbol newName, ?_, accepted symbol⟩
    · intro token isLeaf isIdentifier declaration named sameId
      apply (mem_uses_iff bound).mpr
      left
      exact ⟨declaration, known?_of_namedBy? bound isLeaf isIdentifier named, sameId⟩
    · rw [renameEdits_eq_map, List.map_map]
      apply List.map_congr_left
      intro token _
      exact span_useEdit symbol.id newName token
  · intro orders withDiagnostics _ snapshot offset built
    rcases Snapshot.of_build built with ⟨sameSource, sameSemantics⟩
    have inBuffer := fun symbol => (congrArg (fun semantics : Semantics =>
      semantics.rename symbol newName false) sameSemantics).trans (rename_eq symbol newName)
    rw [← sameSource] at accepted
    have outcome := snapshot.rename_cases offset inBuffer accepted
    constructor
    · intro isCancelled message failed
      cases isCancelled with
      | true => cases failed
      | false =>
        rcases outcome with ⟨action, answered⟩ | ⟨crashed, -⟩
        · rw [answered] at failed
          cases failed
        · rw [crashed] at failed
          cases failed
    · intro boundaries
      rcases outcome with answered | ⟨-, symbol, sorted, normal, stuck⟩
      · exact answered
      · rw [← sameSource] at boundaries
        rcases Edit.exists_applied?_of_normalize normal
          (isBoundary_of_mem_renameEdits bound boundaries) with ⟨result, applied⟩
        rw [applied] at stuck
        cases stuck

theorem leavesFit_rebuildingTree :
    rebuildingTree.lower.LeavesFit rebuildingSource.utf8ByteSize where
  inOrder := by decide +kernel
  inside := by decide +kernel

/-- In the rebuilding method, renaming the field `x` edits its declaration and the token that names it
together with the variable `x`, although this token is bound to the variable. -/
theorem rename_eq_map_uses_rebuilding :
    ∃ (field : Declaration) (tokens : List NodeId),
      rebuildingProgram.table.namedBy? 7 = some field ∧
      (7 ∈ tokens ∧ 42 ∈ tokens ∧ ¬rebuildingAnalysis.IsBoundTo field.id 42) ∧
      (rebuildingAnalysis.useEdit field.id "w" 42).newText = "w: x".toList ∧
      rebuildingAnalysis.rename field.symbol "w" false =
        .ok [(.source, tokens.map (rebuildingAnalysis.useEdit field.id "w"))] ∧
      ∃ snapshot, Snapshot.build rebuildingSource rebuildingTree.lower
          (rebuildingAnalysis.semantics .asFiled) .library false false = .ok snapshot ∧
        ∃ action, snapshot.rename 9 "w" false = .ok action := by
  have isField : (rebuildingProgram.table.namedBy? 7).map
      (fun field => (field.id, field.symbol.kind)) = some (1, .field) := by decide +kernel
  have isShorthand : rebuildingAnalysis.isShorthand 42 = true ∧
      (rebuildingAnalysis.shorthandField? 42).map Declaration.id = some 1 := by decide +kernel
  have isVariable : (rebuildingAnalysis.bindings.known? 42).map Declaration.id = some 4 := by
    decide +kernel
  rcases Option.map_eq_some_iff.mp isField with ⟨field, named, described⟩
  rcases Option.map_eq_some_iff.mp isShorthand.2 with ⟨field', found, id_eq⟩
  rcases Prod.mk.inj described with ⟨hasId, kind_eq⟩
  rcases rename_eq_map_uses compile_rebuildingTree leavesFit_rebuildingTree "w" with
    ⟨ofSymbol, ofRequest⟩
  rcases ofSymbol field.symbol with ⟨tokens, edits, ⟨-, mem_iff⟩, declared, renamed, rfl, -⟩
  have declaring : 7 ∈ tokens :=
    declared 7 (by decide +kernel) (by decide +kernel) field named rfl
  refine ⟨field, tokens, named, ⟨declaring, ?_, ?_⟩, ?_, ?_, ?_⟩
  · apply (mem_iff 42).mpr
    right
    exact ⟨kind_eq, by decide +kernel, isShorthand.1, field', found, id_eq.trans hasId.symm⟩
  · rintro ⟨declaration, known, sameId⟩
    rw [known, Option.map_some, sameId, hasId] at isVariable
    cases isVariable
  · rw [hasId]
    decide +kernel
  · rw [renamed, if_neg]
    · rfl
    · exact List.ne_nil_of_mem (List.mem_map_of_mem declaring)
  · exact ⟨_, rfl, (ofRequest .asFiled false false _ 9 rfl).2 (by decide +kernel)⟩

end Analysis

end SourceLens
