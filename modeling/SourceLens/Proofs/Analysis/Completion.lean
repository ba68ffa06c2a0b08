import SourceLens.Proofs.Analysis.Compilation
import SourceLens.Proofs.Cursor.Context
import SourceLens.Proofs.Program.Spelling
import SourceLens.Query.Completion

/-!
# Descriptions at once and descriptions on demand

Completions are listed with their descriptions, or without them so that one description is asked for
later.  What is asked for later is found by its text, among candidates that are gathered anew.  Since
no two candidates have the same text, it is the candidate that was listed, and it is described in the
same way.
-/

namespace SourceLens

namespace Candidate

theorem distinct_cons (candidate : Candidate) (candidates : List Candidate) :
    distinct (candidate :: candidates) =
      if candidate.label.isEmpty then
        (distinct candidates).filter fun other => other.label != candidate.label
      else candidate :: (distinct candidates).filter fun other => other.label != candidate.label :=
  rfl

theorem nodup_labels_distinct (candidates : List Candidate) :
    ((distinct candidates).map label).Nodup := by
  induction candidates with
  | nil => exact List.nodup_nil
  | cons candidate candidates ih =>
    have others : (((distinct candidates).filter fun other =>
        other.label != candidate.label).map label).Nodup :=
      ih.sublist (List.filter_sublist.map label)
    rw [distinct_cons]
    split
    · exact others
    · rw [List.map_cons, List.nodup_cons]
      refine ⟨?_, others⟩
      simp

theorem perm_arrange (candidates : List Candidate) :
    (arrange candidates).Perm (distinct candidates) := by
  have sorted := List.mergeSort_perm
    ((distinct candidates).map fun candidate => (candidate.sortKey, candidate))
    fun first second => decide (first.1 ≤ second.1)
  simpa [arrange, Function.comp_def] using sorted.map Prod.snd

theorem nodup_labels_arrange (candidates : List Candidate) :
    ((arrange candidates).map label).Nodup :=
  ((perm_arrange candidates).map label).nodup_iff.mpr (nodup_labels_distinct candidates)

/-- Where no two candidates have the same label, a candidate is found by its label. -/
theorem find?_label {candidates : List Candidate} (distinct : (candidates.map label).Nodup)
    {candidate : Candidate} (member : candidate ∈ candidates) :
    candidates.find? (fun other => other.label == candidate.label) = some candidate := by
  cases found : candidates.find? fun other => other.label == candidate.label with
  | none =>
    have absent := List.find?_eq_none.mp found candidate member
    simp at absent
  | some other =>
    have sameLabel : other.label = candidate.label := by simpa using List.find?_some found
    have same := List.inj_on_of_nodup_map distinct (List.mem_of_find?_eq_some found) member sameLabel
    rw [same]

end Candidate

namespace Analysis

theorem nodup_labels_candidatesIn (analysis : Analysis) (orders : NameOrders) (offset : Nat)
    (context : Cursor.Context) :
    ((analysis.candidatesIn orders offset context).map Candidate.label).Nodup := by
  cases context <;> exact Candidate.nodup_labels_arrange _

/-- At every offset there are candidates to offer: those of the context that is read there. -/
theorem exists_completions_eq (analysis : Analysis) (offset : Nat) :
    ∃ cursor context, ∀ orders, analysis.completions orders offset false =
      .ok (analysis.candidatesIn orders cursor context) := by
  rcases Cursor.exists_clamp? analysis.source offset with ⟨cursor, clamped, isLast⟩
  rcases Cursor.exists_context? isLast.isBoundary with ⟨context, read⟩
  refine ⟨cursor, context, ?_⟩
  intro orders
  simp [completions, Outcome.orCrash, clamped, read]

end Analysis

namespace Snapshot

variable {snapshot : Snapshot} {offset : Nat} {candidates : List Candidate}

theorem complete_eq_map (isEager : Bool)
    (offered : snapshot.semantics.completions offset false = .ok candidates) :
    snapshot.complete offset isEager false =
      .ok (candidates.map (snapshot.completionOf isEager)) := by
  have each : (fun candidate => do
      if isEager then Outcome.unlessCancelled false
      return snapshot.completionOf isEager candidate : Candidate → Outcome Completion) =
      fun candidate => pure (snapshot.completionOf isEager candidate) := by
    cases isEager <;> rfl
  rw [complete, offered, each]
  exact List.mapM_pure

theorem describeCompletion_eq (suggestion : String)
    (offered : snapshot.semantics.completions offset false = .ok candidates) :
    snapshot.describeCompletion offset suggestion false =
      .ok ((candidates.find? fun candidate => candidate.label == suggestion).map
        (snapshot.completionOf true)) := by
  rw [describeCompletion, offered]
  rfl

end Snapshot

/-- At every offset of a compiled buffer, the completions that are listed with their descriptions are
those that are listed without, each with the description that is given for its text on demand.  A
completion is given for a text on demand exactly when the text is listed, and it has that text. -/
theorem Toolchain.complete_eq_map_describeCompletion {toolchain : Toolchain} {orders : NameOrders}
    {context : Context} {source : String} {output : OutputKind} {withDiagnostics : Bool}
    {snapshot : Snapshot}
    (compiled : toolchain.snapshot orders context source output withDiagnostics false = .ok snapshot)
    (offset : Nat) :
    ∃ (listed : List Completion) (onDemand : String → Option Completion),
      snapshot.complete offset false false = .ok listed ∧
      (∀ label, snapshot.describeCompletion offset label false = .ok (onDemand label)) ∧
      snapshot.complete offset true false = .ok (listed.map fun item =>
        { item with description := (onDemand item.suggestion).bind Completion.description }) ∧
      (∀ label item, onDemand label = some item → item.suggestion = label) ∧
      (∀ label, (onDemand label).isSome = true ↔ label ∈ listed.map Completion.suggestion) ∧
      (listed.map Completion.suggestion).Nodup := by
  rcases of_snapshot compiled with ⟨analysis, -, semantics_eq⟩
  rcases analysis.exists_completions_eq offset with ⟨cursor, read, completed⟩
  have distinct := analysis.nodup_labels_candidatesIn orders cursor read
  have offered : snapshot.semantics.completions offset false =
      .ok (analysis.candidatesIn orders cursor read) := by
    rw [semantics_eq]
    exact completed orders
  generalize analysis.candidatesIn orders cursor read = candidates at offered distinct
  have suggestions : (candidates.map (snapshot.completionOf false)).map Completion.suggestion =
      candidates.map Candidate.label := by
    rw [List.map_map]
    rfl
  refine ⟨candidates.map (snapshot.completionOf false), fun label =>
    (candidates.find? fun candidate => candidate.label == label).map (snapshot.completionOf true),
    Snapshot.complete_eq_map false offered,
    fun label => Snapshot.describeCompletion_eq label offered, ?_, ?_, ?_, ?_⟩
  · rw [Snapshot.complete_eq_map true offered, List.map_map]
    apply congrArg Except.ok
    apply List.map_congr_left
    intro candidate member
    have found := Candidate.find?_label distinct member
    simp only [Function.comp_apply, Snapshot.completionOf, found, Option.map_some, Option.bind_some]
  · intro label item described
    rcases Option.map_eq_some_iff.mp described with ⟨candidate, found, rfl⟩
    have sameLabel := List.find?_some found
    exact beq_iff_eq.mp sameLabel
  · intro label
    rw [suggestions]
    simp
  · rw [suggestions]
    exact distinct

namespace Analysis

/-- What the rebuilding method is compiled with. -/
def rebuildingToolchain : Toolchain :=
  ⟨⟨[]⟩, fun _ => rebuildingTree, { bundledPrelude := false }⟩

theorem compile_rebuildingToolchain :
    rebuildingToolchain.compile ⟨.empty, 4⟩ rebuildingSource .library false =
      .ok rebuildingAnalysis :=
  compile_rebuildingTree

theorem completions_rebuildingAnalysis (orders : NameOrders) :
    rebuildingAnalysis.completions orders 50 false =
      .ok (rebuildingAnalysis.candidatesIn orders 50 (.receiver [⟨"self", false⟩])) := by
  have clamped : Cursor.clamp? rebuildingAnalysis.source 50 = some 50 := by decide +kernel
  have context : Cursor.context? rebuildingAnalysis.source 50 =
      some (.receiver [⟨"self", false⟩]) := by decide +kernel
  simp [completions, clamped, context, Outcome.orCrash]

/-- Behind `self.` in the rebuilding method the field `x` is listed, and described on demand. -/
theorem complete_eq_map_describeCompletion_rebuilding :
    ∃ (snapshot : Snapshot) (listed : List Completion) (item : Completion),
      rebuildingToolchain.snapshot .asFiled ⟨.empty, 4⟩ rebuildingSource .library false false =
        .ok snapshot ∧
      snapshot.complete 50 false false = .ok listed ∧ "x" ∈ listed.map Completion.suggestion ∧
      snapshot.describeCompletion 50 "x" false = .ok (some item) ∧ item.suggestion = "x" := by
  have compiled : rebuildingToolchain.snapshot .asFiled ⟨.empty, 4⟩ rebuildingSource .library false
      false = .ok ⟨rebuildingSource, .ofText rebuildingSource, rebuildingAnalysis.tree,
        rebuildingAnalysis.semantics .asFiled, none, .library⟩ := by
    rw [Toolchain.snapshot, compile_rebuildingToolchain]
    rfl
  have isOffered : "x" ∈ (rebuildingAnalysis.candidatesIn .asFiled 50
      (.receiver [⟨"self", false⟩])).map Candidate.label := by
    rw [candidatesIn, ((Candidate.perm_arrange _).map Candidate.label).mem_iff]
    decide +kernel
  rcases Toolchain.complete_eq_map_describeCompletion compiled 50 with
    ⟨listed, onDemand, isListed, described, -, sameText, isSome_iff, -⟩
  have listed_eq := Except.ok.inj
    (isListed.symm.trans (Snapshot.complete_eq_map false (completions_rebuildingAnalysis .asFiled)))
  have member : "x" ∈ listed.map Completion.suggestion := by
    rw [listed_eq, List.map_map]
    exact isOffered
  rcases Option.isSome_iff_exists.mp ((isSome_iff "x").mpr member) with ⟨item, found⟩
  exact ⟨_, listed, item, compiled, isListed, member, by rw [described, found],
    sameText "x" item found⟩

end Analysis

end SourceLens
