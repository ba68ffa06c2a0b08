import SourceLens.Context
import SourceLens.Proofs.Program.Binding

/-!
# What compiling keeps

A step of an analysis passes its value on to the next one, unless it fails.  A compiled buffer has the
source and the tree that were given, every one of its tokens has been bound, and a snapshot of it asks
its analysis.
-/

namespace SourceLens

section Steps

variable {ε α β : Type}

@[simp]
theorem ok_bind (value : α) (next : α → Except ε β) :
    ((.ok value : Except ε α) >>= next) = next value := rfl

@[simp]
theorem error_bind (error : ε) (next : α → Except ε β) :
    ((.error error : Except ε α) >>= next) = .error error := rfl

@[simp]
theorem pure_eq_ok (value : α) : (pure value : Except ε α) = .ok value := rfl

theorem bind_eq_ok {outcome : Except ε α} {next : α → Except ε β} {result : β} :
    (outcome >>= next) = .ok result ↔ ∃ value, outcome = .ok value ∧ next value = .ok result := by
  cases outcome <;> simp

@[simp]
theorem Outcome.unlessCancelled_false : Outcome.unlessCancelled false = .ok () := rfl

@[simp]
theorem Attempt.ofOutcome_eq_ok {outcome : Outcome α} {value : α} :
    Attempt.ofOutcome outcome = .ok value ↔ outcome = .ok value := by
  cases outcome <;> simp [Attempt.ofOutcome]

end Steps

theorem Analysis.of_compile {analysis : Analysis} {library : Library} {indentWidth : Nat}
    {source : String} {tree : Tree} {output : OutputKind}
    (compiled : compile library indentWidth source tree output false = .ok analysis) :
    analysis.program.bindAll = .found analysis.bindings ∧ analysis.tree = tree ∧
      analysis.source = source := by
  rcases compile_eq_ok_iff.mp compiled with ⟨bindings, bound, rfl⟩
  exact ⟨bound, rfl, rfl⟩

theorem Snapshot.eq_of_build {snapshot : Snapshot} {source : String} {tree : Tree}
    {semantics : Semantics} {output : OutputKind} {withDiagnostics isCancelled : Bool}
    (built : build source tree semantics output withDiagnostics isCancelled = .ok snapshot) :
    ∃ diagnostics, snapshot = ⟨source, .ofText source, tree, semantics, diagnostics, output⟩ := by
  cases withDiagnostics with
  | false =>
    cases built
    exact ⟨none, rfl⟩
  | true =>
    rcases bind_eq_ok.mp built with ⟨diagnostics, -, same⟩
    cases same
    exact ⟨diagnostics, rfl⟩

theorem Snapshot.of_build {snapshot : Snapshot} {source : String} {tree : Tree}
    {semantics : Semantics} {output : OutputKind} {withDiagnostics isCancelled : Bool}
    (built : build source tree semantics output withDiagnostics isCancelled = .ok snapshot) :
    snapshot.source = source ∧ snapshot.semantics = semantics := by
  rcases eq_of_build built with ⟨diagnostics, rfl⟩
  exact ⟨rfl, rfl⟩

theorem Toolchain.of_snapshot {toolchain : Toolchain} {orders : NameOrders} {context : Context}
    {source : String} {output : OutputKind} {withDiagnostics isCancelled : Bool}
    {snapshot : Snapshot}
    (compiled : toolchain.snapshot orders context source output withDiagnostics isCancelled =
      .ok snapshot) :
    ∃ analysis, toolchain.compile context source output isCancelled = .ok analysis ∧
      snapshot.semantics = analysis.semantics orders := by
  rcases bind_eq_ok.mp compiled with ⟨analysis, analysed, built⟩
  exact ⟨analysis, analysed, (Snapshot.of_build (Attempt.ofOutcome_eq_ok.mp built)).2⟩

end SourceLens
