import SourceLens.Proofs.Analysis.ScopeCompletion
import SourceLens.Service

/-!
# What the runtime decides

The runtime decides in which order the names of a table are gone through, and what is said about a
crash.  Of all that a snapshot can be asked, only completions are gathered by going through the names, so
that under two runtimes a request has answers that are alike: equal but for the words about a crash, and
for the places of completions whose suggestions are equal without regard to case.
-/

namespace SourceLens

/-- The references of a request. -/
def Request.referenceSet (request : Request) : ReferenceSet :=
  .ofNames (request.assemblies.getD [])

namespace Service

variable {κ : Type}

/-- The answer to a valid request, once its references have been looked up. -/
def answerFound? (service : Service κ) (request : Request) (query : Query) (isCancelled : Bool) :
    Except CacheError κ → Option (Except ServiceError Json)
  | .error error => some (.error (.ofCache error))
  | .ok context => service.report? query (service.answerIn context request query isCancelled)

theorem respond_of_validate (service : Service κ) (cache : Cache κ) {request : Request}
    {query : Query} (accepted : request.validate = .ok query) (isCancelled : Bool) :
    let found :=
      cache.getOrCreate service.engine service.cacheOptions request.referenceSet isCancelled
    service.respond cache request isCancelled =
      (service.answerFound? request query isCancelled found.1).map
        fun answer => (answer, found.2) := by
  intro found
  rcases foundEq : found with ⟨outcome, after⟩
  simp only [found, Request.referenceSet] at foundEq
  cases outcome <;> simp only [respond, accepted, foundEq, answerFound?, Option.map_some]

end Service

namespace Candidate

end Candidate

section Listing

variable (snapshot : Snapshot) (completions : Nat → Bool → Outcome (List Candidate))

namespace Snapshot

end Snapshot

end Listing

section Views

variable (analysis : Analysis) (source : String) (diagnostics : Option (List Diagnostic))
  (output : OutputKind) (orders orders' : NameOrders) (isEager : Bool)

namespace Snapshot

end Snapshot

end Views

namespace Service

variable {κ : Type} (service service' : Service κ) {request : Request} {query : Query}
  (accepted : request.validate = .ok query)

include accepted

end Service

namespace Toolchain

variable (toolchain : Toolchain)

variable (cacheOptions : CacheOptions) (defaultOutput : OutputKind) (eagerDescriptions : Bool)
  (runtime : Runtime)

section Compiled

variable {context : Context} {request : Request} {query : Query}

end Compiled

end Toolchain

end SourceLens
