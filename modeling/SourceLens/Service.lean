import SourceLens.Query.Action
import SourceLens.Query.CodeCheck
import SourceLens.Query.Completion
import SourceLens.Query.Definition
import SourceLens.Query.Hover
import SourceLens.Query.SignatureHelp
import SourceLens.Request.Validate
import SourceLens.Service.Error

/-!
# The service

A request is validated, its context is looked up, its buffer is compiled and what it asks is answered.
Only the cache outlives a request, and a request may end the process: then there is no answer, and
nothing comes after it.
-/

namespace SourceLens

/-- A service: where contexts come from and how buffers are compiled in them. -/
structure Service (κ : Type) where
  /-- What makes contexts. -/
  engine : Engine κ
  /-- The snapshot of a buffer in a context, with diagnostics if they are asked for in advance. -/
  snapshot : κ → String → OutputKind → Bool → Bool → Attempt Snapshot
  cacheOptions : CacheOptions
  /-- What a buffer is meant to become when a request does not say it. -/
  defaultOutput : OutputKind
  /-- Whether completions are described at once. -/
  eagerDescriptions : Bool
  /-- What the runtime says about a crash. -/
  crashReport : String

namespace Query

/-- The name of what is asked. -/
def operation : Query → String
  | complete _ => "complete"
  | resolve _ _ => "resolve"
  | signature _ => "signature"
  | hover _ => "hover"
  | codeCheck => "codeCheck"
  | definition _ => "definition"
  | rename _ _ => "rename"
  | format _ => "format"

/-- Whether the diagnostics are needed as soon as the buffer is compiled. -/
def needsDiagnostics : Query → Bool
  | codeCheck => true
  | _ => false

/-- The same query with its positions in other units. -/
def convert (toOffset : Nat → Nat) : Query → Query
  | .complete position => .complete (toOffset position)
  | .resolve position suggestion => .resolve (toOffset position) suggestion
  | .signature position => .signature (toOffset position)
  | .hover position => .hover (toOffset position)
  | .codeCheck => .codeCheck
  | .definition position => .definition (toOffset position)
  | .rename position newName => .rename (toOffset position) newName
  | .format range => .format (range.map fun (start, stop) => (toOffset start, toOffset stop))

/-- The answer to a query whose positions are byte offsets. -/
def run (query : Query) (snapshot : Snapshot) (isEager isCancelled : Bool) : Outcome Json :=
  match query with
  | .complete offset =>
      return .array ((← snapshot.complete offset isEager isCancelled).map Completion.toJson)
  | .resolve offset suggestion =>
      return .ofOption Completion.toJson
        (← snapshot.describeCompletion offset suggestion isCancelled)
  | .signature offset =>
      return .ofOption SignatureHelp.toJson (← snapshot.signatureHelp offset isCancelled)
  | .hover offset => return .ofOption HoverInfo.toJson (← snapshot.hover offset isCancelled)
  | .codeCheck => return .array ((← snapshot.codeCheck isCancelled).map Marker.toJson)
  | .definition offset =>
      return .ofOption Definition.toJson (← snapshot.definition offset isCancelled)
  | .rename offset newName =>
      return .ofOption Action.toJson (← snapshot.rename offset newName isCancelled)
  | .format range =>
      let span := range.map fun (start, stop) => Span.mk start stop
      return .array ((← snapshot.format span isCancelled).map Action.toJson)

/-- The answer to a query whose positions are UTF-16 offsets. -/
def answer (query : Query) (snapshot : Snapshot) (isEager isCancelled : Bool) : Outcome Json :=
  (query.convert snapshot.offsets.toByte).run snapshot isEager isCancelled

end Query

namespace Service

variable {κ : Type}

/-- The answer to a query about a buffer in a context. -/
def answerIn (service : Service κ) (context : κ) (request : Request) (query : Query)
    (isCancelled : Bool) : Attempt Json := do
  let output := request.output.getD service.defaultOutput
  let snapshot ← service.snapshot context request.code output query.needsDiagnostics isCancelled
  .ofOutcome (query.answer snapshot service.eagerDescriptions isCancelled)

/-- What a service says about an attempt to answer a query, if it is still there to say anything. -/
def report? (service : Service κ) (query : Query) :
    Attempt Json → Option (Except ServiceError Json)
  | .ok answer => some (.ok answer)
  | .error (.stopped stop) =>
      some (.error (.ofStop (query.operation ++ " task panicked: " ++ service.crashReport) stop))
  | .error .exhausted => none

/-- The answer to a request, and the cache afterwards, unless the request ends the process. -/
def respond (service : Service κ) (cache : Cache κ) (request : Request) (isCancelled : Bool) :
    Option (Except ServiceError Json × Cache κ) :=
  match request.validate with
  | .error fault => some (.error (.invalid fault.message), cache)
  | .ok query =>
      let set := ReferenceSet.ofNames (request.assemblies.getD [])
      match cache.getOrCreate service.engine service.cacheOptions set isCancelled with
      | (.error error, cache) => some (.error (.ofCache error), cache)
      | (.ok context, cache) =>
          (service.report? query (service.answerIn context request query isCancelled)).map
            fun answer => (answer, cache)

end Service

/-- What the runtime decides anew for each request: the orders in which the names of the tables are
gone through, and what it says about a crash. -/
structure Runtime where
  orders : NameOrders
  /-- What is said about a crash. -/
  crashReport : String

/-- The service over a toolchain, as it meets a request. -/
def Toolchain.service (toolchain : Toolchain) (cacheOptions : CacheOptions)
    (defaultOutput : OutputKind) (eagerDescriptions : Bool) (runtime : Runtime) :
    Service Context where
  engine := toolchain.engine
  snapshot := toolchain.snapshot runtime.orders
  cacheOptions := cacheOptions
  defaultOutput := defaultOutput
  eagerDescriptions := eagerDescriptions
  crashReport := runtime.crashReport

end SourceLens
