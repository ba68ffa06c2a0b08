import SourceLens.Json.Reader
import SourceLens.Request.Decode
import SourceLens.Service
import SourceLens.Service.MediaType

/-!
# Routes

The service behind paths and methods: one path for each question, one for the health of the service
and two for looking at the cache and emptying it.
-/

namespace SourceLens

/-- What a path leads to. -/
inductive Route where
  | health
  | question (endpoint : Endpoint)
  | stats
  | reset
  deriving DecidableEq, Repr

/-- A message to the service. -/
structure Message where
  method : String
  path : String
  mediaType : Option String
  body : String
  deriving DecidableEq, Repr

/-- What the service sends back. -/
inductive Response where
  | value (value : Json)
  | text (text : String)
  | refused
  | failure (error : ServiceError)
  | notFound
  | wrongMethod

namespace Response

/-- The status code of a response. -/
def status : Response → Nat
  | value _ | text _ => 200
  | refused => 400
  | failure error => error.status
  | notFound => 404
  | wrongMethod => 405

end Response

namespace Route

/-- The question that the last part of a path names. -/
def endpoint? : String → Option Endpoint
  | "complete" => some .complete
  | "resolve" => some .resolve
  | "signature" => some .signature
  | "hover" => some .hover
  | "codeCheck" => some .codeCheck
  | "definition" => some .definition
  | "rename" => some .rename
  | "format" => some .format
  | _ => none

/-- What a path leads to. -/
def ofPath? (path : String) : Option Route :=
  match path.splitOn "/" with
  | ["", "healthz"] => some health
  | ["", "completion", "stats"] => some stats
  | ["", "completion", "reset"] => some reset
  | ["", "completion", name] => (endpoint? name).map question
  | _ => none

/-- Whether a route is looked at rather than written to. -/
def isReadOnly : Route → Bool
  | health | stats => true
  | question _ | reset => false

/-- Whether a route has a method.  What can be looked at can also be asked for its head. -/
def allows (route : Route) (method : String) : Bool :=
  if route.isReadOnly then method == "GET" || method == "HEAD" else method == "POST"

end Route

/-- The counters of a cache as they are written. -/
def CacheStats.toJson (stats : CacheStats) : Json :=
  .object [("entries", .nat stats.entries), ("hits", .nat stats.hits), ("misses", .nat stats.misses),
    ("builds", .nat stats.builds), ("evictions", .nat stats.evictions)]

/-- The path of a target without its query. -/
def Message.pathOnly (message : Message) : String :=
  String.ofList (message.path.toList.takeWhile fun char => char != '?' && char != '#')

/-- The request in the body of a message. -/
def Message.request? (message : Message) (endpoint : Endpoint) : Option Request := do
  if message.mediaType.any MediaType.isJson then
    Request.decode? endpoint (← Json.parse? message.body)
  else none

namespace Service

variable {κ : Type}

/-- What a route answers to a message, and the cache afterwards, unless the process ends. -/
def follow (service : Service κ) (cache : Cache κ) (message : Message) :
    Route → Option (Response × Cache κ)
  | .health => some (.text "ok", cache)
  | .stats => some (.value cache.stats.toJson, cache)
  | .reset =>
      let (dropped, cache) := cache.reset
      some (.value (.object [("dropped", .nat dropped)]), cache)
  | .question endpoint =>
      match message.request? endpoint with
      | none => some (.refused, cache)
      | some request =>
          (service.respond cache request false).map fun
            | (.ok value, cache) => (.value value, cache)
            | (.error error, cache) => (.failure error, cache)

/-- The response to a message, and the cache afterwards, unless the process ends. -/
def handle (service : Service κ) (cache : Cache κ) (message : Message) :
    Option (Response × Cache κ) :=
  match Route.ofPath? message.pathOnly with
  | none => some (.notFound, cache)
  | some route =>
      if route.allows message.method then do
        let (response, cache) ← service.follow cache message route
        return (if message.method == "HEAD" then .text "" else response, cache)
      else some (.wrongMethod, cache)

end Service

end SourceLens
