import SourceLens.Cache

/-!
# Errors of the service
-/

namespace SourceLens

/-- Why a request has no answer. -/
inductive ServiceError where
  | invalid (detail : String)
  | cache (error : CacheError)
  | engine (error : EngineError)
  | cancelled
  | crashed (detail : String)
  deriving DecidableEq, Repr

namespace ServiceError

/-- The error of a cache. -/
def ofCache : CacheError → ServiceError
  | .cancelled => cancelled
  | error => cache error

/-- The error of an engine. -/
def ofEngine : EngineError → ServiceError
  | .cancelled => cancelled
  | error => engine error

/-- The error of an analysis that came to an early end, with what there is to say about a crash. -/
def ofStop (detail : String) : Stop → ServiceError
  | .failed error => ofEngine error
  | .crashed => crashed detail

/-- The message of an error. -/
def message : ServiceError → String
  | invalid detail => "invalid request: " ++ detail
  | cache error => error.message
  | engine error => error.message
  | cancelled => "request cancelled"
  | crashed detail => (EngineError.internal detail).message

/-- Whether every request will fail until the service is started again. -/
def isUnavailable : ServiceError → Bool
  | cache (.hostUnavailable _) => true
  | engine (.hostInit _) => true
  | _ => false

/-- The status code of an error. -/
def status (error : ServiceError) : Nat :=
  match error with
  | invalid _ => 400
  | _ => if error.isUnavailable then 503 else 500

end ServiceError

end SourceLens
