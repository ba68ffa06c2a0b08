/-!
# Failures

An analysis can fail for a stated reason, or crash.  A crash has no message of its own: whoever runs
the analysis reports it.  A search without end is worse: it uses up the stack, and with the stack the
whole process comes to its end, so that nobody is left to report it.
-/

namespace SourceLens

/-- Why an analysis failed. -/
inductive EngineError where
  | hostInit (reason : String)
  | referenceLoad (reference reason : String)
  | internal (detail : String)
  | cancelled
  deriving DecidableEq, Repr

namespace EngineError

/-- The message of a failure. -/
def message : EngineError → String
  | hostInit reason => "engine host failed to initialize: " ++ reason
  | referenceLoad reference reason =>
      "failed to load reference '" ++ reference ++ "': " ++ reason
  | internal detail => "engine failure: " ++ detail
  | cancelled => "operation cancelled"

/-- Whether nothing will work after the failure. -/
def isFatal : EngineError → Bool
  | hostInit _ => true
  | _ => false

end EngineError

/-- Why an analysis came to an early end. -/
inductive Stop where
  | failed (error : EngineError)
  | crashed
  deriving DecidableEq, Repr

/-- The outcome of an analysis. -/
abbrev Outcome := Except Stop

namespace Outcome

/-- The outcome of a failure. -/
def fail {α : Type} (error : EngineError) : Outcome α :=
  .error (.failed error)

/-- A value, or a crash when there is none. -/
def orCrash {α : Type} : Option α → Outcome α
  | some value => .ok value
  | none => .error .crashed

/-- Fails when the request was cancelled. -/
def unlessCancelled (isCancelled : Bool) : Outcome Unit :=
  if isCancelled then fail .cancelled else .ok ()

end Outcome

/-- Why a buffer was not compiled. -/
inductive Breakdown where
  | stopped (stop : Stop)
  /-- The analysis used up the stack, which ends the process. -/
  | exhausted
  deriving DecidableEq, Repr

/-- The outcome of compiling. -/
abbrev Attempt := Except Breakdown

namespace Attempt

/-- An analysis that does end. -/
def ofOutcome {α : Type} : Outcome α → Attempt α
  | .ok value => .ok value
  | .error stop => .error (.stopped stop)

/-- A value, or the end of the process when it is never reached. -/
def orExhausted {α : Type} : Option α → Attempt α
  | some value => .ok value
  | none => .error .exhausted

end Attempt

end SourceLens
