import SourceLens.Settings
import SourceLens.Text.Numeral
import SourceLens.Text.Quoted

/-!
# Settings in the environment

Some settings are overridden by variables of the environment.  The variables are read in a fixed
order; the first with a value that cannot be used ends the reading, and what was read before it
stays.
-/

namespace SourceLens.Settings

/-- A variable with a value that cannot be used. -/
structure EnvironmentFault where
  name : String
  value : String
  deriving DecidableEq, Repr

/-- The message for a value that cannot be used. -/
def EnvironmentFault.message (fault : EnvironmentFault) : String :=
  "invalid value for " ++ fault.name ++ ": " ++ Text.quoted fault.value

/-- The number that a value denotes, space around it allowed. -/
def countOf? (limit : Nat) (value : String) : Option Nat :=
  Text.unsigned? limit (Text.trim value.toList)

/-- The variables in the order in which they are read, each with what its value does. -/
def overrides : List (String × (Settings → String → Option Settings)) := [
  ("CODEASSIST_HOST", fun settings host => some { settings with host }),
  ("CODEASSIST_PORT", fun settings value =>
    (countOf? maxPort value).map fun port => { settings with port }),
  ("CODEASSIST_CACHE_CAPACITY", fun settings value =>
    (countOf? maxCount value).map fun cacheCapacity => { settings with cacheCapacity }),
  ("CODEASSIST_REFERENCE_PATHS", fun settings value =>
    some { settings with referencePaths := (value.splitOn ":").filter fun path => path != "" })]

/-- The settings after some variables are read, and the variable that ended the reading. -/
def readVariables (value? : String → Option String) (settings : Settings) :
    List (String × (Settings → String → Option Settings)) → Settings × Option EnvironmentFault
  | [] => (settings, none)
  | (name, override?) :: rest =>
      match value? name with
      | none => readVariables value? settings rest
      | some value =>
          match override? settings value with
          | some changed => readVariables value? changed rest
          | none => (settings, some ⟨name, value⟩)

/-- The settings after the environment is read, and the variable that ended the reading. -/
def readEnvironment (settings : Settings) (value? : String → Option String) :
    Settings × Option EnvironmentFault :=
  readVariables value? settings overrides

end SourceLens.Settings
