import SourceLens.Settings
import SourceLens.Text.Numeral

/-!
# Settings on the command line

An argument names a switch, or is the value of the switch before it.  A value that stands by itself is
looked at only when the next switch, or the end of the command line, is reached; a value that is
attached to its switch is looked at there and then.
-/

namespace SourceLens

/-- A switch of the command line. -/
inductive Switch where
  | config
  | host
  | port
  | cacheCapacity
  | referencePath
  | noPrelude
  | eagerDescriptions
  | outputKind
  | help
  deriving DecidableEq, Repr

namespace Switch

/-- The switch with a long name. -/
def ofLong? : String → Option Switch
  | "config" => some config
  | "host" => some host
  | "port" => some port
  | "cache-capacity" => some cacheCapacity
  | "reference-path" => some referencePath
  | "no-prelude" => some noPrelude
  | "eager-descriptions" => some eagerDescriptions
  | "output-kind" => some outputKind
  | "help" => some help
  | _ => none

/-- The switch with a letter. -/
def ofLetter? : Char → Option Switch
  | 'c' => some config
  | 'p' => some port
  | 'h' => some help
  | _ => none

/-- Whether a switch has a value. -/
def hasValue : Switch → Bool
  | noPrelude | eagerDescriptions | help => false
  | _ => true

/-- Whether a switch may be given several times. -/
def isRepeatable (switch : Switch) : Bool :=
  switch == referencePath

end Switch

/-- Why a command line is refused. -/
inductive ArgumentFault where
  | unknown
  | missingValue
  | invalidValue
  | repeated
  /-- A switch that has no value is given one. -/
  | surplusValue
  | help
  deriving DecidableEq, Repr

/-- What a command line says. -/
structure Arguments where
  file : Option String := none
  host : Option String := none
  port : Option Nat := none
  cacheCapacity : Option Nat := none
  referencePaths : List String := []
  noPrelude : Bool := false
  eagerDescriptions : Bool := false
  outputKind : Option OutputKind := none
  deriving DecidableEq, Repr

namespace Arguments

/-- A value that must not be empty. -/
def present (value : String) : Except ArgumentFault String :=
  if value.isEmpty then .error .missingValue else .ok value

/-- A value that must be readable. -/
def valid {α : Type} : Option α → Except ArgumentFault α
  | some value => .ok value
  | none => .error .invalidValue

/-- The port that a value denotes.  Zero may have a minus sign. -/
def port? (value : String) : Option Nat :=
  match value.toList with
  | '-' :: digits => (Text.numeral? 10 digits).filter fun number => number = 0
  | chars => Text.unsigned? Settings.maxPort chars

/-- The kind of output with a name in any mix of cases. -/
def outputKind? (value : String) : Option OutputKind :=
  OutputKind.ofName? (Text.mapChars (List.map Char.toLower) value)

/-- What a command line says with one more switch. -/
def set (arguments : Arguments) (switch : Switch) (value : String) :
    Except ArgumentFault Arguments :=
  match switch with
  | .config => (present value).map fun path => { arguments with file := some path }
  | .host => .ok { arguments with host := some value }
  | .port => (valid (port? value)).map fun port => { arguments with port := some port }
  | .cacheCapacity =>
      (valid (Text.unsigned? Settings.maxCount value.toList)).map fun capacity =>
        { arguments with cacheCapacity := some capacity }
  | .referencePath =>
      (present value).map fun path =>
        { arguments with referencePaths := arguments.referencePaths ++ [path] }
  | .noPrelude => .ok { arguments with noPrelude := true }
  | .eagerDescriptions => .ok { arguments with eagerDescriptions := true }
  | .outputKind =>
      (valid (outputKind? value)).map fun kind => { arguments with outputKind := some kind }
  | .help => .error .help

/-- How far a command line is read. -/
structure Progress where
  /-- What the switches before the last one say. -/
  arguments : Arguments := {}
  /-- The switches that were looked at. -/
  given : List Switch := []
  /-- A switch that is not looked at yet, with its value once that is read. -/
  pending : Option (Switch × Option String) := none
  /-- Whether switches are over. -/
  isPast : Bool := false

namespace Progress

/-- Looks at a switch and its value. -/
def record (progress : Progress) (switch : Switch) (value : String) :
    Except ArgumentFault Progress :=
  if switch ∈ progress.given ∧ ¬ switch.isRepeatable then .error .repeated
  else
    (progress.arguments.set switch value).map fun arguments =>
      { progress with arguments, given := switch :: progress.given }

/-- Looks at the switch that is pending. -/
def settle (progress : Progress) : Except ArgumentFault Progress :=
  let settled := { progress with pending := none }
  match progress.pending with
  | none => .ok settled
  | some (_, none) => .error .missingValue
  | some (switch, some value) => settled.record switch value

/-- Reads a switch, with the value attached to it. -/
def take (progress : Progress) (switch : Switch) (value? : Option String) :
    Except ArgumentFault Progress :=
  match switch.hasValue, value? with
  | true, none => progress.settle.map fun settled => { settled with pending := some (switch, none) }
  | true, some value => progress.settle.bind fun settled => settled.record switch value
  | false, none => progress.settle.bind fun settled => settled.record switch ""
  | false, some _ => .error .surplusValue

/-- Reads a switch that is given by its long name. -/
def takeLong (progress : Progress) (text : List Char) : Except ArgumentFault Progress :=
  let name := String.ofList (text.takeWhile (· != '='))
  let value? :=
    match text.dropWhile (· != '=') with
    | [] => none
    | _ :: value => some (String.ofList value)
  match Switch.ofLong? name with
  | some switch => progress.take switch value?
  | none => .error .unknown

/-- Reads a switch that is given by a letter.  What follows the letter is its value, with or without
an equals sign. -/
def takeLetter (progress : Progress) (letter : Char) (text : List Char) :
    Except ArgumentFault Progress :=
  let value? :=
    match text with
    | [] => none
    | '=' :: value => some (String.ofList value)
    | value => some (String.ofList value)
  match Switch.ofLetter? letter with
  | some switch => progress.take switch (if switch.hasValue then value? else none)
  | none => .error .unknown

/-- Reads an argument that is no switch. -/
def takeValue (progress : Progress) (value : String) : Except ArgumentFault Progress :=
  match progress.pending with
  | some (switch, none) => .ok { progress with pending := some (switch, some value) }
  | _ => .error .unknown

/-- Reads an argument. -/
def step (progress : Progress) (argument : String) : Except ArgumentFault Progress :=
  if progress.isPast then .error .unknown
  else
    match argument.toList with
    | ['-', '-'] => .ok { progress with isPast := true }
    | '-' :: '-' :: text => progress.takeLong text
    | '-' :: letter :: text => progress.takeLetter letter text
    | _ => progress.takeValue argument

end Progress

/-- Reads a command line. -/
def ofList (arguments : List String) : Except ArgumentFault Arguments := do
  let progress ← arguments.foldlM Progress.step {}
  return (← progress.settle).arguments

/-- The settings after a command line.  Directories on the command line take the place of all
others. -/
def apply (arguments : Arguments) (settings : Settings) : Settings :=
  { settings with
    host := arguments.host.getD settings.host
    port := arguments.port.getD settings.port
    cacheCapacity := arguments.cacheCapacity.getD settings.cacheCapacity
    referencePaths :=
      if arguments.referencePaths.isEmpty then settings.referencePaths
      else arguments.referencePaths
    bundledPrelude := settings.bundledPrelude && !arguments.noPrelude
    defaultOutput := arguments.outputKind.getD settings.defaultOutput
    eagerDescriptions := settings.eagerDescriptions || arguments.eagerDescriptions }

end Arguments

end SourceLens
