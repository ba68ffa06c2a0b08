import SourceLens.Service

/-!
# Settings

How a service is set up: where it listens, what it keeps, where references are found and how buffers
are treated.
-/

namespace SourceLens

/-- The settings of a service. -/
structure Settings where
  host : String := "127.0.0.1"
  port : Nat := 5280
  /-- The number of contexts that are kept; zero means all of them. -/
  cacheCapacity : Nat := 32
  /-- The number of references that may be left out of a context. -/
  maxReferenceFailures : Nat := 4
  /-- The directories in which references are looked for. -/
  referencePaths : List String := []
  /-- Whether the prelude is part of every context. -/
  bundledPrelude : Bool := true
  /-- What a buffer is meant to become when a request does not say it. -/
  defaultOutput : OutputKind := .library
  /-- Whether completions are described at once. -/
  eagerDescriptions : Bool := false
  indentWidth : Nat := 4
  /-- Which log lines are written. -/
  logFilter : String := "codeassist=info"
  deriving DecidableEq, Repr

namespace Settings

/-- The largest port. -/
def maxPort : Nat :=
  0xffff

/-- The largest count. -/
def maxCount : Nat :=
  0xffffffffffffffff

/-- The address to listen on. -/
def bindAddress (settings : Settings) : String :=
  settings.host ++ ":" ++ toString settings.port

/-- The limits of the cache. -/
def cacheOptions (settings : Settings) : CacheOptions :=
  ⟨settings.cacheCapacity, settings.maxReferenceFailures⟩

/-- The options of the engine. -/
def engineOptions (settings : Settings) : EngineOptions :=
  ⟨settings.referencePaths, settings.bundledPrelude, settings.indentWidth⟩

/-- The settings as a JSON record. -/
def toJson (settings : Settings) : Json :=
  .object [
    ("host", .string settings.host),
    ("port", .nat settings.port),
    ("cache_capacity", .nat settings.cacheCapacity),
    ("max_reference_failures", .nat settings.maxReferenceFailures),
    ("reference_paths", .strings settings.referencePaths),
    ("bundled_prelude", .bool settings.bundledPrelude),
    ("default_output_kind", .string settings.defaultOutput.name),
    ("eager_descriptions", .bool settings.eagerDescriptions),
    ("indent_width", .nat settings.indentWidth),
    ("log_filter", .string settings.logFilter)]

/-- The service that the settings describe, over some files and a parser, as it meets a request. -/
def service (settings : Settings) (workspace : Workspace) (parse : String → ParseTree)
    (runtime : Runtime) : Service Context :=
  ({ workspace := workspace, parse := parse, options := settings.engineOptions } :
    Toolchain).service settings.cacheOptions settings.defaultOutput settings.eagerDescriptions runtime

end Settings

end SourceLens
