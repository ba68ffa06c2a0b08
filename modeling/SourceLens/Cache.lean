import SourceLens.Cache.ReferenceSet
import SourceLens.Context

/-!
# Caches of contexts

A context is built once for the key of a reference set and kept until it is the least recently used
one of too many.  A build that was cancelled is forgotten, any other outcome is remembered.  Once the
engine could not start, nothing is built any more.
-/

namespace SourceLens

/-- What makes contexts.  An engine may answer each of its calls differently, so it is told how many
came before. -/
structure Engine (κ : Type) where
  /-- The context of some references, given the number of calls before this one and whether the
  request was cancelled. -/
  create : Nat → List String → Bool → Outcome (ContextBuild κ)

/-- Why there is no context. -/
inductive CacheError where
  | hostUnavailable (reason : String)
  | construction (key reason : String)
  | cancelled
  deriving DecidableEq, Repr

/-- The message of a cache error. -/
def CacheError.message : CacheError → String
  | .hostUnavailable reason => "analysis host unavailable: " ++ reason
  | .construction key reason => "context for [" ++ key ++ "] could not be built: " ++ reason
  | .cancelled => "context build cancelled"

/-- The limits of a cache. -/
structure CacheOptions where
  /-- The number of contexts that are kept; zero means all of them. -/
  capacity : Nat := 32
  /-- The number of references that may be left out of a context. -/
  maxFailures : Nat := 4
  deriving DecidableEq, Repr

/-- The place of a key, with the outcome of its build once there is one. -/
structure Slot (κ : Type) where
  key : String
  outcome : Option (Except CacheError κ)

/-- The state of a cache. -/
structure Cache (κ : Type) where
  /-- The slots, the most recently used one last. -/
  slots : List (Slot κ) := []
  /-- Why the engine could not start, once it could not. -/
  hostFailure : Option String := none
  /-- The number of look-ups that found their slot. -/
  hits : Nat := 0
  /-- The number of look-ups that made a slot. -/
  misses : Nat := 0
  /-- The number of contexts that were built. -/
  builds : Nat := 0
  /-- The number of slots that made room for others. -/
  evictions : Nat := 0
  /-- The number of calls of the engine. -/
  calls : Nat := 0

/-- The counters of a cache. -/
structure CacheStats where
  entries : Nat
  hits : Nat
  misses : Nat
  builds : Nat
  evictions : Nat
  deriving DecidableEq, Repr

namespace Cache

variable {κ : Type}

/-- The counters of a cache. -/
def stats (cache : Cache κ) : CacheStats :=
  ⟨cache.slots.length, cache.hits, cache.misses, cache.builds, cache.evictions⟩

/-- The slot of a key. -/
def slot? (cache : Cache κ) (key : String) : Option (Slot κ) :=
  cache.slots.find? fun slot => slot.key == key

/-- The number of slots that are too many. -/
def excess (options : CacheOptions) (slots : List (Slot κ)) : Nat :=
  if options.capacity = 0 then 0 else slots.length - options.capacity

/-- The cache after a look-up: the slot of the key is the most recently used one, and slots that are
too many are gone. -/
def touch (options : CacheOptions) (cache : Cache κ) (key : String) : Cache κ :=
  match cache.slot? key with
  | some slot =>
      { cache with
        hits := cache.hits + 1
        slots := (cache.slots.filter fun other => other.key != key) ++ [slot] }
  | none =>
      let slots := cache.slots ++ [⟨key, none⟩]
      { cache with
        misses := cache.misses + 1
        slots := slots.drop (excess options slots)
        evictions := cache.evictions + excess options slots }

/-- The cache with an outcome in the slot of a key. -/
def record (cache : Cache κ) (key : String) (outcome : Except CacheError κ) : Cache κ :=
  { cache with
    slots := cache.slots.map fun slot =>
      if slot.key == key then { slot with outcome := some outcome } else slot }

/-- What a cache makes of the outcome of a build. -/
def judge (options : CacheOptions) (set : ReferenceSet) :
    Outcome (ContextBuild κ) → Except CacheError κ
  | .ok build =>
      if build.failed.length ≤ options.maxFailures then .ok build.context
      else
        .error (.construction set.key
          (toString build.failed.length ++ " of " ++ toString set.references.length ++
            " references failed to load"))
  | .error (.failed .cancelled) => .error .cancelled
  | .error (.failed (.hostInit reason)) => .error (.hostUnavailable reason)
  | .error (.failed error) => .error (.construction set.key error.message)
  | .error .crashed => .error (.construction set.key "context build panicked")

/-- The cache after a build with an outcome: it is counted, and it is kept unless it was cancelled. -/
def settle (cache : Cache κ) (key : String) (outcome : Except CacheError κ) : Cache κ :=
  let cache := { cache with calls := cache.calls + 1 }
  match outcome with
  | .ok context => { cache.record key (.ok context) with builds := cache.builds + 1 }
  | .error .cancelled => cache
  | .error (.hostUnavailable reason) =>
      { cache.record key (.error (.hostUnavailable reason)) with hostFailure := some reason }
  | .error error => cache.record key (.error error)

/-- The context of a reference set, and the cache afterwards. -/
def getOrCreate (engine : Engine κ) (options : CacheOptions) (cache : Cache κ) (set : ReferenceSet)
    (isCancelled : Bool) : Except CacheError κ × Cache κ :=
  match cache.hostFailure with
  | some reason => (.error (.hostUnavailable reason), cache)
  | none =>
      let cache := cache.touch options set.key
      match (cache.slot? set.key).bind Slot.outcome with
      | some outcome => (outcome, cache)
      | none =>
          let outcome := judge options set (engine.create cache.calls set.references isCancelled)
          (outcome, cache.settle set.key outcome)

/-- The number of slots, and the cache without them. -/
def reset (cache : Cache κ) : Nat × Cache κ :=
  (cache.slots.length, { cache with slots := [] })

end Cache

/-- The engine of a toolchain. -/
def Toolchain.engine (toolchain : Toolchain) : Engine Context where
  create _ references isCancelled := toolchain.createContext references isCancelled

end SourceLens
