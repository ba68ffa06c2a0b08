import SourceLens.Cache

/-!
# Runs of a cache

A run is a sequence of look-ups and resets from the empty cache.  This file says once what a look-up
can do (`getOrCreate_cases`), and keeps a log of the calls of the engine that a run makes.  The
invariant `Traced` ties the two together: the outcome in every filled slot is what the cache made of
one of the calls in the log, and that call was for references with the key of the slot.
-/

namespace SourceLens.Cache

variable {κ : Type} {engine : Engine κ} {options : CacheOptions} {cache : Cache κ}

section Slots

theorem mem_of_slot?_eq_some {key : String} {slot : Slot κ} (found : cache.slot? key = some slot) :
    slot ∈ cache.slots ∧ slot.key = key := by
  refine ⟨List.mem_of_find?_eq_some found, ?_⟩
  simpa using List.find?_some found

@[simp]
theorem touch_calls (key : String) : (cache.touch options key).calls = cache.calls := by
  unfold touch
  split <;> rfl

@[simp]
theorem touch_hostFailure (key : String) :
    (cache.touch options key).hostFailure = cache.hostFailure := by
  unfold touch
  split <;> rfl

/-- A look-up keeps some of the slots and adds at most an empty one. -/
theorem mem_touch {key : String} {slot : Slot κ}
    (member : slot ∈ (cache.touch options key).slots) :
    slot ∈ cache.slots ∨ slot = ⟨key, none⟩ := by
  unfold touch at member
  split at member
  next slot' found =>
    simp only [List.mem_append, List.mem_filter, List.mem_singleton] at member
    rcases member with ⟨member, -⟩ | rfl
    · exact .inl member
    · exact .inl (mem_of_slot?_eq_some found).1
  next =>
    have kept := List.mem_of_mem_drop member
    simpa using kept

@[simp]
theorem settle_calls (key : String) (outcome : Except CacheError κ) :
    (cache.settle key outcome).calls = cache.calls + 1 := by
  unfold settle
  split <;> rfl

/-- A cancelled build leaves the slots as they are, and the outcome of any other is recorded. -/
theorem slots_settle_cases (cache : Cache κ) (key : String) (outcome : Except CacheError κ) :
    (outcome = .error .cancelled ∧ (cache.settle key outcome).slots = cache.slots) ∨
      (outcome ≠ .error .cancelled ∧
        (cache.settle key outcome).slots = (cache.record key outcome).slots) := by
  rcases outcome with error | context
  · cases error with
    | hostUnavailable reason => exact .inr ⟨by simp, rfl⟩
    | construction key' reason => exact .inr ⟨by simp, rfl⟩
    | cancelled => exact .inl ⟨rfl, rfl⟩
  · exact .inr ⟨by simp, rfl⟩

/-- After a build, a slot is one from before or holds the outcome under the key. -/
theorem mem_settle {key : String} {outcome : Except CacheError κ} {slot : Slot κ}
    (member : slot ∈ (cache.settle key outcome).slots) :
    slot ∈ cache.slots ∨ slot = ⟨key, some outcome⟩ := by
  rcases slots_settle_cases cache key outcome with ⟨-, same⟩ | ⟨-, recorded⟩
  · rw [same] at member
    exact .inl member
  · simp only [recorded, record, List.mem_map] at member
    rcases member with ⟨old, oldMember, rfl⟩
    split
    next sameKey => exact .inr (by simpa using sameKey)
    next => exact .inl oldMember

end Slots

/-- What a slot remembers of a key after a look-up of it. -/
def remembered? (options : CacheOptions) (cache : Cache κ) (key : String) :
    Option (Except CacheError κ) :=
  ((cache.touch options key).slot? key).bind Slot.outcome

/-- All that asking for a context can do: repeat the failure of the engine to start, return what is
remembered, or build. -/
theorem getOrCreate_cases (engine : Engine κ) (options : CacheOptions) (cache : Cache κ)
    (set : ReferenceSet) (isCancelled : Bool) :
    (∃ reason, cache.hostFailure = some reason ∧
      cache.getOrCreate engine options set isCancelled =
        (.error (.hostUnavailable reason), cache)) ∨
    (∃ outcome, cache.hostFailure = none ∧ cache.remembered? options set.key = some outcome ∧
      cache.getOrCreate engine options set isCancelled =
        (outcome, cache.touch options set.key)) ∨
    (cache.hostFailure = none ∧ cache.remembered? options set.key = none ∧
      cache.getOrCreate engine options set isCancelled =
        (judge options set (engine.create cache.calls set.references isCancelled),
          (cache.touch options set.key).settle set.key
            (judge options set (engine.create cache.calls set.references isCancelled)))) := by
  cases host : cache.hostFailure with
  | some reason =>
      left
      exact ⟨reason, rfl, by simp [getOrCreate, host]⟩
  | none =>
      right
      cases memory : cache.remembered? options set.key with
      | some outcome =>
          left
          refine ⟨outcome, rfl, rfl, ?_⟩
          rw [remembered?] at memory
          simp [getOrCreate, host, memory]
      | none =>
          right
          refine ⟨rfl, rfl, ?_⟩
          rw [remembered?] at memory
          simp [getOrCreate, host, memory]

/-- What is remembered was in a slot of the key before. -/
theorem exists_mem_of_remembered? {key : String} {outcome : Except CacheError κ}
    (memory : cache.remembered? options key = some outcome) :
    ∃ slot ∈ cache.slots, slot.key = key ∧ slot.outcome = some outcome := by
  rw [remembered?, Option.bind_eq_some_iff] at memory
  rcases memory with ⟨slot, found, filled⟩
  rcases mem_of_slot?_eq_some found with ⟨member, keyEq⟩
  rcases mem_touch member with old | rfl
  · exact ⟨slot, old, keyEq, filled⟩
  · cases filled

/-- What is asked of a cache. -/
inductive Event where
  | lookUp (set : ReferenceSet) (isCancelled : Bool)
  | reset

/-- The cache after an event. -/
def step (engine : Engine κ) (options : CacheOptions) (cache : Cache κ) : Event → Cache κ
  | .lookUp set isCancelled => (cache.getOrCreate engine options set isCancelled).2
  | .reset => cache.reset.2

/-- The cache after a sequence of events. -/
def run (engine : Engine κ) (options : CacheOptions) (cache : Cache κ) (events : List Event) :
    Cache κ :=
  events.foldl (step engine options) cache

@[simp]
theorem run_nil : cache.run engine options [] = cache := rfl

@[simp]
theorem run_cons (event : Event) (events : List Event) :
    cache.run engine options (event :: events) =
      (cache.step engine options event).run engine options events := rfl

@[simp]
theorem run_append (first second : List Event) :
    cache.run engine options (first ++ second) =
      (cache.run engine options first).run engine options second := by
  simp [run]

/-- A call of the engine. -/
structure Call where
  /-- The references that a context was asked for. -/
  references : List String
  /-- Whether the request was cancelled. -/
  isCancelled : Bool

/-- The call that an event makes: a look-up builds when the engine has not failed to start and
nothing is remembered. -/
def callOf (options : CacheOptions) (cache : Cache κ) : Event → Option Call
  | .lookUp set isCancelled =>
      if cache.hostFailure.isNone ∧ (cache.remembered? options set.key).isNone then
        some ⟨set.references, isCancelled⟩
      else none
  | .reset => none

/-- The calls that a sequence of events makes. -/
def callLog (engine : Engine κ) (options : CacheOptions) : Cache κ → List Event → List Call
  | _, [] => []
  | cache, event :: events =>
      (cache.callOf options event).toList ++
        callLog engine options (cache.step engine options event) events

/-- What a cache makes of a call, given the number of calls before it. -/
def Call.verdict (engine : Engine κ) (options : CacheOptions) (call : Call) (number : Nat) :
    Except CacheError κ :=
  judge options ⟨call.references⟩ (engine.create number call.references call.isCancelled)

/-- Whether an outcome is what the cache made of a call in a log. -/
def Produced (engine : Engine κ) (options : CacheOptions) (log : List Call)
    (outcome : Except CacheError κ) (call : Call) : Prop :=
  ∃ number, log[number]? = some call ∧ outcome = call.verdict engine options number

theorem Produced.mem {log : List Call} {outcome : Except CacheError κ} {call : Call}
    (produced : Produced engine options log outcome call) : call ∈ log := by
  rcases produced with ⟨number, atNumber, -⟩
  exact List.mem_of_getElem? atNumber

theorem Produced.append {log : List Call} {outcome : Except CacheError κ} {call : Call}
    (produced : Produced engine options log outcome call) (later : List Call) :
    Produced engine options (log ++ later) outcome call := by
  rcases produced with ⟨number, atNumber, outcomeEq⟩
  refine ⟨number, ?_, outcomeEq⟩
  rcases List.getElem?_eq_some_iff.mp atNumber with ⟨inLog, -⟩
  rw [List.getElem?_append_left inLog, atNumber]

/-- The invariant of runs: the log has all the calls that were counted, and every filled slot holds
what came of a call for references with its key. -/
structure Traced (engine : Engine κ) (options : CacheOptions) (log : List Call) (cache : Cache κ) :
    Prop where
  /-- All calls are in the log. -/
  counted : cache.calls = log.length
  /-- Every filled slot comes from a call in the log. -/
  filled : ∀ slot ∈ cache.slots, ∀ outcome, slot.outcome = some outcome →
    ∃ call, Produced engine options log outcome call ∧
      (ReferenceSet.mk call.references).key = slot.key

theorem Traced.empty : Traced engine options [] ({} : Cache κ) :=
  ⟨rfl, by simp⟩

theorem Traced.touch {log : List Call} (traced : Traced engine options log cache) (key : String) :
    Traced engine options log (cache.touch options key) := by
  refine ⟨by simp [traced.counted], ?_⟩
  intro slot member outcome holds
  rcases mem_touch member with old | rfl
  · exact traced.filled slot old outcome holds
  · cases holds

/-- The call of a build is the next one of the log. -/
theorem Traced.produced_new {log : List Call} (traced : Traced engine options log cache)
    (set : ReferenceSet) (isCancelled : Bool) :
    Produced engine options (log ++ [⟨set.references, isCancelled⟩])
      (judge options set (engine.create cache.calls set.references isCancelled))
      ⟨set.references, isCancelled⟩ := by
  refine ⟨cache.calls, ?_, rfl⟩
  rw [traced.counted, List.getElem?_append_right (Nat.le_refl _)]
  simp

theorem Traced.settle {log : List Call} (traced : Traced engine options log cache)
    {key : String} {outcome : Except CacheError κ} {call : Call}
    (produced : Produced engine options (log ++ [call]) outcome call)
    (keyEq : (ReferenceSet.mk call.references).key = key) :
    Traced engine options (log ++ [call]) (cache.settle key outcome) := by
  refine ⟨by simp [traced.counted], ?_⟩
  intro slot member outcome' holds
  rcases mem_settle member with old | rfl
  · rcases traced.filled slot old outcome' holds with ⟨call', produced', keyEq'⟩
    exact ⟨call', produced'.append [call], keyEq'⟩
  · cases holds
    exact ⟨call, produced, keyEq⟩

/-- A look-up returns the failure of the engine to start, or what came of a call for references with
the key that was looked up. -/
theorem Traced.getOrCreate {log : List Call} (traced : Traced engine options log cache)
    (set : ReferenceSet) (isCancelled : Bool) :
    Traced engine options (log ++ (cache.callOf options (.lookUp set isCancelled)).toList)
      (cache.getOrCreate engine options set isCancelled).2 ∧
    ((∃ reason, cache.hostFailure = some reason ∧
        (cache.getOrCreate engine options set isCancelled).1 = .error (.hostUnavailable reason)) ∨
      ∃ call, Produced engine options
          (log ++ (cache.callOf options (.lookUp set isCancelled)).toList)
          (cache.getOrCreate engine options set isCancelled).1 call ∧
        (ReferenceSet.mk call.references).key = set.key) := by
  rcases getOrCreate_cases engine options cache set isCancelled with
    ⟨reason, host, result⟩ | ⟨outcome, host, memory, result⟩ | ⟨host, memory, result⟩
  · simp only [callOf, host, result]
    simpa using traced
  · rcases exists_mem_of_remembered? memory with ⟨slot, member, keyEq, holds⟩
    rcases traced.filled slot member outcome holds with ⟨call, produced, callKey⟩
    simp only [callOf, memory, result]
    refine ⟨by simpa using traced.touch set.key, .inr ⟨call, by simpa using produced, ?_⟩⟩
    rw [callKey, keyEq]
  · have produced := traced.produced_new set isCancelled
    simp only [callOf, host, memory, result]
    refine ⟨?_, .inr ⟨⟨set.references, isCancelled⟩, by simpa using produced, rfl⟩⟩
    simpa using (traced.touch set.key).settle produced rfl

theorem Traced.step {log : List Call} (traced : Traced engine options log cache) (event : Event) :
    Traced engine options (log ++ (cache.callOf options event).toList)
      (cache.step engine options event) := by
  cases event with
  | lookUp set isCancelled => exact (traced.getOrCreate set isCancelled).1
  | reset =>
      refine ⟨?_, ?_⟩
      · simpa [callOf, Cache.step, reset] using traced.counted
      · simp [Cache.step, reset]

/-- Every cache that a run reaches is traced by the calls of the run. -/
theorem Traced.run {log : List Call} (traced : Traced engine options log cache)
    (events : List Event) :
    Traced engine options (log ++ callLog engine options cache events)
      (cache.run engine options events) := by
  induction events generalizing log cache with
  | nil => simpa [callLog, Cache.run] using traced
  | cons event events ih =>
      have later := ih (traced.step event)
      simpa [callLog, Cache.run] using later

/-- The calls of a run are for the references that were looked up. -/
theorem exists_lookUp_of_mem_callLog {events : List Event} {call : Call}
    (member : call ∈ callLog engine options cache events) :
    ∃ set, .lookUp set call.isCancelled ∈ events ∧ call.references = set.references := by
  induction events generalizing cache with
  | nil => simp [callLog] at member
  | cons event events ih =>
      rw [callLog, List.mem_append] at member
      rcases member with now | later
      · cases event with
        | lookUp set isCancelled =>
            simp only [callOf, Option.mem_toList] at now
            split at now
            · cases now
              exact ⟨set, List.mem_cons_self, rfl⟩
            · cases now
        | reset => simp [callOf] at now
      · rcases ih later with ⟨set, inEvents, referencesEq⟩
        exact ⟨set, List.mem_cons_of_mem _ inEvents, referencesEq⟩

theorem callLog_append (first second : List Event) :
    callLog engine options cache (first ++ second) =
      callLog engine options cache first ++
        callLog engine options (cache.run engine options first) second := by
  induction first generalizing cache with
  | nil => rfl
  | cons event first ih => simp [callLog, ih, run]

end SourceLens.Cache
