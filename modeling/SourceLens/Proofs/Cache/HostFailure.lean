import SourceLens.Proofs.Cache.Recency

/-!
# An engine that could not start

The first call of an engine that ends because the engine could not start is also the last call.  The
reason is recorded outside of the slots, where neither displacement nor a reset reaches it, and it is
looked at before anything else.  From then on a look-up is answered with the reason and leaves the cache
as it is; of all events only a reset still does something, and it does no more than to drop the slots.

Calls are told by their number in the log of a run (`callLog`), since an engine may answer equal
references differently.
-/

namespace SourceLens.Cache

variable {κ : Type} {engine : Engine κ} {options : CacheOptions} {cache : Cache κ} {event : Event}
  {call : Call} {reason : String}

/-- Whether an event empties the cache. -/
def Event.isReset : Event → Bool
  | .lookUp _ _ => false
  | .reset => true

section Failed

variable (host : cache.hostFailure = some reason)
include host

theorem getOrCreate_of_hostFailure (set : ReferenceSet) (isCancelled : Bool) :
    cache.getOrCreate engine options set isCancelled =
      (.error (.hostUnavailable reason), cache) := by
  simp [getOrCreate, host]

theorem step_of_hostFailure (event : Event) :
    cache.step engine options event = if event.isReset then cache.reset.2 else cache := by
  cases event with
  | lookUp set isCancelled => simp [step_lookUp_of_hostFailure host, Event.isReset]
  | reset => rfl

/-- After the failure, a run does no more than its resets, and one of them does as much as many. -/
theorem run_of_hostFailure (events : List Event) :
    cache.run engine options events =
      if events.any Event.isReset then cache.reset.2 else cache := by
  induction events generalizing cache with
  | nil => rfl
  | cons event events ih =>
      rw [run_cons, step_of_hostFailure host]
      cases isReset : event.isReset with
      | false => simpa [isReset] using ih host
      | true =>
          have emptied : cache.reset.2.hostFailure = some reason := host
          have twice : cache.reset.2.reset.2 = cache.reset.2 := rfl
          simp [isReset, ih emptied, twice]

theorem hostFailure_run_of_hostFailure (events : List Event) :
    (cache.run engine options events).hostFailure = some reason := by
  rw [run_of_hostFailure host]
  split <;> exact host

theorem callOf_of_hostFailure (event : Event) : cache.callOf options event = none := by
  cases event <;> simp [callOf, host]

theorem callLog_of_hostFailure (events : List Event) :
    callLog engine options cache events = [] := by
  induction events generalizing cache with
  | nil => rfl
  | cons event events ih =>
      have stillFailed : (cache.step engine options event).hostFailure = some reason :=
        hostFailure_run_of_hostFailure host [event]
      simp [callLog, callOf_of_hostFailure host, ih stillFailed]

end Failed

/-- An event that calls the engine makes the slot of some key and settles the outcome of the call. -/
theorem exists_step_of_callOf (engine : Engine κ)
    (calls : cache.callOf options event = some call) :
    ∃ key, cache.step engine options event =
      (cache.touch options key).settle key (call.verdict engine options cache.calls) := by
  cases event with
  | reset => simp [callOf] at calls
  | lookUp set isCancelled =>
      simp only [callOf, Option.ite_none_right_eq_some, Option.some.injEq] at calls
      rcases calls with ⟨⟨host, memory⟩, rfl⟩
      rcases getOrCreate_cases engine options cache set isCancelled with
        ⟨reason, failed, -⟩ | ⟨outcome, -, remembered, -⟩ | ⟨-, -, result⟩
      · simp [failed] at host
      · simp [remembered] at memory
      · exact ⟨set.key, by rw [step, result]; rfl⟩

theorem calls_step_of_callOf (calls : cache.callOf options event = some call) :
    (cache.step engine options event).calls = cache.calls + 1 := by
  rcases exists_step_of_callOf engine calls with ⟨key, stepEq⟩
  simp [stepEq]

theorem calls_step_of_no_call (silent : cache.callOf options event = none) :
    (cache.step engine options event).calls = cache.calls := by
  cases event with
  | reset => rfl
  | lookUp set isCancelled =>
      rcases getOrCreate_cases engine options cache set isCancelled with
        ⟨reason, -, result⟩ | ⟨outcome, -, -, result⟩ | ⟨host, memory, -⟩
      · simp [step, result]
      · simp [step, result]
      · simp [callOf, host, memory] at silent

/-- A call that ends because the engine could not start leaves its reason in the cache. -/
theorem hostFailure_step_of_callOf (calls : cache.callOf options event = some call)
    (failed : engine.create cache.calls call.references call.isCancelled =
      .error (.failed (.hostInit reason))) :
    (cache.step engine options event).hostFailure = some reason := by
  rcases exists_step_of_callOf engine calls with ⟨key, stepEq⟩
  simp [stepEq, Call.verdict, failed, judge, settle]

/-- After a run with such a call the reason is in the cache, and the call was the last one. -/
theorem hostFailure_run_of_callLog {events : List Event} {number : Nat}
    (made : (callLog engine options cache events)[number]? = some call)
    (failed : engine.create (cache.calls + number) call.references call.isCancelled =
      .error (.failed (.hostInit reason))) :
    (cache.run engine options events).hostFailure = some reason ∧
      (callLog engine options cache events).length = number + 1 := by
  -- The number of a call counts the calls since the start, so it moves on with every call.
  induction events generalizing cache number with
  | nil => simp [callLog] at made
  | cons event events ih =>
      cases calls : cache.callOf options event with
      | none =>
          simp only [callLog, calls, Option.toList_none, List.nil_append] at made ⊢
          apply ih made
          rwa [calls_step_of_no_call calls]
      | some first =>
          simp only [callLog, calls, Option.toList_some, List.singleton_append] at made ⊢
          cases number with
          | zero =>
              obtain rfl : first = call := by simpa using made
              have host := hostFailure_step_of_callOf calls failed
              refine ⟨hostFailure_run_of_hostFailure host events, ?_⟩
              simp [callLog_of_hostFailure host]
          | succ number =>
              rw [List.getElem?_cons_succ] at made
              have later := ih made (by
                rwa [calls_step_of_callOf calls, Nat.add_right_comm, Nat.add_assoc])
              exact ⟨later.1, by simp [later.2]⟩

/-- Along every run of every engine, once a call has ended because the engine could not start, each
later look-up is answered with the reason and changes nothing in the cache, neither slots nor their
order nor counters; the engine is not called again, so no other reason can follow; and of all later
events only resets show, by the slots that they drop. -/
theorem getOrCreate_run_of_hostInit (engine : Engine κ) (options : CacheOptions)
    (events later : List Event) (number : Nat) (call : Call) (reason : String)
    (made : (callLog engine options ({} : Cache κ) events)[number]? = some call)
    (failed : engine.create number call.references call.isCancelled =
      .error (.failed (.hostInit reason)))
    (set : ReferenceSet) (isCancelled : Bool) :
    let earlier := ({} : Cache κ).run engine options events
    let cache := ({} : Cache κ).run engine options (events ++ later)
    cache.getOrCreate engine options set isCancelled =
        (.error (.hostUnavailable reason), cache) ∧
      cache = (if later.any Event.isReset then earlier.reset.2 else earlier) ∧
      (callLog engine options ({} : Cache κ)
        (events ++ later ++ [.lookUp set isCancelled])).length = number + 1 ∧
      cache.calls = number + 1 := by
  intro earlier cache
  have startsAtZero : ({} : Cache κ).calls + number = number := Nat.zero_add number
  rcases hostFailure_run_of_callLog made (by rwa [startsAtZero]) with ⟨host, isLast⟩
  have cacheEq : cache = earlier.run engine options later := run_append events later
  have stillFailed : cache.hostFailure = some reason := by
    rw [cacheEq]
    exact hostFailure_run_of_hostFailure host later
  have initial : Traced engine options [] ({} : Cache κ) := .empty
  have counted := (initial.run events).counted
  refine ⟨getOrCreate_of_hostFailure stillFailed set isCancelled, ?_, ?_, ?_⟩
  · rw [cacheEq, run_of_hostFailure host]
  · rw [List.append_assoc, callLog_append, callLog_of_hostFailure host, List.append_nil, isLast]
  · have sameCalls : cache.calls = earlier.calls := by
      rw [cacheEq, run_of_hostFailure host]
      split <;> rfl
    rw [sameCalls, counted, List.nil_append, isLast]

/-- An engine that starts twice and then gives another reason at each call. -/
def exhausted : Engine (List String) where
  create number references _ :=
    if number < 2 then .ok ⟨references, []⟩
    else .error (.failed (.hostInit ("attempt " ++ toString number)))

/-- The third call fails while its slot displaces another one.  Neither a key that is still there, nor a
new one, nor a reset brings the engine back. -/
theorem getOrCreate_run_of_hostInit_third :
    let events : List Event :=
      [.lookUp ⟨["a"]⟩ false, .lookUp ⟨["b"]⟩ false, .lookUp ⟨["c"]⟩ false, .lookUp ⟨["b"]⟩ false]
    let later : List Event := [.reset, .lookUp ⟨["a"]⟩ true, .reset]
    let cache := ({} : Cache (List String)).run exhausted ⟨2, 0⟩ (events ++ later)
    (callLog exhausted ⟨2, 0⟩ ({} : Cache (List String)) events)[2]? = some ⟨["c"], false⟩ ∧
      cache.getOrCreate exhausted ⟨2, 0⟩ ⟨["d"]⟩ false =
        (.error (.hostUnavailable "attempt 2"), cache) ∧
      cache.calls = 3 ∧ cache.stats = ⟨0, 0, 3, 2, 1⟩ := by
  intro events later cache
  have made : (callLog exhausted ⟨2, 0⟩ ({} : Cache (List String)) events)[2]? =
      some ⟨["c"], false⟩ := by rfl
  have inert := getOrCreate_run_of_hostInit exhausted ⟨2, 0⟩ events later 2 ⟨["c"], false⟩ "attempt 2"
    made rfl ⟨["d"]⟩ false
  exact ⟨made, inert.1, inert.2.2.2, by decide⟩

end SourceLens.Cache
