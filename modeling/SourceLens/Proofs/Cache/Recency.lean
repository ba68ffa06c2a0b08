import Mathlib.Algebra.Order.Group.Nat
import Mathlib.Data.List.Dedup
import Mathlib.Data.List.DropRight
import SourceLens.Proofs.Cache.Run

/-!
# Which keys a cache holds

A cache holds the keys that were looked up last, in the order of their latest look-ups, whatever came
of the builds.  The history of a run is unbounded and the cache is not, so the two are compared
through the keys that a cache without bounds would hold: `recentKeys` lists every key that was looked
up since the last reset, once, and the slots are the last of them (`AreLast`).

A look-up that finds its slot takes the key out of both lists and adds it again at the end.  A look-up
that does not may still find the key in the history, but then only in the part that was displaced.
-/

namespace SourceLens.Cache

variable {κ : Type} {engine : Engine κ} {options : CacheOptions} {cache : Cache κ}

/-- The keys of the slots, the most recently used one last. -/
def keys (cache : Cache κ) : List String :=
  cache.slots.map Slot.key

/-- The last of some keys, as many as a cache keeps. -/
def lastOf (options : CacheOptions) (keys : List String) : List String :=
  if options.capacity = 0 then keys else keys.rtake options.capacity

section Keys

variable {key : String}

theorem slot?_eq_none_iff : cache.slot? key = none ↔ key ∉ cache.keys := by
  simp [slot?, keys]

@[simp]
theorem keys_settle (outcome : Except CacheError κ) : (cache.settle key outcome).keys = cache.keys := by
  rcases slots_settle_cases cache key outcome with ⟨-, same⟩ | ⟨-, recorded⟩
  · simp only [keys, same]
  · simp only [keys, recorded, record, List.map_map]
    apply List.map_congr_left
    intro slot _
    simp only [Function.comp_apply]
    split <;> rfl

theorem slots_touch_of_some {slot : Slot κ} (found : cache.slot? key = some slot) :
    (cache.touch options key).slots = (cache.slots.filter fun other => other.key != key) ++ [slot] := by
  simp [touch, found]

/-- The number of slots that make room for one more. -/
def displacing (options : CacheOptions) (cache : Cache κ) : Nat :=
  if options.capacity = 0 then 0 else cache.slots.length + 1 - options.capacity

theorem slots_touch_of_none (missing : cache.slot? key = none) :
    (cache.touch options key).slots = cache.slots.drop (cache.displacing options) ++ [⟨key, none⟩] := by
  have notAll : cache.displacing options ≤ cache.slots.length := by
    simp only [displacing]
    split <;> omega
  simp only [touch, missing, excess, List.length_append, List.length_singleton]
  exact List.drop_append_of_le_length notAll

theorem keys_touch_of_mem (present : key ∈ cache.keys) :
    (cache.touch options key).keys = cache.keys.filter (· != key) ++ [key] := by
  cases found : cache.slot? key with
  | none => exact absurd present (slot?_eq_none_iff.mp found)
  | some slot =>
      have keyEq := (mem_of_slot?_eq_some found).2
      simp [keys, slots_touch_of_some found, List.filter_map, Function.comp_def, keyEq]

theorem keys_touch_of_not_mem (absent : key ∉ cache.keys) :
    (cache.touch options key).keys = lastOf options (cache.keys ++ [key]) := by
  rw [keys, slots_touch_of_none (slot?_eq_none_iff.mpr absent)]
  by_cases unbounded : options.capacity = 0
  · simp [keys, lastOf, displacing, unbounded]
  · have notAll : cache.keys.length + 1 - options.capacity ≤ cache.keys.length := by omega
    simp [lastOf, displacing, unbounded, List.rtake, List.drop_append_of_le_length notAll]
    simp [keys]

/-- Once the engine has failed to start, look-ups change nothing. -/
theorem step_lookUp_of_hostFailure {reason : String} (host : cache.hostFailure = some reason)
    (set : ReferenceSet) (isCancelled : Bool) :
    cache.step engine options (.lookUp set isCancelled) = cache := by
  simp [step, getOrCreate, host]

theorem keys_step_lookUp (host : cache.hostFailure = none) (set : ReferenceSet)
    (isCancelled : Bool) :
    (cache.step engine options (.lookUp set isCancelled)).keys =
      (cache.touch options set.key).keys := by
  rcases getOrCreate_cases engine options cache set isCancelled with
    ⟨reason, failed, -⟩ | ⟨outcome, -, -, result⟩ | ⟨-, -, result⟩
  · simp [host] at failed
  · simp [step, result]
  · simp [step, result]

/-- A failure of the engine to start is there to stay. -/
theorem hostFailure_eq_none_of_step {event : Event}
    (host : (cache.step engine options event).hostFailure = none) : cache.hostFailure = none := by
  cases failed : cache.hostFailure with
  | none => rfl
  | some reason =>
      cases event with
      | lookUp set isCancelled =>
          rw [step_lookUp_of_hostFailure failed, failed] at host
          cases host
      | reset => simp [step, reset, failed] at host

end Keys

/-- Whether some keys are the last of others: all of them, or as many as a cache keeps. -/
structure AreLast (options : CacheOptions) (all last : List String) : Prop where
  suffix : last <:+ all
  fits : options.capacity = 0 ∨ last.length ≤ options.capacity
  full : last = all ∨ options.capacity ≠ 0 ∧ last.length = options.capacity

section AreLast

variable {all last : List String} {key : String}

theorem areLast_lastOf (options : CacheOptions) (all : List String) :
    AreLast options all (lastOf options all) := by
  by_cases unbounded : options.capacity = 0
  · simp only [lastOf, if_pos unbounded]
    exact ⟨List.suffix_refl all, .inl unbounded, .inl rfl⟩
  · have length : (all.rtake options.capacity).length = min options.capacity all.length := by
      simp [List.rtake]
      omega
    simp only [lastOf, if_neg unbounded]
    refine ⟨List.drop_suffix _ all, .inr (by omega), ?_⟩
    by_cases short : all.length ≤ options.capacity
    · left
      simp [List.rtake, Nat.sub_eq_zero_of_le short]
    · right
      exact ⟨unbounded, by omega⟩

theorem AreLast.eq_lastOf (areLast : AreLast options all last) : last = lastOf options all := by
  have fits := areLast.fits
  rcases areLast.suffix with ⟨older, rfl⟩
  by_cases unbounded : options.capacity = 0
  · simpa [lastOf, unbounded] using areLast.full
  · have displaced : (older ++ last).length - options.capacity = older.length := by
      rcases areLast.full with same | ⟨-, length⟩
      · have noneOlder : older = [] := List.append_left_eq_self.mp same.symm
        simp [noneOlder]
        omega
      · simp [length]
    rw [lastOf, if_neg unbounded, List.rtake, displaced]
    simp

/-- A key among the last ones moves to the end. -/
theorem AreLast.hit (areLast : AreLast options all last) (nodup : all.Nodup)
    (present : key ∈ last) :
    AreLast options (all.filter (· != key) ++ [key]) (last.filter (· != key) ++ [key]) := by
  rcases areLast.suffix with ⟨older, rfl⟩
  rcases List.nodup_append.mp nodup with ⟨-, lastNodup, apart⟩
  -- No key is there twice, so the older ones stay as they are.
  have olderKept : older.filter (· != key) = older := by
    apply List.filter_bne_eq_self_of_not_mem
    intro member
    exact apart key member key present rfl
  have sameLength : (last.filter (· != key) ++ [key]).length = last.length := by
    have nonempty := List.length_pos_of_mem present
    rw [← lastNodup.erase_eq_filter, List.length_append, List.length_erase_of_mem present]
    simp
    omega
  refine ⟨⟨older, by simp [olderKept]⟩, ?_, ?_⟩
  · rw [sameLength]
    exact areLast.fits
  · rw [sameLength]
    rcases areLast.full with same | full
    · left
      simp [List.append_left_eq_self.mp same.symm]
    · exact .inr full

/-- A key that is not among the last ones displaces the first of them if they are as many as a cache
keeps.  Where it stood before, if anywhere, is out of sight. -/
theorem AreLast.miss (areLast : AreLast options all last) (absent : key ∉ last) :
    AreLast options (all.filter (· != key) ++ [key]) (lastOf options (last ++ [key])) := by
  have lastKept : last.filter (· != key) = last := List.filter_bne_eq_self_of_not_mem absent
  have new := areLast_lastOf options (last ++ [key])
  rcases areLast.suffix with ⟨older, rfl⟩
  rcases new.suffix with ⟨displaced, split⟩
  refine ⟨⟨older.filter (· != key) ++ displaced, by simp [lastKept, split]⟩, new.fits, ?_⟩
  rcases areLast.full with same | ⟨bounded, length⟩
  · have noneOlder : older = [] := List.append_left_eq_self.mp same.symm
    simpa [noneOlder, lastKept] using new.full
  · -- The last ones were as many as a cache keeps, so they cannot all stay with one more.
    rcases new.full with roomLeft | full
    · have tooMany := new.fits
      simp [roomLeft, bounded, length] at tooMany
    · exact .inr full

theorem AreLast.touch (areLast : AreLast options all cache.keys) (nodup : all.Nodup)
    (key : String) :
    AreLast options (all.filter (· != key) ++ [key]) (cache.touch options key).keys := by
  by_cases present : key ∈ cache.keys
  · rw [keys_touch_of_mem present]
    exact areLast.hit nodup present
  · rw [keys_touch_of_not_mem present]
    exact areLast.miss present

end AreLast

/-- The key that an event looks up. -/
def Event.key? : Event → Option String
  | .lookUp set _ => some set.key
  | .reset => none

/-- The keys that were looked up since the last reset, each of them once, in the order of their latest
look-ups. -/
def recentKeys (events : List Event) : List String :=
  ((events.rtakeWhile fun event => event.key?.isSome).filterMap Event.key?).dedup

theorem dedup_append_singleton (keys : List String) (key : String) :
    (keys ++ [key]).dedup = keys.dedup.filter (· != key) ++ [key] := by
  induction keys with
  | nil => simp
  | cons first keys ih =>
      by_cases again : first ∈ keys
      · simpa [List.dedup_cons_of_mem, again] using ih
      · by_cases same : first = key
        · subst same
          simpa [List.dedup_cons_of_notMem, again] using ih
        · simp [List.dedup_cons_of_notMem, again, same, ih]

@[simp]
theorem recentKeys_reset (events : List Event) : recentKeys (events ++ [.reset]) = [] := by
  simp [recentKeys, Event.key?]

@[simp]
theorem recentKeys_lookUp (events : List Event) (set : ReferenceSet) (isCancelled : Bool) :
    recentKeys (events ++ [.lookUp set isCancelled]) =
      (recentKeys events).filter (· != set.key) ++ [set.key] := by
  simp [recentKeys, List.rtakeWhile_concat_pos, Event.key?, dedup_append_singleton]

/-- What a cache holds after a run are the last of the recent keys. -/
theorem areLast_run {events : List Event}
    (host : (({} : Cache κ).run engine options events).hostFailure = none) :
    AreLast options (recentKeys events) (({} : Cache κ).run engine options events).keys := by
  -- What a key's latest look-up is, and what the last reset is, shows from the end.
  induction events using List.reverseRecOn with
  | nil => exact ⟨List.suffix_refl [], .inr (Nat.zero_le _), .inl rfl⟩
  | append_singleton events event ih =>
      simp only [run_append, run_cons, run_nil] at host ⊢
      have earlier := hostFailure_eq_none_of_step host
      cases event with
      | lookUp set isCancelled =>
          rw [recentKeys_lookUp, keys_step_lookUp earlier]
          exact (ih earlier).touch (List.nodup_dedup _) set.key
      | reset =>
          rw [recentKeys_reset]
          exact ⟨List.suffix_refl [], .inr (Nat.zero_le _), .inl rfl⟩

/-- Along every run without a failure of the engine to start, whatever came of the builds, the cache
holds the last of the distinct keys that were looked up since the last reset, in the order of their
latest look-ups: as many as its capacity, or all of them. -/
theorem keys_run_eq_lastOf_recentKeys (engine : Engine κ) (options : CacheOptions)
    (events : List Event)
    (host : (({} : Cache κ).run engine options events).hostFailure = none) :
    (({} : Cache κ).run engine options events).keys = lastOf options (recentKeys events) :=
  (areLast_run host).eq_lastOf

/-- An engine whose contexts are the references that they were built from, unless it is told to stop. -/
def obedient : Engine (List String) where
  create _ references isCancelled :=
    if isCancelled then .error (.failed .cancelled) else .ok ⟨references, []⟩

/-- In a cache for two, the third key displaces the second although its build was cancelled, and the
second comes back. -/
theorem keys_run_eq_lastOf_displaced :
    let events : List Event := [.lookUp ⟨["z"]⟩ false, .reset, .lookUp ⟨["a"]⟩ false,
      .lookUp ⟨["b"]⟩ false, .lookUp ⟨["a"]⟩ false, .lookUp ⟨["c"]⟩ true, .lookUp ⟨["b"]⟩ false]
    let cache := ({} : Cache (List String)).run obedient ⟨2, 0⟩ events
    cache.hostFailure = none ∧ cache.keys = lastOf ⟨2, 0⟩ (recentKeys events) ∧
      cache.keys = ["c", "b"] := by
  intro events cache
  have host : cache.hostFailure = none := by decide
  refine ⟨host, keys_run_eq_lastOf_recentKeys obedient ⟨2, 0⟩ events host, ?_⟩
  decide

end SourceLens.Cache
