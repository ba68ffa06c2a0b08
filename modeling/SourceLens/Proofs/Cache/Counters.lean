import SourceLens.Proofs.Cache.Retention

/-!
# The counters of a cache balance

Every look-up that is not turned away is a hit or a miss, and every miss makes one slot, which is still
there, was displaced or was dropped by a reset.  So the counters, which are kept in different places, are
bound to each other and to what the cache did along the way (`tally`).

A context is built into a slot that waits for an outcome, and fills it.  So no slot is built into twice,
and the slots that still wait can be added to the builds without exceeding the misses.  This is what the
invariant `Balanced` says of the builds; without the waiting slots it would not be kept.
-/

namespace SourceLens.Cache

variable {κ : Type} {engine : Engine κ} {options : CacheOptions} {cache : Cache κ} {key : String}

/-- The number of slots that wait for an outcome. -/
def waiting (cache : Cache κ) : Nat :=
  cache.slots.countP fun slot => slot.outcome.isNone

section Slots

/-- A look-up that finds its slot only moves it. -/
theorem perm_touch_of_mem (tidy : Tidy options cache) (present : key ∈ cache.keys) :
    (cache.touch options key).slots.Perm cache.slots := by
  cases found : cache.slot? key with
  | none => exact absurd present (slot?_eq_none_iff.mp found)
  | some slot =>
      rw [List.perm_ext_iff_of_nodup (tidy.touch key).nodup.of_map tidy.nodup.of_map,
        slots_touch_of_some found]
      intro other
      have isFound := (slot?_eq_some_iff tidy.nodup).mp found
      have isOnly : other ∈ cache.slots → other.key = key → other = slot := by
        intro member sameKey
        have again := (slot?_eq_some_iff tidy.nodup).mpr ⟨member, sameKey⟩
        exact Option.some.inj (again.symm.trans found)
      simp only [List.mem_append, List.mem_filter, bne_iff_ne, List.mem_singleton]
      grind

@[simp]
theorem length_slots_settle (outcome : Except CacheError κ) :
    (cache.settle key outcome).slots.length = cache.slots.length := by
  simpa [keys] using congrArg List.length (@keys_settle κ cache key outcome)

/-- An outcome that is recorded for a slot that waits takes it off those that do. -/
theorem waiting_record_lt (outcome : Except CacheError κ) {slot : Slot κ}
    (member : slot ∈ cache.slots) (keyEq : slot.key = key) (waits : slot.outcome = none) :
    (cache.record key outcome).waiting < cache.waiting := by
  have others : (cache.record key outcome).waiting =
      cache.slots.countP fun slot => slot.outcome.isNone && slot.key != key := by
    simp only [waiting, record, List.countP_map]
    congr 1
    funext slot
    by_cases own : slot.key = key <;> simp [own]
  have own : 0 < cache.slots.countP fun slot => slot.outcome.isNone && slot.key == key :=
    List.countP_pos_iff.mpr ⟨slot, member, by simp [keyEq, waits]⟩
  have parts := List.countP_eq_countP_filter_add cache.slots (fun slot => slot.outcome.isNone)
    (fun slot => slot.key == key)
  simp only [List.countP_filter] at parts
  rw [others, waiting, parts]
  simp only [bne] at own ⊢
  omega

end Slots

/-- The invariant of the counters, given how many look-ups were served and how many slots were dropped by
resets. -/
structure Balanced (served dropped : Nat) (cache : Cache κ) : Prop where
  counted : cache.hits + cache.misses = served
  placed : cache.misses = cache.slots.length + cache.evictions + dropped
  built : cache.builds + cache.waiting ≤ cache.misses

namespace Balanced

variable {served dropped : Nat}

theorem empty : Balanced 0 0 ({} : Cache κ) :=
  ⟨rfl, rfl, Nat.le_refl 0⟩

/-- A look-up is one more hit or one more miss, and a miss makes a slot that waits. -/
theorem touch (balanced : Balanced served dropped cache) (tidy : Tidy options cache) (key : String) :
    Balanced (served + 1) dropped (cache.touch options key) := by
  rcases balanced with ⟨counted, placed, built⟩
  by_cases present : key ∈ cache.keys
  · have moved := perm_touch_of_mem tidy present
    cases found : cache.slot? key with
    | none => exact absurd present (slot?_eq_none_iff.mp found)
    | some slot =>
        refine ⟨?_, ?_, ?_⟩
        · simp only [Cache.touch, found]
          omega
        · rw [moved.length_eq]
          simpa only [Cache.touch, found] using placed
        · rw [waiting, moved.countP_eq, ← waiting]
          simpa only [Cache.touch, found] using built
  · have missing := slot?_eq_none_iff.mpr present
    have evicted : excess options (cache.slots ++ [⟨key, none⟩]) = cache.displacing options := by
      simp [excess, displacing]
    have atMostAll : cache.displacing options ≤ cache.slots.length := by
      simp only [displacing]
      split <;> omega
    have stillWaiting : (cache.slots.drop (cache.displacing options)).countP
        (fun slot => slot.outcome.isNone) ≤ cache.waiting :=
      (List.drop_sublist _ cache.slots).countP_le
    refine ⟨?_, ?_, ?_⟩
    · simp only [Cache.touch, missing]
      omega
    · rw [slots_touch_of_none missing, List.length_append, List.length_drop, List.length_singleton]
      simp only [Cache.touch, missing, evicted]
      omega
    · rw [waiting, slots_touch_of_none missing, List.countP_append, List.countP_singleton]
      simp only [Cache.touch, missing, Option.isNone_none, if_true]
      omega

/-- A build goes into a slot that waits, and fills it unless it was cancelled. -/
theorem settle (balanced : Balanced served dropped cache) {slot : Slot κ}
    (member : slot ∈ cache.slots) (keyEq : slot.key = key) (waits : slot.outcome = none)
    (outcome : Except CacheError κ) : Balanced served dropped (cache.settle key outcome) := by
  rcases balanced with ⟨counted, placed, built⟩
  have fewer := waiting_record_lt outcome member keyEq waits
  have stillPlaced : cache.misses =
      (cache.settle key outcome).slots.length + cache.evictions + dropped := by
    rwa [length_slots_settle]
  rcases outcome with error | context
  · cases error with
    | cancelled => exact ⟨counted, placed, built⟩
    | hostUnavailable reason =>
        exact ⟨counted, stillPlaced, (Nat.add_le_add_left fewer.le _).trans built⟩
    | construction key' reason =>
        exact ⟨counted, stillPlaced, (Nat.add_le_add_left fewer.le _).trans built⟩
  · refine ⟨counted, stillPlaced, ?_⟩
    change cache.builds + 1 + (cache.record key (.ok context)).waiting ≤ cache.misses
    omega

theorem reset (balanced : Balanced served dropped cache) :
    Balanced served (dropped + cache.reset.1) cache.reset.2 := by
  rcases balanced with ⟨counted, placed, built⟩
  refine ⟨counted, ?_, (Nat.add_le_add_left (Nat.zero_le _) _).trans built⟩
  simp only [Cache.reset, List.length_nil]
  omega

end Balanced

/-- What an event adds to the look-ups that are not turned away because of a recorded failure. -/
def served (cache : Cache κ) : Event → Nat
  | .lookUp _ _ => if cache.hostFailure = none then 1 else 0
  | .reset => 0

/-- What an event adds to the slots that resets return as dropped. -/
def dropped (cache : Cache κ) : Event → Nat
  | .lookUp _ _ => 0
  | .reset => cache.reset.1

/-- The sum of a number over the events of a run, each with the cache that it meets. -/
def tally (count : Cache κ → Event → Nat) (engine : Engine κ) (options : CacheOptions) :
    Cache κ → List Event → Nat
  | _, [] => 0
  | cache, event :: events =>
      count cache event + tally count engine options (cache.step engine options event) events

theorem Balanced.step {total gone : Nat} (balanced : Balanced total gone cache)
    (tidy : Tidy options cache) (engine : Engine κ) (event : Event) :
    Balanced (total + served cache event) (gone + dropped cache event)
      (cache.step engine options event) := by
  cases event with
  | reset => exact balanced.reset
  | lookUp set isCancelled =>
      rcases getOrCreate_cases engine options cache set isCancelled with
        ⟨reason, host, result⟩ | ⟨outcome, host, -, result⟩ | ⟨host, nothing, result⟩
      · simpa [Cache.step, result, served, dropped, host] using balanced
      · simpa [Cache.step, result, served, dropped, host] using balanced.touch tidy set.key
      · -- The slot that was looked up waits, whether it was made just now or left by a cancelled build.
        have unknown : cache.completed set.key = none := by simpa using nothing
        have touched := @slot?_touch_self κ options cache set.key
        have waits : ((cache.slot? set.key).getD ⟨set.key, none⟩).outcome = none := by
          rw [completed] at unknown
          cases found : cache.slot? set.key with
          | none => rfl
          | some slot => simpa [found] using unknown
        rcases mem_of_slot?_eq_some touched with ⟨member, keyEq⟩
        simpa [Cache.step, result, served, dropped, host] using
          (balanced.touch tidy set.key).settle member keyEq waits _

/-- The counters of every cache that a run reaches balance. -/
theorem Balanced.run {total gone : Nat} (balanced : Balanced total gone cache)
    (tidy : Tidy options cache) (engine : Engine κ) (events : List Event) :
    Balanced (total + tally served engine options cache events)
      (gone + tally dropped engine options cache events) (cache.run engine options events) := by
  induction events generalizing cache total gone with
  | nil => exact balanced
  | cons event events ih =>
      have later := ih (balanced.step tidy engine event) (tidy.step event)
      simpa [tally, Nat.add_assoc] using later

/-- Along every run of every engine, whatever came of the builds: the hits and the misses together are the
look-ups that were made while no failure of the engine to start was recorded; a miss made a slot that is
still there, was displaced or was dropped by a reset; no more contexts were built than slots were made;
and a cache with a capacity does not exceed it. -/
theorem stats_run_balance (engine : Engine κ) (options : CacheOptions) (events : List Event) :
    let stats := (({} : Cache κ).run engine options events).stats
    stats.hits + stats.misses = tally served engine options {} events ∧
      stats.misses = stats.entries + stats.evictions + tally dropped engine options {} events ∧
      stats.builds ≤ stats.misses ∧
      (0 < options.capacity → stats.entries ≤ options.capacity) := by
  intro stats
  have start : Balanced 0 0 ({} : Cache κ) := .empty
  have tidy : Tidy options ({} : Cache κ) := .empty
  rcases start.run tidy engine events with ⟨counted, placed, built⟩
  rw [Nat.zero_add] at counted placed
  refine ⟨counted, placed, Nat.le_of_add_right_le built, ?_⟩
  intro bounded
  have fits := (@Tidy.run κ engine options _ tidy events).fits
  simpa [Nat.ne_of_gt bounded, keys, stats, Cache.stats] using fits

end SourceLens.Cache
