import SourceLens.Proofs.Cache.Retention

/-!
# What a cancelled look-up does to a cache

A look-up makes the slot of its key before it builds, and making it may displace the least recently
used slot.  When the build is then cancelled, the new slot stays empty, but the displaced one does not
come back: what it remembered is lost.  Of all other keys the same is remembered as before.
-/

namespace SourceLens.Cache

variable {κ : Type} {engine : Engine κ} {options : CacheOptions} {cache : Cache κ} {key : String}

/-- The slot that makes room when a key is looked up: the least recently used one, if the key has no
slot and there is no room for one more. -/
def displaced? (options : CacheOptions) (cache : Cache κ) (key : String) : Option (Slot κ) :=
  if key ∉ cache.keys ∧ cache.slots.length = options.capacity then cache.slots.head? else none

theorem mem_of_displaced? {slot : Slot κ} (displaced : slot ∈ cache.displaced? options key) :
    slot ∈ cache.slots := by
  simp only [displaced?] at displaced
  split at displaced
  · exact List.mem_of_mem_head? displaced
  · cases displaced

theorem take_displacing (tidy : Tidy options cache) (absent : key ∉ cache.keys) :
    cache.slots.take (cache.displacing options) = (cache.displaced? options key).toList := by
  have fits := tidy.fits
  simp only [keys, List.length_map] at fits
  by_cases full : cache.slots.length = options.capacity
  · have oldest : cache.displaced? options key = cache.slots.head? := by
      simp [displaced?, absent, full]
    by_cases unbounded : options.capacity = 0
    · have noSlots : cache.slots = [] := List.eq_nil_of_length_eq_zero (full.trans unbounded)
      simp [oldest, noSlots]
    · have one : cache.displacing options = 1 := by simp [displacing, unbounded, full]
      rw [oldest, one, List.take_one]
  · have room : cache.displacing options = 0 := by
      simp only [displacing]
      split <;> omega
    simp [displaced?, room, full]

/-- A look-up keeps every key but that of the displaced slot. -/
theorem mem_keys_touch_iff (tidy : Tidy options cache) {other : String}
    (present : other ∈ cache.keys) :
    other ∈ (cache.touch options key).keys ↔
      ∀ slot ∈ cache.displaced? options key, slot.key ≠ other := by
  by_cases known : key ∈ cache.keys
  · have nothing : cache.displaced? options key = none := by simp [displaced?, known]
    rw [keys_touch_of_mem known]
    by_cases same : other = key <;> simp [nothing, same, present]
  · have different : other ≠ key := ne_of_mem_of_not_mem present known
    -- The displaced slot and those that stay make up the whole, and no key is there twice.
    have apart : cache.slots.take (cache.displacing options) ++
        cache.slots.drop (cache.displacing options) = cache.slots := List.take_append_drop _ _
    have nodup := tidy.nodup
    rw [keys, ← apart, List.map_append, take_displacing tidy known] at present nodup
    simp only [keys, slots_touch_of_none (slot?_eq_none_iff.mpr known), List.map_append,
      List.mem_append]
    constructor
    · rintro (kept | new) slot displaced rfl
      · exact List.disjoint_of_nodup_append nodup
          (List.mem_map_of_mem (Option.mem_toList.mpr displaced)) kept
      · exact different (List.mem_singleton.mp new)
    · intro notDisplaced
      left
      rcases List.mem_append.mp present with older | younger
      · rcases List.mem_map.mp older with ⟨slot, displaced, keyEq⟩
        exact absurd keyEq (notDisplaced slot (Option.mem_toList.mp displaced))
      · exact younger

/-- A look-up changes nothing of what is remembered of keys other than the displaced one. -/
theorem completed_touch_of_not_displaced (tidy : Tidy options cache) {other : String}
    (notDisplaced : ∀ slot ∈ cache.displaced? options key, slot.key ≠ other) :
    (cache.touch options key).completed other = cache.completed other := by
  by_cases kept : other ∈ (cache.touch options key).keys
  · exact completed_touch tidy.nodup kept
  · have absent : other ∉ cache.keys := by
      intro present
      exact kept ((mem_keys_touch_iff tidy present).mpr notDisplaced)
    rw [completed_of_not_mem kept, completed_of_not_mem absent]

theorem completed_touch_of_displaced (tidy : Tidy options cache) {slot : Slot κ}
    (displaced : slot ∈ cache.displaced? options key) :
    (cache.touch options key).completed slot.key = none := by
  have present : slot.key ∈ cache.keys := List.mem_map_of_mem (mem_of_displaced? displaced)
  apply completed_of_not_mem
  intro kept
  exact (mem_keys_touch_iff tidy present).mp kept slot displaced rfl

/-- A cancelled look-up calls the engine and touches the slot of its key, and that is all. -/
theorem getOrCreate_of_cancelled (tidy : Tidy options cache) {set : ReferenceSet}
    {isCancelled : Bool}
    (cancelled : (cache.getOrCreate engine options set isCancelled).1 = .error .cancelled) :
    (cache.getOrCreate engine options set isCancelled).2 =
      { cache.touch options set.key with calls := cache.calls + 1 } := by
  rcases getOrCreate_cases engine options cache set isCancelled with
    ⟨reason, -, result⟩ | ⟨outcome, -, memory, result⟩ | ⟨-, -, result⟩
  · simp [result] at cancelled
  · simp only [result] at cancelled
    rcases exists_mem_of_remembered? memory with ⟨slot, member, -, holds⟩
    exact absurd (holds.trans (congrArg some cancelled)) (tidy.uncancelled slot member)
  · simp only [result] at cancelled ⊢
    simp [cancelled, settle]

/-- Along every run, a cancelled look-up loses what was remembered of the displaced key, if there is
one, and leaves all other keys alone.  So it leaves what is remembered as it was exactly when there
was nothing to lose. -/
theorem completed_getOrCreate_of_cancelled (engine : Engine κ) (options : CacheOptions)
    (events : List Event) (set : ReferenceSet) (isCancelled : Bool)
    (cancelled : ((({} : Cache κ).run engine options events).getOrCreate engine options set
      isCancelled).1 = .error .cancelled) :
    let cache := ({} : Cache κ).run engine options events
    let after := (cache.getOrCreate engine options set isCancelled).2
    (∀ slot ∈ cache.displaced? options set.key, after.completed slot.key = none) ∧
      (∀ key, (∀ slot ∈ cache.displaced? options set.key, slot.key ≠ key) →
        after.completed key = cache.completed key) ∧
      ((∀ key, after.completed key = cache.completed key) ↔
        ∀ slot ∈ cache.displaced? options set.key, slot.outcome = none) := by
  intro cache after
  have tidy : Tidy options cache := Tidy.empty.run events
  have touched : ∀ key, after.completed key = (cache.touch options set.key).completed key := by
    intro key
    simp only [after, getOrCreate_of_cancelled tidy cancelled]
    rfl
  have lost : ∀ slot ∈ cache.displaced? options set.key, after.completed slot.key = none := by
    intro slot displaced
    rw [touched]
    exact completed_touch_of_displaced tidy displaced
  have kept : ∀ key, (∀ slot ∈ cache.displaced? options set.key, slot.key ≠ key) →
      after.completed key = cache.completed key := by
    intro key notDisplaced
    rw [touched]
    exact completed_touch_of_not_displaced tidy notDisplaced
  have remembers : ∀ slot ∈ cache.displaced? options set.key,
      cache.completed slot.key = slot.outcome := by
    intro slot displaced
    have found := (slot?_eq_some_iff tidy.nodup).mpr ⟨mem_of_displaced? displaced, rfl⟩
    simp [completed, found]
  refine ⟨lost, kept, ?_⟩
  constructor
  · intro same slot displaced
    rw [← remembers slot displaced, ← same, lost slot displaced]
  · intro nothingToLose key
    by_cases isDisplaced : ∃ slot ∈ cache.displaced? options set.key, slot.key = key
    · rcases isDisplaced with ⟨slot, displaced, rfl⟩
      rw [lost slot displaced, remembers slot displaced, nothingToLose slot displaced]
    · apply kept
      intro slot displaced sameKey
      exact isDisplaced ⟨slot, displaced, sameKey⟩

/-- With room for one context, a cancelled request for another one loses the first. -/
theorem not_completed_getOrCreate_of_cancelled :
    ¬∀ (engine : Engine (List String)) (options : CacheOptions) (events : List Event)
      (set : ReferenceSet) (isCancelled : Bool),
      ((({} : Cache (List String)).run engine options events).getOrCreate engine options set
        isCancelled).1 = .error .cancelled →
      ∀ key, ((({} : Cache (List String)).run engine options events).getOrCreate engine options set
          isCancelled).2.completed key =
        (({} : Cache (List String)).run engine options events).completed key := by
  intro undisturbed
  have sameOutcome := undisturbed obedient ⟨1, 0⟩ [.lookUp ⟨["a"]⟩ false] ⟨["b"]⟩ true rfl "a"
  have stillThere := congrArg Option.isSome sameOutcome
  exact absurd stillThere (by decide)

/-- A cancelled request for a third key displaces a slot whose own build was cancelled, and nothing is
lost. -/
theorem completed_getOrCreate_of_cancelled_empty :
    let events : List Event := [.lookUp ⟨["a"]⟩ true, .lookUp ⟨["b"]⟩ false]
    let cache := ({} : Cache (List String)).run obedient ⟨2, 0⟩ events
    let after := (cache.getOrCreate obedient ⟨2, 0⟩ ⟨["c"]⟩ true).2
    (cache.getOrCreate obedient ⟨2, 0⟩ ⟨["c"]⟩ true).1 = .error .cancelled ∧
      after.keys = ["b", "c"] ∧ ∀ key, after.completed key = cache.completed key := by
  intro events cache after
  have cancelled : (cache.getOrCreate obedient ⟨2, 0⟩ ⟨["c"]⟩ true).1 = .error .cancelled := rfl
  have oldest : cache.displaced? ⟨2, 0⟩ (ReferenceSet.mk ["c"]).key = some ⟨"a", none⟩ := by
    rfl
  have empty : ∀ slot ∈ cache.displaced? ⟨2, 0⟩ (ReferenceSet.mk ["c"]).key,
      slot.outcome = none := by
    simp [oldest]
  refine ⟨cancelled, by decide, ?_⟩
  exact (completed_getOrCreate_of_cancelled obedient ⟨2, 0⟩ events ⟨["c"]⟩ true cancelled).2.2.mpr
    empty

end SourceLens.Cache
