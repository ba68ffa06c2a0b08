import SourceLens.Proofs.Cache.Recency

/-!
# What a cache remembers of its builds

From the look-up that makes the slot of a key to the moment that it is displaced or dropped, look-ups of
the key build until a build comes to an outcome.  That outcome stays in the slot, every later look-up
returns it, and nothing is built for the slot any more.

What is remembered of a key changes in one way only (`completed_step`): if nothing was remembered and
an event builds for the key, what the cache keeps of that build is.  The statements about the whole life
of a slot follow by induction over its events.
-/

namespace SourceLens.Cache

variable {κ : Type} {engine : Engine κ} {options : CacheOptions} {cache : Cache κ} {key : String}

/-- What is remembered of a key: the outcome of its build, once there is one. -/
def completed (cache : Cache κ) (key : String) : Option (Except CacheError κ) :=
  (cache.slot? key).bind Slot.outcome

/-- What is kept of an outcome: nothing if the build was cancelled. -/
def memory : Except CacheError κ → Option (Except CacheError κ)
  | .error .cancelled => none
  | outcome => some outcome

/-- The invariant of runs: no two slots have one key, there are not too many of them, and none
remembers that a build was cancelled. -/
structure Tidy (options : CacheOptions) (cache : Cache κ) : Prop where
  nodup : cache.keys.Nodup
  fits : options.capacity = 0 ∨ cache.keys.length ≤ options.capacity
  uncancelled : ∀ slot ∈ cache.slots, slot.outcome ≠ some (.error .cancelled)

section Slots

theorem slot?_eq_some_iff (nodup : cache.keys.Nodup) {slot : Slot κ} :
    cache.slot? key = some slot ↔ slot ∈ cache.slots ∧ slot.key = key := by
  constructor
  · exact mem_of_slot?_eq_some
  · rintro ⟨member, rfl⟩
    cases found : cache.slot? slot.key with
    | none => exact absurd (List.mem_map_of_mem member) (slot?_eq_none_iff.mp found)
    | some other =>
        rcases mem_of_slot?_eq_some found with ⟨otherMember, sameKey⟩
        rw [List.inj_on_of_nodup_map nodup otherMember member sameKey]

theorem completed_of_not_mem (absent : key ∉ cache.keys) : cache.completed key = none := by
  simp [completed, slot?_eq_none_iff.mpr absent]

/-- A look-up leaves the slot of its key as it was, or makes an empty one. -/
theorem slot?_touch_self :
    (cache.touch options key).slot? key = some ((cache.slot? key).getD ⟨key, none⟩) := by
  cases found : cache.slot? key with
  | some slot =>
      have others : (cache.slots.filter fun other => other.key != key).find?
          (fun slot => slot.key == key) = none := by
        simp
      have keyEq := (mem_of_slot?_eq_some found).2
      simp [slot?, slots_touch_of_some found, List.find?_append, others, keyEq]
  | none =>
      have absent : ∀ slot ∈ cache.slots, slot.key ≠ key := by
        simpa [slot?] using found
      have others : (cache.slots.drop (cache.displacing options)).find?
          (fun slot => slot.key == key) = none := by
        simp only [List.find?_eq_none, beq_iff_eq]
        intro slot member
        exact absent slot (List.mem_of_mem_drop member)
      simp [slot?, slots_touch_of_none found, List.find?_append, others]

@[simp]
theorem remembered?_eq_completed : cache.remembered? options key = cache.completed key := by
  rw [remembered?, slot?_touch_self, completed]
  cases cache.slot? key <;> rfl

/-- A look-up changes nothing of what is remembered of the keys that it leaves in the cache. -/
theorem completed_touch (nodup : cache.keys.Nodup) {other : String}
    (kept : other ∈ (cache.touch options key).keys) :
    (cache.touch options key).completed other = cache.completed other := by
  by_cases same : other = key
  · subst same
    exact remembered?_eq_completed
  · cases found : (cache.touch options key).slot? other with
    | none => exact absurd kept (slot?_eq_none_iff.mp found)
    | some slot =>
        rcases mem_of_slot?_eq_some found with ⟨member, keyEq⟩
        rcases mem_touch member with old | rfl
        · simp [completed, found, (slot?_eq_some_iff nodup).mpr ⟨old, keyEq⟩]
        · exact absurd keyEq.symm same

theorem slot?_record (outcome : Except CacheError κ) (other : String) :
    (cache.record key outcome).slot? other =
      (cache.slot? other).map fun slot =>
        if slot.key = key then { slot with outcome := some outcome } else slot := by
  simp only [record, slot?, List.find?_map, beq_iff_eq]
  congr 2
  funext slot
  simp only [Function.comp_apply]
  split <;> rfl

/-- A build touches what is remembered of its own key only, and there only if it is to be kept. -/
theorem completed_settle (outcome : Except CacheError κ) {other : String}
    (present : other ∈ cache.keys) :
    (cache.settle key outcome).completed other =
      if other = key then (memory outcome).or (cache.completed other) else cache.completed other := by
  cases found : cache.slot? other with
  | none => exact absurd present (slot?_eq_none_iff.mp found)
  | some slot =>
      have keyEq := (mem_of_slot?_eq_some found).2
      rcases slots_settle_cases cache key outcome with ⟨rfl, same⟩ | ⟨uncancelled, recorded⟩
      · simp [completed, slot?, same, memory]
      · have ofRecord : (cache.settle key outcome).slot? other =
            (cache.record key outcome).slot? other := by
          simp only [slot?, recorded]
        simp only [completed, ofRecord, slot?_record, found, memory, Option.map_some,
          Option.bind_some, keyEq]
        split <;> rfl

end Slots

namespace Tidy

theorem empty : Tidy options ({} : Cache κ) :=
  ⟨List.nodup_nil, .inr (Nat.zero_le _), by simp⟩

theorem touch (tidy : Tidy options cache) (key : String) :
    Tidy options (cache.touch options key) := by
  have allLast : AreLast options cache.keys cache.keys :=
    ⟨List.suffix_refl _, tidy.fits, .inl rfl⟩
  have areLast := allLast.touch tidy.nodup key
  have distinct : (cache.keys.filter (· != key) ++ [key]).Nodup :=
    (tidy.nodup.filter _).append (List.nodup_singleton key) (by simp)
  refine ⟨distinct.sublist areLast.suffix.sublist, areLast.fits, ?_⟩
  intro slot member
  rcases mem_touch member with old | rfl
  · exact tidy.uncancelled slot old
  · simp

theorem settle (tidy : Tidy options cache) (key : String) (outcome : Except CacheError κ) :
    Tidy options (cache.settle key outcome) := by
  refine ⟨by simpa using tidy.nodup, by simpa using tidy.fits, ?_⟩
  intro slot member
  by_cases cancelled : outcome = .error .cancelled
  · subst cancelled
    exact tidy.uncancelled slot member
  · rcases mem_settle member with old | rfl
    · exact tidy.uncancelled slot old
    · simpa using cancelled

theorem step (tidy : Tidy options cache) (event : Event) :
    Tidy options (cache.step engine options event) := by
  cases event with
  | reset => exact ⟨List.nodup_nil, .inr (Nat.zero_le _), by simp [Cache.step, reset]⟩
  | lookUp set isCancelled =>
      rcases getOrCreate_cases engine options cache set isCancelled with
        ⟨reason, -, result⟩ | ⟨outcome, -, -, result⟩ | ⟨-, -, result⟩
      · simpa [Cache.step, result] using tidy
      · simpa [Cache.step, result] using tidy.touch set.key
      · simpa [Cache.step, result] using (tidy.touch set.key).settle set.key _

theorem run (tidy : Tidy options cache) (events : List Event) :
    Tidy options (cache.run engine options events) := by
  induction events generalizing cache with
  | nil => exact tidy
  | cons event events ih => exact ih (tidy.step event)

end Tidy

/-- A call of the engine for a look-up, with its answer. -/
structure Build (κ : Type) where
  set : ReferenceSet
  answer : Outcome (ContextBuild κ)

namespace Build

/-- Whether a build was cancelled. -/
def isCancelled (build : Build κ) : Bool :=
  match build.answer with
  | .error (.failed .cancelled) => true
  | _ => false

/-- What a cache makes of a build. -/
def verdict (options : CacheOptions) (build : Build κ) : Except CacheError κ :=
  judge options build.set build.answer

/-- Of a build, all but a cancellation is kept. -/
theorem memory_verdict (options : CacheOptions) (build : Build κ) :
    memory (build.verdict options) =
      if build.isCancelled then none else some (build.verdict options) := by
  rcases build with ⟨set, answer⟩
  rcases answer with stop | build
  · rcases stop with error | _
    · cases error <;> rfl
    · rfl
  · simp only [verdict, judge, isCancelled]
    split <;> rfl

end Build

/-- The build of an event: the engine was called if its calls have become more. -/
def buildOf? (engine : Engine κ) (options : CacheOptions) (cache : Cache κ) :
    Event → Option (Build κ)
  | .lookUp set isCancelled =>
      if (cache.getOrCreate engine options set isCancelled).2.calls = cache.calls then none
      else some ⟨set, engine.create cache.calls set.references isCancelled⟩
  | .reset => none

/-- The build of an event for a key. -/
def buildFor? (engine : Engine κ) (options : CacheOptions) (key : String) (cache : Cache κ)
    (event : Event) : Option (Build κ) :=
  (cache.buildOf? engine options event).filter fun build => build.set.key == key

/-- The builds for a key along a sequence of events. -/
def buildsFor (engine : Engine κ) (options : CacheOptions) (key : String) :
    Cache κ → List Event → List (Build κ)
  | _, [] => []
  | cache, event :: events =>
      (cache.buildFor? engine options key event).toList ++
        buildsFor engine options key (cache.step engine options event) events

/-- Whether a key has a slot after each of some events. -/
def Keeps (engine : Engine κ) (options : CacheOptions) (key : String) :
    Cache κ → List Event → Prop
  | _, [] => True
  | cache, event :: events =>
      key ∈ (cache.step engine options event).keys ∧
        Keeps engine options key (cache.step engine options event) events

/-- The outcome of the first build that was not cancelled. -/
def firstOutcome? (options : CacheOptions) (builds : List (Build κ)) :
    Option (Except CacheError κ) :=
  (builds.find? fun build => !build.isCancelled).map (Build.verdict options)

@[simp]
theorem firstOutcome?_nil : firstOutcome? options ([] : List (Build κ)) = none := rfl

theorem firstOutcome?_singleton (build : Build κ) :
    firstOutcome? options [build] = memory (build.verdict options) := by
  rw [build.memory_verdict]
  cases cancelled : build.isCancelled <;> simp [firstOutcome?, cancelled]

theorem firstOutcome?_append (first second : List (Build κ)) :
    firstOutcome? options (first ++ second) =
      (firstOutcome? options first).or (firstOutcome? options second) := by
  simp [firstOutcome?, List.find?_append, Option.map_or]

/-- If only the last build may have come to an outcome, the outcome of one that has is the first. -/
theorem firstOutcome?_of_mem {builds : List (Build κ)} {build : Build κ}
    (allButLast : ∀ build ∈ builds.dropLast, build.isCancelled = true) (member : build ∈ builds)
    (uncancelled : build.isCancelled = false) :
    firstOutcome? options builds = some (build.verdict options) := by
  induction builds using List.reverseRecOn with
  | nil => cases member
  | append_singleton builds last _ =>
      rw [List.dropLast_concat] at allButLast
      have isLast : build = last := by
        rcases List.mem_append.mp member with earlier | isLast
        · simp [allButLast build earlier] at uncancelled
        · exact List.mem_singleton.mp isLast
      have noneBefore : firstOutcome? options builds = none := by
        simpa [firstOutcome?] using allButLast
      rw [firstOutcome?_append, noneBefore, firstOutcome?_singleton, ← isLast,
        build.memory_verdict, uncancelled]
      rfl

section Life

/-- Where something is remembered, it is returned, if the engine has not failed to start since. -/
theorem getOrCreate_of_completed {outcome : Except CacheError κ} {set : ReferenceSet}
    (known : cache.completed set.key = some outcome) (isCancelled : Bool) :
    (cache.getOrCreate engine options set isCancelled).2.calls = cache.calls ∧
      (cache.hostFailure = none →
        (cache.getOrCreate engine options set isCancelled).1 = outcome) := by
  rcases getOrCreate_cases engine options cache set isCancelled with
    ⟨reason, host, result⟩ | ⟨outcome', host, memory, result⟩ | ⟨-, nothing, -⟩
  · simp [result, host]
  · rw [remembered?_eq_completed, known] at memory
    cases memory
    simp [result]
  · simp [known] at nothing

/-- Where nothing is remembered, a look-up builds, if the engine has not failed to start. -/
theorem getOrCreate_of_not_completed {set : ReferenceSet} (host : cache.hostFailure = none)
    (unknown : cache.completed set.key = none) (isCancelled : Bool) :
    (cache.getOrCreate engine options set isCancelled).2.calls = cache.calls + 1 ∧
      (cache.getOrCreate engine options set isCancelled).1 =
        judge options set (engine.create cache.calls set.references isCancelled) := by
  rcases getOrCreate_cases engine options cache set isCancelled with
    ⟨reason, failed, -⟩ | ⟨outcome, -, memory, -⟩ | ⟨-, -, result⟩
  · simp [host] at failed
  · simp [unknown] at memory
  · simp [result]

theorem buildFor?_of_completed (known : cache.completed key ≠ none) (event : Event) :
    cache.buildFor? engine options key event = none := by
  cases event with
  | reset => rfl
  | lookUp set isCancelled =>
      by_cases own : set.key = key
      · subst own
        rcases Option.ne_none_iff_exists'.mp known with ⟨outcome, known⟩
        simp [buildFor?, buildOf?, (getOrCreate_of_completed known isCancelled).1]
      · simp only [buildFor?, buildOf?]
        split <;> simp [own]

/-- What is remembered of a key that stays in the cache is what was, and else what is kept of a build
for it. -/
theorem completed_step (tidy : Tidy options cache) {event : Event}
    (kept : key ∈ (cache.step engine options event).keys) :
    (cache.step engine options event).completed key =
      (cache.completed key).or
        (firstOutcome? options (cache.buildFor? engine options key event).toList) := by
  cases event with
  | reset => simp [step, reset, keys] at kept
  | lookUp set isCancelled =>
      rcases getOrCreate_cases engine options cache set isCancelled with
        ⟨reason, -, result⟩ | ⟨outcome, -, -, result⟩ | ⟨-, nothing, result⟩
      · simp [step, buildFor?, buildOf?, result, firstOutcome?]
      · simp only [step, result] at kept ⊢
        rw [completed_touch tidy.nodup kept]
        simp [buildFor?, buildOf?, result, firstOutcome?]
      · -- Only here is the engine called, and only for a key of which nothing is remembered.
        let build : Build κ := ⟨set, engine.create cache.calls set.references isCancelled⟩
        have built : cache.buildOf? engine options (.lookUp set isCancelled) = some build := by
          simp [buildOf?, result, build]
        simp only [step, result, keys_settle] at kept ⊢
        rw [completed_settle _ kept, completed_touch tidy.nodup kept]
        by_cases own : key = set.key
        · subst own
          have unknown : cache.completed set.key = none := by simpa using nothing
          have ownBuild : cache.buildFor? engine options set.key (.lookUp set isCancelled) =
              some build := by
            simp [buildFor?, built, build]
          rw [if_pos rfl, ownBuild, Option.toList_some, firstOutcome?_singleton, unknown]
          exact Option.or_none
        · have noBuild : cache.buildFor? engine options key (.lookUp set isCancelled) = none := by
            simp [buildFor?, built, build, Ne.symm own]
          simp [own, noBuild]

/-- Nothing is built during the life of a slot that remembers something. -/
theorem buildsFor_of_completed (tidy : Tidy options cache) {life : List Event}
    (kept : Keeps engine options key cache life) (known : cache.completed key ≠ none) :
    buildsFor engine options key cache life = [] := by
  induction life generalizing cache with
  | nil => rfl
  | cons event life ih =>
      have noBuild := @buildFor?_of_completed κ engine options cache key known event
      have stillKnown : (cache.step engine options event).completed key ≠ none := by
        simpa [completed_step tidy kept.1, noBuild] using known
      simp [buildsFor, noBuild, ih (tidy.step event) kept.2 stillKnown]

/-- Through the life of a slot, what it remembers is the outcome of the first build that was not
cancelled. -/
theorem completed_run (tidy : Tidy options cache) {life : List Event}
    (kept : Keeps engine options key cache life) :
    (cache.run engine options life).completed key =
      (cache.completed key).or
        (firstOutcome? options (buildsFor engine options key cache life)) := by
  induction life generalizing cache with
  | nil => simp [buildsFor]
  | cons event life ih =>
      rw [run_cons, ih (tidy.step event) kept.2, completed_step tidy kept.1, buildsFor,
        firstOutcome?_append, Option.or_assoc]

/-- Only the last build in the life of a slot may come to an outcome. -/
theorem isCancelled_of_mem_dropLast (tidy : Tidy options cache) {life : List Event}
    (kept : Keeps engine options key cache life) :
    ∀ build ∈ (buildsFor engine options key cache life).dropLast, build.isCancelled = true := by
  induction life generalizing cache with
  | nil => simp [buildsFor]
  | cons event life ih =>
      have later := ih (tidy.step event) kept.2
      cases built : cache.buildFor? engine options key event with
      | none => simpa [buildsFor, built] using later
      | some build =>
          cases cancelled : build.isCancelled with
          | true =>
              intro other member
              simp only [buildsFor, built, Option.toList_some, List.singleton_append] at member
              cases rest : buildsFor engine options key (cache.step engine options event) life with
              | nil => simp [rest] at member
              | cons next builds =>
                  rw [rest, List.dropLast_cons_cons, List.mem_cons] at member
                  rcases member with rfl | member
                  · exact cancelled
                  · exact later other (by simpa [rest] using member)
          | false =>
              -- This build is remembered, so it is the last one.
              have known : (cache.step engine options event).completed key ≠ none := by
                rw [completed_step tidy kept.1, built, Option.toList_some, firstOutcome?_singleton,
                  build.memory_verdict, cancelled]
                simp
              have noMore := buildsFor_of_completed (tidy.step event) kept.2 known
              simp [buildsFor, built, noMore]

end Life

/-- From the look-up that makes the slot of a key to any moment before it is displaced or dropped, only
the last build for it can have come to an outcome, and it is this outcome that the slot remembers.
Until there is one, a look-up builds.  From then on none does, and all return the outcome, unless the
engine has failed to start.  No slot ever remembers that a build was cancelled. -/
theorem buildsFor_until_first_outcome (engine : Engine κ) (options : CacheOptions) {before life : List Event}
    {key : String} (missed : key ∉ (({} : Cache κ).run engine options before).keys)
    (kept : Keeps engine options key (({} : Cache κ).run engine options before) life) :
    let start := ({} : Cache κ).run engine options before
    let cache := start.run engine options life
    let builds := buildsFor engine options key start life
    (∀ build ∈ builds.dropLast, build.isCancelled = true) ∧
      cache.completed key = firstOutcome? options builds ∧
      (∀ slot ∈ cache.slots, slot.outcome ≠ some (.error .cancelled)) ∧
      ∀ (set : ReferenceSet) (isCancelled : Bool), set.key = key →
        ((∀ build ∈ builds, build.isCancelled = true) → cache.hostFailure = none →
          (cache.getOrCreate engine options set isCancelled).2.calls = cache.calls + 1 ∧
            (cache.getOrCreate engine options set isCancelled).1 =
              judge options set (engine.create cache.calls set.references isCancelled)) ∧
        ∀ build ∈ builds, build.isCancelled = false →
          (cache.getOrCreate engine options set isCancelled).2.calls = cache.calls ∧
            (cache.hostFailure = none →
              (cache.getOrCreate engine options set isCancelled).1 = build.verdict options) := by
  intro start cache builds
  have tidy : Tidy options start := Tidy.empty.run before
  have allButLast := isCancelled_of_mem_dropLast tidy kept
  have unknown : start.completed key = none := completed_of_not_mem missed
  have known : cache.completed key = firstOutcome? options builds := by
    simpa [unknown] using completed_run tidy kept
  refine ⟨allButLast, known, (tidy.run life).uncancelled, ?_⟩
  rintro set isCancelled rfl
  constructor
  · intro allCancelled host
    have nothing : firstOutcome? options builds = none := by
      simpa [firstOutcome?] using allCancelled
    exact getOrCreate_of_not_completed host (known.trans nothing) isCancelled
  · intro build member uncancelled
    have first := @firstOutcome?_of_mem κ options _ _ allButLast member uncancelled
    exact getOrCreate_of_completed (known.trans first) isCancelled

/-- A build that was cancelled is made again, and its outcome is there for later requests, cancelled
or not. -/
theorem buildsFor_until_retried_outcome :
    let before : List Event := [.lookUp ⟨["a"]⟩ false]
    let life : List Event :=
      [.lookUp ⟨["b"]⟩ true, .lookUp ⟨["a"]⟩ false, .lookUp ⟨["b"]⟩ false]
    "b" ∉ (run obedient ⟨2, 0⟩ {} before).keys ∧
      Keeps obedient ⟨2, 0⟩ "b" (run obedient ⟨2, 0⟩ {} before) life ∧
      (buildsFor obedient ⟨2, 0⟩ "b" (run obedient ⟨2, 0⟩ {} before) life).map Build.isCancelled =
        [true, false] ∧
      ∀ isCancelled,
        ((run obedient ⟨2, 0⟩ (run obedient ⟨2, 0⟩ {} before) life).getOrCreate obedient ⟨2, 0⟩
            ⟨["b"]⟩ isCancelled).2.calls =
          (run obedient ⟨2, 0⟩ (run obedient ⟨2, 0⟩ {} before) life).calls ∧
        ((run obedient ⟨2, 0⟩ (run obedient ⟨2, 0⟩ {} before) life).getOrCreate obedient ⟨2, 0⟩
            ⟨["b"]⟩ isCancelled).1 = .ok ["b"] := by
  intro before life
  have missed : "b" ∉ (run obedient ⟨2, 0⟩ {} before).keys := by decide
  have kept : Keeps obedient ⟨2, 0⟩ "b" (run obedient ⟨2, 0⟩ {} before) life :=
    ⟨by decide, by decide, by decide, trivial⟩
  have host : (run obedient ⟨2, 0⟩ (run obedient ⟨2, 0⟩ {} before) life).hostFailure = none := by
    decide
  have builds : buildsFor obedient ⟨2, 0⟩ "b" (run obedient ⟨2, 0⟩ {} before) life =
      [⟨⟨["b"]⟩, .error (.failed .cancelled)⟩, ⟨⟨["b"]⟩, .ok ⟨["b"], []⟩⟩] := by
    rfl
  refine ⟨missed, kept, by rw [builds]; rfl, ?_⟩
  intro isCancelled
  have lookUps := (buildsFor_until_first_outcome obedient ⟨2, 0⟩ missed kept).2.2.2 ⟨["b"]⟩
    isCancelled (by decide)
  have later := lookUps.2 ⟨⟨["b"]⟩, .ok ⟨["b"], []⟩⟩ (by rw [builds]; simp) rfl
  exact ⟨later.1, later.2 host⟩

end SourceLens.Cache
