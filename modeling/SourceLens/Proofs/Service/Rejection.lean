import SourceLens.Proofs.Analysis.Compilation
import SourceLens.Proofs.Cursor.Context
import SourceLens.Proofs.Edit.WireChanges
import SourceLens.Proofs.Service.Transparency

/-!
# Refused requests leave no trace

A service is asked one thing after the other: to answer a request, to show its counters, to empty its
cache.  A request is refused exactly if it is invalid (`Request.IsInvalid`), and a refusal leaves the
cache as it was, so without the refused requests all other replies are the same.

An accepted request is looked at by its provider with byte offsets.  They are made by the index of the
buffer, so each of them is a boundary of the buffer.
-/

namespace SourceLens

/-- The new name that a question brings along. -/
def Question.newName? : Question → Option String
  | .rename _ newName => some newName
  | _ => none

/-- The range that a question is about. -/
def Question.range? : Question → Option (Int × Int)
  | .format start stop => some (start, stop)
  | _ => none

/-- What a question asks if its positions fit the buffer.  A range counts only when one of its ends is
positive, and blanks around a new name do not count. -/
def Question.toQuery : Question → Query
  | .complete position => .complete position.toNat
  | .resolve position suggestion => .resolve position.toNat suggestion
  | .signature position => .signature position.toNat
  | .hover position => .hover position.toNat
  | .codeCheck => .codeCheck
  | .definition position => .definition position.toNat
  | .rename position newName => .rename position.toNat (Text.mapChars Text.trim newName)
  | .format start stop =>
      .format (if 0 < start ∨ 0 < stop then some (start.toNat, stop.toNat) else none)

/-- The positions in a query. -/
def Query.positions : Query → List Nat
  | .complete position | .resolve position _ | .signature position | .hover position
  | .definition position | .rename position _ => [position]
  | .codeCheck => []
  | .format range => range.toList.flatMap fun (start, stop) => [start, stop]

theorem Query.positions_convert (toOffset : Nat → Nat) (query : Query) :
    (query.convert toOffset).positions = query.positions.map toOffset := by
  cases query with
  | format range => cases range <;> rfl
  | _ => rfl

theorem Query.needsDiagnostics_convert (toOffset : Nat → Nat) (query : Query) :
    (query.convert toOffset).needsDiagnostics = query.needsDiagnostics := by
  cases query <;> rfl

theorem Query.operation_convert (toOffset : Nat → Nat) (query : Query) :
    (query.convert toOffset).operation = query.operation := by
  cases query <;> rfl

namespace Request

/-- Whether a position is outside of a buffer, whose length is that of its UTF-16 encoding. -/
def IsOutside (code : String) (position : Int) : Prop :=
  position < 0 ∨ (Text.codeUnits code.toList).length < position

/-- Whether a range counts but does not fit a buffer. -/
def IsMisplaced (code : String) (range : Int × Int) : Prop :=
  (0 < range.1 ∨ 0 < range.2) ∧
    ¬(0 ≤ range.1 ∧ range.1 ≤ range.2 ∧ range.2 ≤ (Text.codeUnits code.toList).length)

/-- Whether a request does not fit its buffer, or brings along a new name of blanks. -/
def IsInvalid (request : Request) : Prop :=
  (∃ position ∈ request.question.position?, IsOutside request.code position) ∨
  (∃ newName ∈ request.question.newName?, Text.trim newName.toList = []) ∨
  (∃ range ∈ request.question.range?, IsMisplaced request.code range)

instance (code : String) (position : Int) : Decidable (IsOutside code position) :=
  inferInstanceAs (Decidable (_ ∨ _))

instance (code : String) (range : Int × Int) : Decidable (IsMisplaced code range) :=
  inferInstanceAs (Decidable (_ ∧ _))

instance (request : Request) : Decidable request.IsInvalid :=
  inferInstanceAs (Decidable (_ ∨ _ ∨ _))

theorem validPosition_cases (code : String) (position : Int) :
    (IsOutside code position ∧ ∃ fault, validPosition code position = .error fault) ∨
      (¬IsOutside code position ∧ validPosition code position = .ok position.toNat) := by
  rw [IsOutside, validPosition, codeLength, Text.length_codeUnits]
  by_cases negative : position < 0
  · exact .inl ⟨.inl negative, _, if_pos negative⟩
  · rw [if_neg negative]
    by_cases inside : position ≤ Text.unitLength code.toList
    · exact .inr ⟨by omega, if_pos inside⟩
    · exact .inl ⟨.inr (by omega), _, if_neg inside⟩

theorem validRange_cases (code : String) (start stop : Int) :
    (IsMisplaced code (start, stop) ∧ ∃ fault, validRange code start stop = .error fault) ∨
      (¬IsMisplaced code (start, stop) ∧ validRange code start stop =
        .ok (if 0 < start ∨ 0 < stop then some (start.toNat, stop.toNat) else none)) := by
  simp only [IsMisplaced, validRange, codeLength, Text.length_codeUnits]
  by_cases counts : 0 < start ∨ 0 < stop
  · rw [if_neg (by omega), if_pos counts]
    by_cases fits : 0 ≤ start ∧ start ≤ stop ∧ stop ≤ Text.unitLength code.toList
    · exact .inr ⟨fun misplaced => misplaced.2 fits, if_pos fits⟩
    · exact .inl ⟨⟨counts, fits⟩, _, if_neg fits⟩
  · rw [if_pos (by omega), if_neg counts]
    exact .inr ⟨fun misplaced => counts misplaced.1, rfl⟩

theorem validName_cases (name : String) :
    (Text.trim name.toList = [] ∧ ∃ fault, validName name = .error fault) ∨
      (Text.trim name.toList ≠ [] ∧ validName name = .ok (Text.mapChars Text.trim name)) := by
  by_cases blank : Text.trim name.toList = []
  · exact .inl ⟨blank, .blankName, by simp [validName, Text.mapChars, blank]⟩
  · exact .inr ⟨blank, by simp [validName, Text.mapChars, blank]⟩

/-- A request is refused if it is invalid, and understood as it stands if it is not. -/
theorem validate_cases (request : Request) :
    (request.IsInvalid ∧ ∃ fault, request.validate = .error fault) ∨
      (¬request.IsInvalid ∧ request.validate = .ok request.question.toQuery) := by
  rcases request with ⟨code, assemblies, output, question⟩
  cases question with
  | codeCheck =>
      exact .inr ⟨by simp [IsInvalid, Question.position?, Question.newName?, Question.range?], rfl⟩
  | format start stop =>
      rcases validRange_cases code start stop with ⟨misplaced, fault, failed⟩ | ⟨fits, valid⟩
      · exact .inl ⟨.inr (.inr ⟨_, rfl, misplaced⟩), fault, by simp [validate, failed]⟩
      · refine .inr ⟨?_, by simp [validate, valid, Question.toQuery]⟩
        simpa [IsInvalid, Question.position?, Question.newName?, Question.range?] using fits
  | rename position newName =>
      -- The name is looked at only if the position fits; either fault makes the request invalid.
      rcases validPosition_cases code position with ⟨outside, fault, failed⟩ | ⟨inside, valid⟩
      · exact .inl ⟨.inl ⟨_, rfl, outside⟩, fault, by simp only [validate, failed]; rfl⟩
      rcases validName_cases newName with ⟨blank, fault, failed⟩ | ⟨named, validName⟩
      · exact .inl ⟨.inr (.inl ⟨_, rfl, blank⟩), fault, by simp only [validate, valid, failed]; rfl⟩
      · refine .inr ⟨?_, by simp only [validate, valid, validName]; rfl⟩
        simpa [IsInvalid, Question.position?, Question.newName?, Question.range?] using
          And.intro inside named
  | _ position =>
      rcases validPosition_cases code position with ⟨outside, fault, failed⟩ | ⟨inside, valid⟩
      · exact .inl ⟨.inl ⟨_, rfl, outside⟩, fault, by simp [validate, failed]⟩
      · refine .inr ⟨?_, by simp [validate, valid, Question.toQuery]⟩
        simpa [IsInvalid, Question.position?, Question.newName?, Question.range?] using inside

/-- What an accepted request asks, with the byte offsets of its buffer. -/
def located (request : Request) : Query :=
  request.question.toQuery.convert (OffsetIndex.ofText request.code).toByte

theorem isBoundary_of_mem_located {request : Request} {offset : Nat}
    (member : offset ∈ request.located.positions) :
    Text.isBoundary request.code offset = true := by
  rw [located, Query.positions_convert, List.mem_map] at member
  rcases member with ⟨position, -, rfl⟩
  exact OffsetIndex.isBoundary_toByte request.code position

end Request

namespace ServiceError

/-- Whether an error is about the request itself. -/
def isInvalid : ServiceError → Bool
  | invalid _ => true
  | _ => false

theorem isInvalid_ofCache (error : CacheError) : (ofCache error).isInvalid = false := by
  cases error <;> rfl

theorem isInvalid_ofStop (detail : String) (stop : Stop) :
    (ofStop detail stop).isInvalid = false := by
  cases stop with
  | crashed => rfl
  | failed error => cases error <;> rfl

end ServiceError

namespace Service

variable {κ : Type}

/-- Whether the offsets of every snapshot are those of the buffer it was made of. -/
def IndexesBuffers (service : Service κ) : Prop :=
  ∀ context code output withDiagnostics isCancelled snapshot,
    service.snapshot context code output withDiagnostics isCancelled = .ok snapshot →
      snapshot.offsets = .ofText code

/-- The answer to a request when its provider is given a query with byte offsets, and the cache
afterwards, unless the request ends the process. -/
def provide (service : Service κ) (cache : Cache κ) (request : Request) (query : Query)
    (isCancelled : Bool) : Option (Except ServiceError Json × Cache κ) :=
  let found :=
    cache.getOrCreate service.engine service.cacheOptions request.referenceSet isCancelled
  let output := request.output.getD service.defaultOutput
  let answer : Option (Except ServiceError Json) :=
    match found.1 with
    | .error error => some (.error (.ofCache error))
    | .ok context => service.report? query do
        let snapshot ←
          service.snapshot context request.code output query.needsDiagnostics isCancelled
        Attempt.ofOutcome (query.run snapshot service.eagerDescriptions isCancelled)
  answer.map fun answer => (answer, found.2)

theorem answerIn_toQuery {service : Service κ} (indexed : service.IndexesBuffers) (context : κ)
    (request : Request) (isCancelled : Bool) :
    service.answerIn context request request.question.toQuery isCancelled =
      (do
        let snapshot ← service.snapshot context request.code
          (request.output.getD service.defaultOutput) request.located.needsDiagnostics isCancelled
        Attempt.ofOutcome
          (request.located.run snapshot service.eagerDescriptions isCancelled)) := by
  rw [answerIn, Request.located, Query.needsDiagnostics_convert]
  cases made : service.snapshot context request.code (request.output.getD service.defaultOutput)
      request.question.toQuery.needsDiagnostics isCancelled with
  | error breakdown => rfl
  | ok snapshot =>
      simp only [ok_bind, Query.answer]
      rw [indexed _ _ _ _ _ _ made]

theorem report?_located (service : Service κ) (request : Request) (attempt : Attempt Json) :
    service.report? request.located attempt =
      service.report? request.question.toQuery attempt := by
  unfold report?
  rw [Request.located, Query.operation_convert]

theorem respond_of_isInvalid (service : Service κ) (cache : Cache κ) {request : Request}
    (invalid : request.IsInvalid) (isCancelled : Bool) :
    ∃ detail, service.respond cache request isCancelled =
      some (.error (.invalid detail), cache) := by
  rcases request.validate_cases with ⟨-, fault, failed⟩ | ⟨valid, -⟩
  · exact ⟨fault.message, by simp [respond, failed]⟩
  · exact absurd invalid valid

theorem validate_of_not_isInvalid {request : Request} (valid : ¬request.IsInvalid) :
    request.validate = .ok request.question.toQuery := by
  rcases request.validate_cases with ⟨invalid, -⟩ | ⟨-, accepted⟩
  · exact absurd invalid valid
  · exact accepted

theorem respond_eq_provide {service : Service κ} (indexed : service.IndexesBuffers)
    (cache : Cache κ) {request : Request} (valid : ¬request.IsInvalid) (isCancelled : Bool) :
    service.respond cache request isCancelled =
      service.provide cache request request.located isCancelled := by
  rw [respond_of_validate service cache (validate_of_not_isInvalid valid), provide]
  generalize cache.getOrCreate service.engine service.cacheOptions request.referenceSet isCancelled =
    found
  rcases found with ⟨outcome, after⟩
  cases outcome with
  | error error => rfl
  | ok context => simp only [answerFound?, answerIn_toQuery indexed, report?_located]

/-- What a service can be asked.  What the runtime decides may be different for each request. -/
inductive Operation (ρ : Type) where
  | ask (runtime : ρ) (request : Request) (isCancelled : Bool)
  | showStats
  | reset
  deriving DecidableEq

/-- What a service gives back. -/
inductive Reply where
  | answer (answer : Except ServiceError Json)
  | stats (stats : CacheStats)
  | dropped (count : Nat)
  /-- Nothing, since the process has come to its end. -/
  | silence

/-- Whether a reply is the refusal of a request. -/
def Reply.isRefusal : Reply → Bool
  | .answer (.error error) => error.isInvalid
  | _ => false

section Run

variable {ρ : Type} (service : ρ → Service κ)

/-- The reply to an operation, and the cache afterwards if the process has not come to its end. -/
def perform (cache : Cache κ) : Operation ρ → Reply × Option (Cache κ)
  | .ask runtime request isCancelled =>
      match (service runtime).respond cache request isCancelled with
      | some (answer, cache) => (.answer answer, some cache)
      | none => (.silence, none)
  | .showStats => (.stats cache.stats, some cache)
  | .reset => (.dropped cache.reset.1, some cache.reset.2)

/-- The operations of a run, each with its reply, up to the end of the process. -/
def trace : Cache κ → List (Operation ρ) → List (Operation ρ × Reply)
  | _, [] => []
  | cache, operation :: operations =>
      (operation, (perform service cache operation).1) ::
        match (perform service cache operation).2 with
        | some after => trace after operations
        | none => []

/-- The cache after a run, if the process has not come to its end. -/
def cacheAfter (cache : Cache κ) (operations : List (Operation ρ)) : Option (Cache κ) :=
  operations.foldlM (fun cache operation => (perform service cache operation).2) cache

variable {service}

/-- Neither the errors of a look-up nor those of an analysis refuse the request itself. -/
theorem isRefusal_of_answerFound? {service : Service κ} {request : Request} {query : Query}
    {isCancelled : Bool} {found : Except CacheError κ} {answer : Except ServiceError Json}
    (isAnswer : service.answerFound? request query isCancelled found = some answer) :
    (Reply.answer answer).isRefusal = false := by
  cases found with
  | error error =>
      cases isAnswer
      exact ServiceError.isInvalid_ofCache error
  | ok context =>
      rw [answerFound?] at isAnswer
      unfold report? at isAnswer
      split at isAnswer
      · cases isAnswer
        rfl
      · cases isAnswer
        exact ServiceError.isInvalid_ofStop _ _
      · cases isAnswer

theorem perform_of_isInvalid (cache : Cache κ) (runtime : ρ) {request : Request}
    (invalid : request.IsInvalid) (isCancelled : Bool) :
    (perform service cache (.ask runtime request isCancelled)).1.isRefusal = true ∧
      (perform service cache (.ask runtime request isCancelled)).2 = some cache := by
  rcases respond_of_isInvalid (service runtime) cache invalid isCancelled with ⟨detail, refused⟩
  simp [perform, refused, Reply.isRefusal, ServiceError.isInvalid]

theorem isRefusal_perform (cache : Cache κ) (runtime : ρ) (request : Request) (isCancelled : Bool) :
    (perform service cache (.ask runtime request isCancelled)).1.isRefusal = true ↔
      request.IsInvalid := by
  constructor
  · intro refused
    by_contra valid
    rw [perform, respond_of_validate (service runtime) cache (validate_of_not_isInvalid valid)]
      at refused
    split at refused
    next answer after responded =>
      rcases Option.map_eq_some_iff.mp responded with ⟨_, isAnswer, same⟩
      cases same
      rw [isRefusal_of_answerFound? isAnswer] at refused
      cases refused
    next => cases refused
  · intro invalid
    exact (perform_of_isInvalid cache runtime invalid isCancelled).1

/-- A refusal leaves the cache as it was. -/
theorem perform_of_isRefusal {cache : Cache κ} {operation : Operation ρ}
    (refused : (perform service cache operation).1.isRefusal = true) :
    (perform service cache operation).2 = some cache := by
  cases operation with
  | ask runtime request isCancelled =>
      have invalid := (isRefusal_perform cache runtime request isCancelled).mp refused
      exact (perform_of_isInvalid cache runtime invalid isCancelled).2
  | showStats => rfl
  | reset => cases refused

theorem isRefusal_of_mem_trace {cache : Cache κ} {operations : List (Operation ρ)} {runtime : ρ}
    {request : Request} {isCancelled : Bool} {reply : Reply}
    (member : (.ask runtime request isCancelled, reply) ∈ trace service cache operations) :
    reply.isRefusal = true ↔ request.IsInvalid := by
  induction operations generalizing cache with
  | nil => cases member
  | cons operation operations ih =>
      rw [trace] at member
      rcases List.mem_cons.mp member with here | later
      · cases here
        exact isRefusal_perform cache runtime request isCancelled
      · split at later
        · exact ih later
        · cases later

variable (service)

/-- The exchanges of a run that are not refusals. -/
def accepted (cache : Cache κ) (operations : List (Operation ρ)) : List (Operation ρ × Reply) :=
  (trace service cache operations).filter fun exchange => !exchange.2.isRefusal

/-- Without the refused requests, a run has the same exchanges and ends with the same cache. -/
theorem run_accepted (cache : Cache κ) (operations : List (Operation ρ)) :
    trace service cache ((accepted service cache operations).map Prod.fst) =
      accepted service cache operations ∧
    cacheAfter service cache ((accepted service cache operations).map Prod.fst) =
      cacheAfter service cache operations := by
  induction operations generalizing cache with
  | nil => exact ⟨rfl, rfl⟩
  | cons operation operations ih =>
      by_cases refused : (perform service cache operation).1.isRefusal = true
      · -- The rest of the run starts with the same cache whether the operation is there or not.
        have unchanged := perform_of_isRefusal refused
        simpa [accepted, trace, cacheAfter, refused, unchanged] using ih cache
      · cases after : (perform service cache operation).2 with
        | none => simp [accepted, trace, cacheAfter, refused, after]
        | some next => simpa [accepted, trace, cacheAfter, refused, after] using ih next

/-- In every run, a request is refused exactly if it is invalid, and without the refused requests all
other replies and the counters are the same.  The provider of a request that is not refused is given byte
offsets that are boundaries of the buffer and not past its end. -/
theorem trace_accepted (cache : Cache κ) (operations : List (Operation ρ)) :
    (∀ runtime request isCancelled reply,
      (.ask runtime request isCancelled, reply) ∈ trace service cache operations →
        (reply.isRefusal = true ↔ request.IsInvalid)) ∧
    trace service cache ((accepted service cache operations).map Prod.fst) =
      accepted service cache operations ∧
    cacheAfter service cache ((accepted service cache operations).map Prod.fst) =
      cacheAfter service cache operations ∧
    ∀ runtime, (service runtime).IndexesBuffers → ∀ request isCancelled, ¬request.IsInvalid →
      (service runtime).respond cache request isCancelled =
        (service runtime).provide cache request request.located isCancelled ∧
      ∀ offset ∈ request.located.positions,
        Text.isBoundary request.code offset = true ∧ offset ≤ request.code.utf8ByteSize := by
  rcases run_accepted service cache operations with ⟨sameTrace, sameCache⟩
  refine ⟨?_, sameTrace, sameCache, ?_⟩
  · intro runtime request isCancelled reply member
    exact isRefusal_of_mem_trace member
  · intro runtime indexed request isCancelled valid
    refine ⟨respond_eq_provide indexed cache valid isCancelled, ?_⟩
    intro offset member
    have boundary := Request.isBoundary_of_mem_located member
    exact ⟨boundary, Text.le_utf8ByteSize_of_isBoundary boundary⟩

end Run

end Service

theorem Toolchain.indexesBuffers_service (toolchain : Toolchain) (cacheOptions : CacheOptions)
    (defaultOutput : OutputKind) (eagerDescriptions : Bool) (runtime : Runtime) :
    (toolchain.service cacheOptions defaultOutput eagerDescriptions runtime).IndexesBuffers := by
  intro context code output withDiagnostics isCancelled snapshot made
  rcases bind_eq_ok.mp made with ⟨analysis, -, built⟩
  rcases Snapshot.eq_of_build (Attempt.ofOutcome_eq_ok.mp built) with ⟨diagnostics, rfl⟩
  rfl

namespace Service

/-- A service without references, for which every buffer has a blank tree.  The names are gone through
forth or back. -/
def blank (isForth : Bool) : Service Context :=
  Toolchain.service ⟨⟨[]⟩, fun _ => .blank, { bundledPrelude := false }⟩ {} .library false
    ⟨if isForth then .asFiled else .backwards, ""⟩

/-- A question about one character of two code units. -/
def emojiRequest (question : Question) : Request :=
  ⟨"😀", none, none, question⟩

/-- A run with three requests that are invalid, and one whose position is inside of the character. -/
def emojiRun : List (Operation Bool) :=
  [.ask true (emojiRequest (.hover 3)) false, .showStats, .ask false (emojiRequest (.hover 1)) false,
    .ask true (emojiRequest (.rename 2 " \t")) false, .ask false (emojiRequest (.format 2 1)) true,
    .showStats, .reset]

/-- A position inside of a character is accepted and leads to the start of the character. -/
theorem trace_accepted_emoji :
    (blank false).IndexesBuffers ∧ ¬(emojiRequest (.hover 1)).IsInvalid ∧
    (trace blank {} emojiRun).map (fun exchange => exchange.2.isRefusal) =
      [true, false, false, true, true, false, false] ∧
    (accepted blank {} emojiRun).map Prod.fst =
      [.showStats, .ask false (emojiRequest (.hover 1)) false, .showStats, .reset] ∧
    trace blank {} [.showStats, .ask false (emojiRequest (.hover 1)) false, .showStats, .reset] =
      accepted blank {} emojiRun ∧
    (blank false).respond {} (emojiRequest (.hover 1)) false =
      (blank false).provide {} (emojiRequest (.hover 1)) (.hover 0) false ∧
    Text.isBoundary "😀" 0 = true := by
  have indexed : (blank false).IndexesBuffers := Toolchain.indexesBuffers_service _ _ _ _ _
  have valid : ¬(emojiRequest (.hover 1)).IsInvalid := by decide
  have kept : (accepted blank {} emojiRun).map Prod.fst =
      [.showStats, .ask false (emojiRequest (.hover 1)) false, .showStats, .reset] := by
    decide +kernel
  have located : (emojiRequest (.hover 1)).located = .hover 0 := by decide
  rcases trace_accepted blank {} emojiRun with ⟨-, sameTrace, -, provided⟩
  rcases provided false indexed (emojiRequest (.hover 1)) false valid with ⟨response, boundaries⟩
  rw [kept] at sameTrace
  rw [located] at response boundaries
  exact ⟨indexed, valid, by decide +kernel, kept, sameTrace, response,
    (boundaries 0 List.mem_cons_self).1⟩

end Service

end SourceLens
