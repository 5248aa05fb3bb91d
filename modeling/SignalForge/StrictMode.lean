import SignalForge.BatchRuns
import SignalForge.PipelineFrames
import SignalForge.RealtimePipelineIsolation

/-! Strict mode against the mode of production: what a strict pipeline gets through, a lenient one
gets through with the same results, and nothing failed in it. -/

set_option autoImplicit false

namespace Call

variable {ε σ τ α β : Type}

/-- Whatever the first call returns, the second returns as well, from the same state to the same
state. -/
def Below (first second : Call ε σ α) : Prop :=
  ∀ state value after, first state = (.ok value, after) → second state = (.ok value, after)

theorem Below.refl (call : Call ε σ α) : Below call call := fun _ _ _ returned => returned

theorem Below.bind {first second : Call ε σ α} {next other : α → Call ε σ β}
    (here : Below first second) (later : ∀ value, Below (next value) (other value)) :
    Below (first >>= next) (second >>= other) := by
  intro state value after returned
  obtain ⟨between, reached, headed, tailed⟩ := bind_eq_ok.mp returned
  exact bind_eq_ok.mpr ⟨between, reached, here _ _ _ headed, later between _ _ _ tailed⟩

theorem Below.guarded {first second : Call ε σ α} (below : Below first second) (fallback : α) :
    Below (Call.guarded true fallback first) (Call.guarded false fallback second) := by
  intro state value after returned
  rcases outcome : first state with ⟨reason | result, between⟩
  · rw [Call.guarded, catching_of_error outcome] at returned
    cases returned
  · rw [Call.guarded, catching_of_ok outcome] at returned
    cases returned
    rw [Call.guarded, catching_of_ok (below _ _ _ outcome)]

/-- A strictly guarded call that returned did so itself. -/
theorem guarded_true_ok {fallback value : α} {call : Call ε σ α} {state after : σ}
    (returned : Call.guarded true fallback call state = (.ok value, after)) :
    call state = (.ok value, after) := by
  rcases outcome : call state with ⟨reason | result, between⟩
  · rw [Call.guarded, catching_of_error outcome] at returned
    cases returned
  · rw [Call.guarded, catching_of_ok outcome] at returned
    exact returned

theorem Below.zoom {view : τ → σ} {put : τ → σ → τ} {first second : Call ε σ α}
    (below : Below first second) : Below (Call.zoom view put first) (Call.zoom view put second) := by
  intro state value after returned
  obtain ⟨inner, here, kept⟩ := zoom_eq_ok.mp returned
  exact zoom_eq_ok.mpr ⟨inner, below _ _ _ here, kept⟩

end Call

namespace SignalForge

namespace EventRouter

variable {ω π : Type}

theorem invoke_below (event : TelemetryEvent π)
    (handlers : List (TelemetryEvent π → Call Raised ω Unit)) :
    Call.Below (invoke true event handlers) (invoke false event handlers) := by
  induction handlers with
  | nil => exact Call.Below.refl _
  | cons handler rest ih =>
      exact ((Call.Below.refl _).guarded (0, 1)).bind fun _ => ih.bind fun _ => Call.Below.refl _

/-- Strictly, every handler that was invoked returned. -/
theorem invoke_strict_ok {event : TelemetryEvent π}
    {handlers : List (TelemetryEvent π → Call Raised ω Unit)} {world after : ω} {counts : Nat × Nat}
    (returned : invoke true event handlers world = (.ok counts, after)) :
    counts = (handlers.length, 0) := by
  induction handlers generalizing world counts with
  | nil =>
      cases returned
      rfl
  | cons handler rest ih =>
      obtain ⟨counted, between, called, returned⟩ := Call.bind_eq_ok.mp returned
      obtain ⟨later, final, following, last⟩ := Call.bind_eq_ok.mp returned
      obtain ⟨_, _, _, one⟩ := Call.bind_eq_ok.mp (Call.guarded_true_ok called)
      cases one
      cases last
      simp only [ih following, List.length_cons, Nat.add_comm, Nat.zero_add]

/-- The router outside strict mode. -/
def lenient (router : EventRouter ω π) : EventRouter ω π := { router with strict := false }

variable {router : EventRouter ω π}

theorem dispatchTo_below (strict : router.strict = true) (event : TelemetryEvent π)
    (matched : RouteKey) (fellBack : Bool) :
    Call.Below (dispatchTo router event matched fellBack)
      (dispatchTo router.lenient event matched fellBack) := by
  rw [dispatchTo, dispatchTo, lenient, strict]
  generalize (router.handlers.get? matched).getD [] = handlers
  cases handlers with
  | nil => exact Call.Below.refl _
  | cons handler rest => exact (invoke_below event (handler :: rest)).bind fun _ => Call.Below.refl _

theorem dispatch_below (strict : router.strict = true) (event : TelemetryEvent π) :
    Call.Below (router.dispatch event) (router.lenient.dispatch event) := by
  rw [dispatch, dispatch]
  show Call.Below (if router.handlers.contains (requestedKey event) then _ else _)
    (if router.handlers.contains (requestedKey event) then _ else _)
  split
  · exact dispatchTo_below strict event _ false
  · refine (Call.Below.refl _).bind fun compatible => ?_
    cases compatible with
    | none => exact Call.Below.refl _
    | some matched => exact dispatchTo_below strict event matched true

theorem dispatch_strict_ok (strict : router.strict = true) {event : TelemetryEvent π}
    {world after : ω} {dispatched : DispatchResult}
    (returned : router.dispatch event world = (.ok dispatched, after)) :
    dispatched.handlerFailures = 0 := by
  have sent : ∀ start key fellBack,
      dispatchTo router event key fellBack start = (.ok dispatched, after) →
        dispatched.handlerFailures = 0 := by
    intro start key fellBack called
    rw [dispatchTo, strict] at called
    generalize (router.handlers.get? key).getD [] = handlers at called
    cases handlers with
    | nil =>
        cases called
        rfl
    | cons handler rest =>
        obtain ⟨counts, between, invoked, last⟩ := Call.bind_eq_ok.mp called
        cases last
        exact congrArg Prod.snd (invoke_strict_ok invoked)
  rw [dispatch] at returned
  by_cases registered : router.handlers.contains (requestedKey event)
  · rw [if_pos registered] at returned
    exact sent _ _ false returned
  · rw [if_neg registered] at returned
    obtain ⟨compatible, between, _, called⟩ := Call.bind_eq_ok.mp returned
    rcases compatible with _ | compatible
    · cases called
      rfl
    · exact sent _ _ true called

end EventRouter

namespace RealtimePipeline

variable {ω π ρ : Type}

/-- The pipeline and its router outside strict mode. -/
def lenient (pipeline : RealtimePipeline ω π ρ) : RealtimePipeline ω π ρ :=
  { pipeline with router := pipeline.router.lenient, strict := false }

/-- The pipeline and its router re-raise what their components raise. -/
structure Strict (pipeline : RealtimePipeline ω π ρ) : Prop where
  stages : pipeline.strict = true
  router : pipeline.router.strict = true

theorem collect_below {α : Type} (calls : List (Call Raised ω (List α))) :
    Call.Below (collect true calls) (collect false calls) := by
  induction calls with
  | nil => exact Call.Below.refl _
  | cons call rest ih =>
      exact ((Call.Below.refl call).guarded []).bind fun _ => ih.bind fun _ => Call.Below.refl _

variable {pipeline : RealtimePipeline ω π ρ}

theorem Strict.processObserved_below (strict : Strict pipeline) (event : TelemetryEvent π)
    (partitionKey : String) (observation : WatermarkObservation Datetime) :
    Call.Below (processObserved pipeline event partitionKey observation)
      (processObserved pipeline.lenient event partitionKey observation) := by
  have aggregates : Call.Below (aggregate pipeline event partitionKey observation)
      (aggregate pipeline.lenient event partitionKey observation) := by
    rw [aggregate, aggregate, strict.stages]
    exact collect_below _
  have detects : ∀ emissions, Call.Below (detect pipeline event emissions)
      (detect pipeline.lenient event emissions) := by
    intro emissions
    rw [detect, detect, strict.stages]
    exact (collect_below _).bind fun _ => (collect_below _).bind fun _ => Call.Below.refl _
  have routes : ∀ detections, Call.Below (routeAlerts pipeline detections)
      (routeAlerts pipeline.lenient detections) := by
    intro detections
    have same : pipeline.lenient.alertRouter = pipeline.alertRouter := rfl
    rw [routeAlerts, routeAlerts, strict.stages, same]
    cases pipeline.alertRouter with
    | none => exact Call.Below.refl _
    | some route => exact (Call.Below.refl _).guarded []
  have writes : ∀ result, Call.Below (writeResult pipeline result)
      (writeResult pipeline.lenient result) := by
    intro result
    have same : pipeline.lenient.datasetWriter = pipeline.datasetWriter := rfl
    rw [writeResult, writeResult, strict.stages, same]
    cases pipeline.datasetWriter with
    | none => exact Call.Below.refl _
    | some write => exact (Call.Below.refl _).guarded ()
  exact aggregates.bind fun _ => (EventRouter.dispatch_below strict.router event).bind fun _ =>
    (detects _).bind fun _ => (routes _).bind fun _ => (Call.Below.refl _).bind fun _ =>
      (writes _).bind fun _ => Call.Below.refl _

theorem Strict.process_below (strict : Strict pipeline) (event : TelemetryEvent π) :
    Call.Below (process pipeline event) (process pipeline.lenient event) := by
  have extracts : Call.Below (extractKey pipeline event) (extractKey pipeline.lenient event) := by
    rw [extractKey, extractKey, strict.stages]
    exact (Call.Below.refl _).guarded none
  refine extracts.zoom.bind fun partitionKey => ?_
  cases partitionKey with
  | none => exact Call.Below.refl _
  | some partitionKey =>
      exact (Call.Below.refl _).bind fun observation =>
        (strict.processObserved_below event partitionKey observation).zoom

/-- Strictly, an event that is answered had its key extracted, and none of its handlers raised. -/
theorem Strict.process_ok (strict : Strict pipeline) {event : TelemetryEvent π}
    {state after : State ω} {result : ProcessingResult ρ}
    (returned : process pipeline event state = (.ok result, after)) :
    result.extractionFailed = false ∧ result.handlerFailures = 0 := by
  obtain ⟨partitionKey, between, extracting, returned⟩ := Call.bind_eq_ok.mp returned
  obtain ⟨components, extracted, rfl⟩ := Call.zoom_eq_ok.mp extracting
  rw [extractKey, strict.stages] at extracted
  obtain ⟨key, reached, _, keyed⟩ := Call.bind_eq_ok.mp (Call.guarded_true_ok extracted)
  cases partitionKey with
  | none =>
      split at keyed <;> cases keyed
  | some partitionKey =>
      obtain ⟨observation, observed, _, staged⟩ := Call.bind_eq_ok.mp returned
      obtain ⟨final, processed, _⟩ := Call.zoom_eq_ok.mp staged
      obtain ⟨emissions, aggregated, _, returned⟩ := Call.bind_eq_ok.mp processed
      obtain ⟨dispatched, heard, dispatching, returned⟩ := Call.bind_eq_ok.mp returned
      obtain ⟨_, _, _, returned⟩ := Call.bind_eq_ok.mp returned
      obtain ⟨_, _, _, returned⟩ := Call.bind_eq_ok.mp returned
      obtain ⟨_, _, _, returned⟩ := Call.bind_eq_ok.mp returned
      obtain ⟨_, _, _, last⟩ := Call.bind_eq_ok.mp returned
      cases last
      exact ⟨rfl, EventRouter.dispatch_strict_ok strict.router dispatching⟩

theorem Strict.processAll_ok (strict : Strict pipeline) {events : List (TelemetryEvent π)}
    {state after : State ω} {results : List (ProcessingResult ρ)}
    (returned : processAll pipeline events state = (.ok results, after)) :
    processAll pipeline.lenient events state = (.ok results, after) ∧
      ∀ result ∈ results, result.extractionFailed = false ∧ result.handlerFailures = 0 := by
  induction events generalizing state results with
  | nil =>
      cases returned
      exact ⟨rfl, List.forall_mem_nil _⟩
  | cons event rest ih =>
      obtain ⟨result, between, processed, returned⟩ := Call.bind_eq_ok.mp returned
      obtain ⟨later, final, following, last⟩ := Call.bind_eq_ok.mp returned
      cases last
      obtain ⟨same, clean⟩ := ih following
      refine ⟨?_, List.forall_mem_cons.mpr ⟨strict.process_ok processed, clean⟩⟩
      rw [processAll, Call.bind_of_ok (strict.process_below event _ _ _ processed),
        Call.bind_of_ok same]
      rfl

/-- A batch a strict pipeline gets through, the lenient pipeline gets through with the same
results, summary and state; and no extraction and no handler failed in it. -/
theorem Strict.processBatch_ok (strict : Strict pipeline) {events : List (TelemetryEvent π)}
    {state after : State ω} {results : List (ProcessingResult ρ)} {summary : BatchSummary}
    (returned : processBatch pipeline events state = (.ok (results, summary), after)) :
    processBatch pipeline.lenient events state = (.ok (results, summary), after) ∧
      summary.extractionFailures = 0 ∧ ∀ result ∈ results, result.handlerFailures = 0 := by
  rw [processBatch_eq] at returned ⊢
  obtain ⟨found, reached, processed, last⟩ := Call.bind_eq_ok.mp returned
  cases last
  obtain ⟨same, clean⟩ := strict.processAll_ok processed
  refine ⟨?_, ?_, fun result member => (clean result member).2⟩
  · rw [Call.bind_of_ok same]
    rfl
  · exact List.countP_eq_zero.mpr fun result member => by simp [(clean result member).1]

/-- The batches a strict pipeline gets through, the lenient one gets through with the same results,
summaries and state; and no extraction and no handler failed in any of them. -/
theorem Strict.processBatches_ok (strict : Strict pipeline)
    {batches : List (List (TelemetryEvent π))} {state after : State ω}
    {processed : List (List (ProcessingResult ρ) × BatchSummary)}
    (returned : processBatches pipeline batches state = (.ok processed, after)) :
    processBatches pipeline.lenient batches state = (.ok processed, after) ∧
      ∀ batch ∈ processed, batch.2.extractionFailures = 0 ∧
        ∀ result ∈ batch.1, result.handlerFailures = 0 := by
  induction batches generalizing state processed with
  | nil =>
      cases returned
      exact ⟨rfl, List.forall_mem_nil _⟩
  | cons events rest ih =>
      obtain ⟨⟨results, summary⟩, between, processedFirst, returned⟩ := Call.bind_eq_ok.mp returned
      obtain ⟨later, final, following, last⟩ := Call.bind_eq_ok.mp returned
      cases last
      obtain ⟨sameFirst, clean⟩ := strict.processBatch_ok processedFirst
      obtain ⟨sameRest, cleanRest⟩ := ih following
      refine ⟨?_, List.forall_mem_cons.mpr ⟨clean, cleanRest⟩⟩
      rw [processBatches, Call.bind_of_ok sameFirst, Call.bind_of_ok sameRest]
      rfl

section Sample

/-- A detector that raises on the third event. -/
def sampleStrict (strict : Bool) : RealtimePipeline Nat Unit Nat where
  router := ⟨.empty, strict, sampleDigits⟩
  extract _ := pure "store-1"
  aggregators := [("event_count", fun input => pure [sampleEmission input.partitionKey])]
  eventDetectors := [fun _ => do
    let seen ← Call.read id
    Call.write Nat.succ
    if seen = 2 then Call.raise (.exception "ValueError") else pure []]
  emissionDetectors := .empty
  alertRouter := none
  datasetWriter := none
  rules := ⟨fun world => (.epoch, world), some, fun _ => none, fun _ => 0#128⟩
  strict := strict

/-- Two batches of one event go through strictly; a third would not. -/
theorem processBatches_strict_sample :
    ∃ processed after,
      processBatches (sampleStrict true) [[sampleEvent "v1" (.utc .epoch)],
          [sampleEvent "v1" (.utc .epoch)]] ⟨⟨60, .empty⟩, 0⟩ = (.ok processed, after) ∧
        processBatches (sampleStrict true).lenient [[sampleEvent "v1" (.utc .epoch)],
            [sampleEvent "v1" (.utc .epoch)]] ⟨⟨60, .empty⟩, 0⟩ = (.ok processed, after) ∧
        ∀ batch ∈ processed, batch.2.extractionFailures = 0 ∧
          ∀ result ∈ batch.1, result.handlerFailures = 0 := by
  have returns : (processBatches (sampleStrict true) [[sampleEvent "v1" (.utc .epoch)],
      [sampleEvent "v1" (.utc .epoch)]] ⟨⟨60, .empty⟩, 0⟩).1.toBool = true := by decide +kernel
  rcases returned : processBatches (sampleStrict true) [[sampleEvent "v1" (.utc .epoch)],
      [sampleEvent "v1" (.utc .epoch)]] ⟨⟨60, .empty⟩, 0⟩ with ⟨reason | processed, after⟩
  · rw [returned] at returns
    cases returns
  · exact ⟨processed, after, rfl, Strict.processBatches_ok ⟨rfl, rfl⟩ returned⟩

end Sample

end RealtimePipeline

end SignalForge
