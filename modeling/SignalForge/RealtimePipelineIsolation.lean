import SignalForge.DatasetWriterConservation
import SignalForge.RealtimePipeline

/-! Failure isolation in the realtime pipeline: what each of its components raises stays with
that component, and a batch raises exactly where an unguarded stage refuses an event. -/

set_option autoImplicit false

namespace SignalForge.RealtimePipeline

section

variable {ω π ρ : Type}

theorem collect_returns {α : Type} (calls : List (Call Raised ω (List α))) (world : ω) :
    (collect false calls).Returns world := by
  induction calls generalizing world with
  | nil => exact Call.returns_pure _ _
  | cons call rest ih =>
      apply Call.Returns.bind (Call.guarded_returns _ _ _)
      intro items between _
      exact (ih between).bind fun _ _ _ => Call.returns_pure _ _

variable {pipeline : RealtimePipeline ω π ρ} {event : TelemetryEvent π}

theorem extractKey_returns (lenient : pipeline.strict = false) (world : ω) :
    (extractKey pipeline event).Returns world := by
  rw [extractKey, lenient]
  exact Call.guarded_returns _ _ _

/-- A key that was extracted is not empty. -/
theorem extractKey_ok (lenient : pipeline.strict = false) {partitionKey : String}
    {world extracted : ω}
    (returned : extractKey pipeline event world = (.ok (some partitionKey), extracted)) :
    partitionKey ≠ "" := by
  rw [extractKey, lenient] at returned
  rcases Call.guarded_eq_ok returned with keyed | replaced
  · obtain ⟨key, between, _, checked⟩ := Call.bind_eq_ok.mp keyed
    split at checked
    · cases checked
    · rename_i named
      cases checked
      exact named
  · cases replaced

theorem detect_returns (lenient : pipeline.strict = false) (emissions : List (WindowEmission ρ))
    (world : ω) : (detect pipeline event emissions).Returns world := by
  rw [detect, lenient]
  apply Call.Returns.bind (collect_returns _ _)
  intro fromEvent between _
  exact (collect_returns _ between).bind fun _ _ _ => Call.returns_pure _ _

theorem routeAlerts_returns (lenient : pipeline.strict = false) (detections : List DetectionEvent)
    (world : ω) : (routeAlerts pipeline detections).Returns world := by
  rw [routeAlerts, lenient]
  split
  · exact Call.returns_pure _ _
  · exact Call.guarded_returns _ _ _

theorem writeResult_returns (lenient : pipeline.strict = false) (result : ProcessingResult ρ)
    (world : ω) : (writeResult pipeline result).Returns world := by
  rw [writeResult, lenient]
  split
  · exact Call.returns_pure _ _
  · exact Call.guarded_returns _ _ _

/-- The stages from the aggregators to the alert router, with the result before its features. -/
def beforeBundling (pipeline : RealtimePipeline ω π ρ) (event : TelemetryEvent π)
    (partitionKey : String) (observation : WatermarkObservation Datetime) :
    Call Raised ω (ProcessingResult ρ) := do
  let emissions ← aggregate pipeline event partitionKey observation
  let dispatched ← pipeline.router.dispatch event
  let detections ← detect pipeline event emissions
  let alerts ← routeAlerts pipeline detections
  pure {
    eventId := String.ofList event.eventId.text
    partitionKey := some partitionKey
    classification := some observation.classification
    handlersInvoked := dispatched.handlersInvoked
    handlerFailures := dispatched.handlerFailures
    emissions := emissions
    detections := detections
    alerts := alerts
    extractionFailed := false
    features := [] }

def bundleAndWrite (pipeline : RealtimePipeline ω π ρ) (staged : ProcessingResult ρ) :
    Call Raised ω (ProcessingResult ρ) := do
  let features ← FeatureBundling.bundleFeatureEvents pipeline.rules staged.emissions
  writeResult pipeline { staged with features }
  pure { staged with features }

theorem processObserved_eq (partitionKey : String) (observation : WatermarkObservation Datetime) :
    processObserved pipeline event partitionKey observation =
      beforeBundling pipeline event partitionKey observation >>= bundleAndWrite pipeline := by
  simp only [processObserved, beforeBundling, Call.bind_assoc, Call.pure_bind, bundleAndWrite]

theorem beforeBundling_returns (lenient : pipeline.strict = false)
    (routerLenient : pipeline.router.strict = false) {partitionKey : String}
    {observation : WatermarkObservation Datetime} {world : ω} :
    (beforeBundling pipeline event partitionKey observation).Returns world ↔
      pipeline.router.Routable event := by
  have aggregates : (aggregate pipeline event partitionKey observation).Returns world := by
    rw [aggregate, lenient]
    exact collect_returns _ _
  obtain ⟨emissions, aggregated, emitted⟩ := aggregates
  rw [beforeBundling, Call.returns_bind_of_ok emitted, Call.returns_bind_of_total]
  · exact EventRouter.dispatch_returns routerLenient
  · intro dispatched between
    apply Call.Returns.bind (detect_returns lenient emissions between)
    intro detections detected _
    apply Call.Returns.bind (routeAlerts_returns lenient detections detected)
    intro alerts alerted _
    exact Call.returns_pure _ _

theorem bundleAndWrite_returns (lenient : pipeline.strict = false) {staged : ProcessingResult ρ}
    {world : ω} :
    (bundleAndWrite pipeline staged).Returns world ↔ FeatureBundling.AllBundleable pipeline.rules
      (FeatureBundling.groups staged.emissions).entries world := by
  rw [bundleAndWrite, Call.returns_bind_of_total]
  · exact FeatureBundling.bundleFeatureEvents_returns
  · intro features between
    exact (writeResult_returns lenient _ between).bind fun _ _ _ => Call.returns_pure _ _

/-- The schemas take the feature event of every group of the emissions staged. -/
def Bundleable (pipeline : RealtimePipeline ω π ρ) (event : TelemetryEvent π)
    (partitionKey : String) (observation : WatermarkObservation Datetime) (world : ω) : Prop :=
  ∀ staged reached,
    beforeBundling pipeline event partitionKey observation world = (.ok staged, reached) →
      FeatureBundling.AllBundleable pipeline.rules
        (FeatureBundling.groups staged.emissions).entries reached

theorem processObserved_returns (lenient : pipeline.strict = false)
    (routerLenient : pipeline.router.strict = false) {partitionKey : String}
    {observation : WatermarkObservation Datetime} {world : ω} :
    (processObserved pipeline event partitionKey observation).Returns world ↔
      pipeline.router.Routable event ∧
        Bundleable pipeline event partitionKey observation world := by
  rw [processObserved_eq, Call.returns_bind, ← beforeBundling_returns lenient routerLenient]
  simp only [bundleAndWrite_returns lenient]
  constructor
  · rintro ⟨staged, reached, returned, taken⟩
    refine ⟨⟨staged, reached, returned⟩, ?_⟩
    intro other later same
    rw [returned] at same
    cases same
    exact taken
  · rintro ⟨⟨staged, reached, returned⟩, bundleable⟩
    exact ⟨staged, reached, returned, bundleable staged reached returned⟩

/-- No unguarded stage refuses the event: no key is extracted, or a watermark follows, the
version is routable, and the features of what is emitted are taken. -/
def Isolable (pipeline : RealtimePipeline ω π ρ) (event : TelemetryEvent π) (state : State ω) :
    Prop :=
  ∀ partitionKey extracted,
    extractKey pipeline event state.components = (.ok (some partitionKey), extracted) →
      state.watermarks.Observable partitionKey event.eventTimestamp ∧
        pipeline.router.Routable event ∧
          ∀ observation moved,
            WatermarkManager.observe partitionKey event.eventTimestamp state.watermarks =
                (.ok observation, moved) →
              Bundleable pipeline event partitionKey observation extracted

theorem processKeyed_returns (lenient : pipeline.strict = false)
    (routerLenient : pipeline.router.strict = false) {partitionKey : String}
    (named : partitionKey ≠ "") {state : State ω} :
    (processKeyed pipeline event (some partitionKey)).Returns state ↔
      state.watermarks.Observable partitionKey event.eventTimestamp ∧
        pipeline.router.Routable event ∧
          ∀ observation moved,
            WatermarkManager.observe partitionKey event.eventTimestamp state.watermarks =
                (.ok observation, moved) →
              Bundleable pipeline event partitionKey observation state.components := by
  have later : ∀ observation (between : State ω),
      (component (processObserved pipeline event partitionKey observation)).Returns between ↔
        pipeline.router.Routable event ∧
          Bundleable pipeline event partitionKey observation between.components := by
    intro observation between
    rw [component, Call.returns_zoom, processObserved_returns lenient routerLenient]
  rw [processKeyed, Call.returns_bind, ← WatermarkManager.observe_returns_iff named]
  constructor
  · rintro ⟨observation, between, observed, rest⟩
    obtain ⟨routable, bundleable⟩ := (later observation between).mp rest
    obtain ⟨moved, observes, rfl⟩ := Call.zoom_eq_ok.mp observed
    refine ⟨⟨observation, moved, observes⟩, routable, ?_⟩
    intro other after same
    rw [observes] at same
    cases same
    exact bundleable
  · rintro ⟨⟨observation, moved, observes⟩, routable, bundleable⟩
    refine ⟨observation, _, Call.zoom_eq_ok.mpr ⟨moved, observes, rfl⟩, ?_⟩
    exact (later observation _).mpr ⟨routable, bundleable observation moved observes⟩

/-- One event raises exactly where an unguarded stage refuses it. -/
theorem process_returns (lenient : pipeline.strict = false)
    (routerLenient : pipeline.router.strict = false) {state : State ω} :
    (process pipeline event).Returns state ↔ Isolable pipeline event state := by
  have extracts : (extractKey pipeline event).Returns state.components :=
    extractKey_returns lenient state.components
  obtain ⟨partitionKey, extracted, keyed⟩ := extracts
  rw [process, component, Call.returns_bind_of_ok (Call.zoom_eq_ok.mpr ⟨extracted, keyed, rfl⟩), Isolable]
  cases partitionKey with
  | none =>
      refine ⟨?_, fun _ => Call.returns_pure _ _⟩
      rintro _ partitionKey other same
      rw [keyed] at same
      cases same
  | some partitionKey =>
      rw [processKeyed_returns lenient routerLenient (extractKey_ok lenient keyed)]
      constructor
      · rintro isolable other between same
        rw [keyed] at same
        cases same
        exact isolable
      · exact fun isolable => isolable partitionKey extracted keyed

/-- The result is what processing the event returned, under the event's own id. -/
structure Answers (pipeline : RealtimePipeline ω π ρ) (event : TelemetryEvent π)
    (result : ProcessingResult ρ) : Prop where
  processed : ∃ before after, process pipeline event before = (.ok result, after)
  eventId : result.eventId = String.ofList event.eventId.text

/-- The result falls under exactly one counter. -/
def Counted (result : ProcessingResult ρ) : Prop :=
  result.extractionFailed = true ∨ result.classification.isSome

theorem beforeBundling_ok {partitionKey : String} {observation : WatermarkObservation Datetime}
    {world reached : ω} {staged : ProcessingResult ρ}
    (returned : beforeBundling pipeline event partitionKey observation world =
      (.ok staged, reached)) :
    staged.eventId = String.ofList event.eventId.text ∧ Counted staged := by
  simp only [beforeBundling, Call.bind_eq_ok, Call.pure_apply, Prod.mk.injEq,
    Except.ok.injEq] at returned
  obtain ⟨_, _, _, _, _, _, _, _, _, _, _, _, rfl, _⟩ := returned
  exact ⟨rfl, Or.inr rfl⟩

theorem bundleAndWrite_ok {staged result : ProcessingResult ρ} {world after : ω}
    (returned : bundleAndWrite pipeline staged world = (.ok result, after)) :
    ∃ features written, FeatureBundling.bundleFeatureEvents pipeline.rules staged.emissions world =
      (.ok features, written) ∧ result = { staged with features } := by
  simp only [bundleAndWrite, Call.bind_eq_ok, Call.pure_apply, Prod.mk.injEq,
    Except.ok.injEq] at returned
  obtain ⟨features, written, bundled, _, _, _, rfl, _⟩ := returned
  exact ⟨features, written, bundled, rfl⟩

/-- A processed event is answered once, under its own id, and its features are the bundle of
its emissions. -/
theorem process_ok {state after : State ω} {result : ProcessingResult ρ}
    (returned : process pipeline event state = (.ok result, after)) :
    result.eventId = String.ofList event.eventId.text ∧ Counted result ∧
      ∃ before bundled, FeatureBundling.bundleFeatureEvents pipeline.rules result.emissions before =
        (.ok result.features, bundled) := by
  obtain ⟨partitionKey, between, _, keyed⟩ := Call.bind_eq_ok.mp returned
  cases partitionKey with
  | none =>
      cases keyed
      exact ⟨rfl, Or.inl rfl, state.components, state.components, rfl⟩
  | some partitionKey =>
      obtain ⟨observation, observed, _, rest⟩ := Call.bind_eq_ok.mp keyed
      obtain ⟨inner, staging, _⟩ := Call.zoom_eq_ok.mp rest
      rw [processObserved_eq] at staging
      obtain ⟨staged, reached, before, bundling⟩ := Call.bind_eq_ok.mp staging
      obtain ⟨eventId, counted⟩ := beforeBundling_ok before
      obtain ⟨features, written, bundled, rfl⟩ := bundleAndWrite_ok bundling
      exact ⟨eventId, counted, reached, written, bundled⟩

/-- Over emissions of UTC windows, an answer is a result the dataset writer keeps together. -/
theorem Answers.builtByProcess {result : ProcessingResult ρ} (answers : Answers pipeline event result)
    (utc : ∀ emission ∈ result.emissions, emission.windowStart.offset = 0) :
    InMemoryDatasetWriter.BuiltByProcess pipeline.rules result := by
  obtain ⟨before, after, returned⟩ := answers.processed
  obtain ⟨_, _, bundled⟩ := process_ok returned
  exact ⟨bundled, utc⟩

/-- Every event of the run is isolable in the state it meets. -/
def RunIsolable (pipeline : RealtimePipeline ω π ρ) : List (TelemetryEvent π) → State ω → Prop
  | [], _ => True
  | event :: rest, state =>
      Isolable pipeline event state ∧ ∀ result after,
        process pipeline event state = (.ok result, after) → RunIsolable pipeline rest after

theorem batchLoop_returns (lenient : pipeline.strict = false)
    (routerLenient : pipeline.router.strict = false) {events : List (TelemetryEvent π)}
    {results : List (ProcessingResult ρ)} {summary : BatchSummary} {state : State ω} :
    (batchLoop pipeline events results summary).Returns state ↔ RunIsolable pipeline events state := by
  induction events generalizing results summary state with
  | nil => exact ⟨fun _ => trivial, fun _ => Call.returns_pure _ _⟩
  | cons event rest ih =>
      rw [batchLoop, RunIsolable, ← process_returns lenient routerLenient, Call.returns_bind]
      constructor
      · rintro ⟨result, after, returned, later⟩
        refine ⟨⟨result, after, returned⟩, ?_⟩
        intro other final same
        rw [returned] at same
        cases same
        exact ih.mp later
      · rintro ⟨⟨result, after, returned⟩, later⟩
        exact ⟨result, after, returned, ih.mpr (later result after returned)⟩

/-- The events the batch summary has put under one of its counters. -/
def settled (summary : BatchSummary) : Nat :=
  summary.onTime + summary.lateTolerated + summary.lateDropped + summary.extractionFailures

theorem settled_count {summary : BatchSummary} {result : ProcessingResult ρ}
    (counted : Counted result) : settled (count summary result) = settled summary + 1 := by
  rw [count]
  split
  · simp only [settled]
    omega
  · rename_i keyed
    rcases counted with failed | classified
    · exact absurd failed keyed
    · obtain ⟨classification, found⟩ := Option.isSome_iff_exists.mp classified
      rw [found]
      cases classification <;> simp only [settled] <;> omega

/-- The loop answers each event once, in order, and counts it once. -/
theorem batchLoop_ok {events : List (TelemetryEvent π)} {results answered : List (ProcessingResult ρ)}
    {summary final : BatchSummary} {state after : State ω}
    (returned : batchLoop pipeline events results summary state = (.ok (answered, final), after)) :
    (∃ answers, answered = results ++ answers ∧ List.Forall₂ (Answers pipeline) events answers) ∧
      settled final = settled summary + events.length := by
  induction events generalizing results summary state with
  | nil =>
      cases returned
      exact ⟨⟨[], (List.append_nil _).symm, .nil⟩, rfl⟩
  | cons event rest ih =>
      obtain ⟨result, between, here, later⟩ := Call.bind_eq_ok.mp returned
      obtain ⟨⟨answers, same, listed⟩, settles⟩ := ih later
      obtain ⟨eventId, counted, _⟩ := process_ok here
      have extended : answered = results ++ result :: answers := by
        rw [same, List.append_assoc, List.singleton_append]
      refine ⟨⟨result :: answers, extended, .cons ⟨⟨state, between, here⟩, eventId⟩ listed⟩, ?_⟩
      rw [settles, settled_count counted, List.length_cons]
      omega

/-- A batch returns one answer for each event, in order, its four counters adding up to the
number of events, exactly when no unguarded stage refuses an event in the state it meets. -/
theorem processBatch_isolates (pipeline : RealtimePipeline ω π ρ)
    (lenient : pipeline.strict = false) (routerLenient : pipeline.router.strict = false)
    (events : List (TelemetryEvent π)) (state : State ω) :
    (∃ results summary after,
      processBatch pipeline events state = (.ok (results, summary), after) ∧
        List.Forall₂ (Answers pipeline) events results ∧ summary.events = events.length ∧
        summary.onTime + summary.lateTolerated + summary.lateDropped +
          summary.extractionFailures = events.length) ↔
      RunIsolable pipeline events state := by
  rw [← batchLoop_returns lenient routerLenient]
  constructor
  · rintro ⟨results, summary, after, returned, _⟩
    obtain ⟨processed, between, looped, _⟩ := Call.bind_eq_ok.mp returned
    exact ⟨processed, between, looped⟩
  · rintro ⟨⟨results, summary⟩, after, looped⟩
    obtain ⟨⟨answers, same, answered⟩, settles⟩ := batchLoop_ok looped
    rw [List.nil_append] at same
    subst same
    refine ⟨results, { summary with events := results.length }, after, ?_, answered,
      answered.length_eq.symm, ?_⟩
    · rw [processBatch, Call.bind_of_ok looped]
      rfl
    · exact settles.trans (Nat.zero_add _)

end

/-- A clock that stands at a fixed time and features of any number. -/
def sampleRules : FeatureRules Unit Nat where
  now world := (.epoch, world)
  featureValue := some
  parseUuid _ := none
  uuid5 _ := 0#128

def sampleDigits : DecimalDigits where
  isDigit := Char.isDigit
  value? c := if c.isDigit then some (c.toNat - 48) else none
  isDigit_ascii _ _ := rfl
  value_ascii _ _ := rfl

theorem fiveSeconds_inRange : minMicros ≤ 5 * microsPerSecond ∧ 5 * microsPerSecond ≤ maxMicros := by
  decide

def sampleEmission (partitionKey : String) : WindowEmission Nat where
  partitionKey := partitionKey
  aggregationName := "event_count"
  windowStart := .utc .epoch
  windowEnd := .utc ⟨5 * microsPerSecond, fiveSeconds_inRange.1, fiveSeconds_inRange.2⟩
  value := 1
  eventCount := 1
  isRepair := false
  lastContributingTraceId := none

/-- A pipeline with one aggregator, which emits a window for every event. -/
def samplePipeline (partitionKey : String) : RealtimePipeline Unit Unit Nat where
  router := ⟨.empty, false, sampleDigits⟩
  extract _ := pure partitionKey
  aggregators := [("event_count", fun input => pure [sampleEmission input.partitionKey])]
  eventDetectors := []
  emissionDetectors := .empty
  alertRouter := none
  datasetWriter := none
  rules := sampleRules
  strict := false

def sampleEvent (schemaVersion : String) (eventTimestamp : Datetime) : TelemetryEvent Unit where
  eventId := 0#128
  eventType := "store.transaction"
  schemaVersion := schemaVersion
  traceId := 0#128
  eventTimestamp := eventTimestamp
  payload := ()

def sampleState : State Unit := ⟨⟨60, .empty⟩, ()⟩

theorem bundleable_sample : FeatureBundling.Bundleable sampleRules .epoch
    [sampleEmission "store-1"] := by
  refine ⟨?_, ?_, ?_⟩
  · rintro text ⟨⟩
  · rintro first ⟨⟩
    decide +kernel
  · rintro first ⟨⟩
    decide

/-- The same pipeline, with an extractor that knows the store of `v1` events alone. -/
def sampleSelective : RealtimePipeline Unit Unit Nat :=
  { samplePipeline "store-1" with
    extract := fun event =>
      if event.schemaVersion = "v1" then pure "store-1" else Call.raise .keyError }

def sampleBatch : List (TelemetryEvent Unit) :=
  [sampleEvent "v2" (.utc .epoch), sampleEvent "v1" (.utc .epoch)]

theorem isolable_sample : Isolable sampleSelective (sampleEvent "v1" (.utc .epoch)) sampleState := by
  intro partitionKey extracted keyed
  cases keyed
  refine ⟨⟨Or.inl rfl, Or.inr (Or.inr (by decide))⟩, Or.inr ⟨⟨1, 0, 0⟩, by decide +kernel⟩, ?_⟩
  intro observation moved _ staged reached emitted
  cases emitted
  exact ⟨bundleable_sample, trivial⟩

/-- The extractor raises for the first event, and both are answered. -/
theorem processBatch_isolates_two :
    ∃ results summary after,
      processBatch sampleSelective sampleBatch sampleState = (.ok (results, summary), after) ∧
        List.Forall₂ (Answers sampleSelective) sampleBatch results ∧ summary.events = 2 ∧
        summary.onTime + summary.lateTolerated + summary.lateDropped +
          summary.extractionFailures = 2 := by
  refine (processBatch_isolates sampleSelective rfl rfl sampleBatch sampleState).mpr ⟨?_, ?_⟩
  · -- no key, so none of the unguarded stages is reached
    intro partitionKey extracted keyed
    cases keyed
  · intro result after failed
    cases failed
    exact ⟨isolable_sample, fun _ _ _ => trivial⟩

/-- The instant one microsecond after `datetime.min`. -/
def earliest : Instant := ⟨minMicros + 1, by decide, by decide⟩

/-- A partition key the feature schema refuses, a version of four components and a timestamp
within the lateness of `datetime.min` each raise out of a batch whose other event is fine. -/
theorem unguarded_stages_raise :
    (processBatch (samplePipeline "Store-1")
        [sampleEvent "v1" (.utc .epoch), sampleEvent "v1" (.utc .epoch)] sampleState).1.map
          (fun _ => ()) = .error (.validationError ["partition_key"]) ∧
    (processBatch (samplePipeline "store-1")
        [sampleEvent "v1" (.utc .epoch), sampleEvent "v1.2.3.4" (.utc .epoch)] sampleState).1.map
          (fun _ => ()) = .error (.valueError "Unsupported schema format: v1.2.3.4") ∧
    (processBatch (samplePipeline "store-1")
        [sampleEvent "v1" (.utc earliest), sampleEvent "v1" (.utc .epoch)] sampleState).1.map
          (fun _ => ()) = .error .overflowError ∧
    (samplePipeline "Store-1").strict = false ∧ (samplePipeline "Store-1").router.strict = false ∧
    (samplePipeline "store-1").strict = false ∧ (samplePipeline "store-1").router.strict = false :=
  ⟨by decide +kernel, by decide +kernel, by decide +kernel, rfl, rfl, rfl, rfl⟩

end SignalForge.RealtimePipeline
