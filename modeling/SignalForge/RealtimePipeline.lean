import SignalForge.EventRouter
import SignalForge.FeatureBundling
import SignalForge.WatermarkManager

/-! The realtime pipeline: extraction, watermark, aggregators, router, detectors, alerts,
features and writer, over components of any kind. Log lines other than the batch summary are
left out. -/

set_option autoImplicit false

namespace SignalForge

/-- What the pipeline gives an aggregator. -/
structure AggregatorInput (π : Type) where
  partitionKey : String
  eventTimestamp : Datetime
  contribution : π
  classification : EventClassification
  watermark : Datetime
  traceId : String

/-- The components may raise on any call and share a state `ω` of any kind. -/
structure RealtimePipeline (ω π ρ : Type) where
  router : EventRouter ω π
  extract : TelemetryEvent π → Call Raised ω String
  aggregators : List (String × (AggregatorInput π → Call Raised ω (List (WindowEmission ρ))))
  eventDetectors : List (TelemetryEvent π → Call Raised ω (List DetectionEvent))
  /-- By aggregation name. -/
  emissionDetectors : OrderedDict String (List (WindowEmission ρ → Call Raised ω
    (List DetectionEvent)))
  alertRouter : Option (List DetectionEvent → Call Raised ω (List AlertEvent))
  datasetWriter : Option (ProcessingResult ρ → Call Raised ω Unit)
  rules : FeatureRules ω ρ
  strict : Bool

structure BatchSummary where
  events : Nat := 0
  onTime : Nat := 0
  lateTolerated : Nat := 0
  lateDropped : Nat := 0
  extractionFailures : Nat := 0
  emissions : Nat := 0
  detections : Nat := 0
  deriving DecidableEq, Repr

namespace RealtimePipeline

variable {ω π ρ : Type}

/-- The watermarks and the components' state. -/
structure State (ω : Type) where
  watermarks : WatermarkManager Datetime
  components : ω

/-- A call of a component. -/
def component {α : Type} (call : Call Raised ω α) : Call Raised (State ω) α :=
  Call.zoom State.components (fun state components => { state with components }) call

/-- Observers called in turn, each guarded, with all they returned. -/
def collect {α : Type} (strict : Bool) : List (Call Raised ω (List α)) → Call Raised ω (List α)
  | [] => pure []
  | call :: rest => do
      let items ← Call.guarded strict [] call
      let later ← collect strict rest
      pure (items ++ later)

/-- The partition key, or `none` where extraction failed. -/
def extractKey (pipeline : RealtimePipeline ω π ρ) (event : TelemetryEvent π) :
    Call Raised ω (Option String) :=
  Call.guarded pipeline.strict none do
    let partitionKey ← pipeline.extract event
    if partitionKey = "" then Call.raise (.valueError "partition extractor returned empty key")
    else pure (some partitionKey)

def extractionFailure (event : TelemetryEvent π) : ProcessingResult ρ where
  eventId := String.ofList event.eventId.text
  partitionKey := none
  classification := none
  handlersInvoked := 0
  handlerFailures := 0
  emissions := []
  detections := []
  alerts := []
  extractionFailed := true
  features := []

def aggregate (pipeline : RealtimePipeline ω π ρ) (event : TelemetryEvent π)
    (partitionKey : String) (observation : WatermarkObservation Datetime) :
    Call Raised ω (List (WindowEmission ρ)) :=
  collect pipeline.strict (pipeline.aggregators.map fun registered => registered.2 {
    partitionKey := partitionKey
    eventTimestamp := event.eventTimestamp
    contribution := event.payload
    classification := observation.classification
    watermark := observation.watermark
    traceId := String.ofList event.traceId.text })

/-- Event detectors first, then for each emission the detectors of its aggregation. -/
def detect (pipeline : RealtimePipeline ω π ρ) (event : TelemetryEvent π)
    (emissions : List (WindowEmission ρ)) : Call Raised ω (List DetectionEvent) := do
  let fromEvent ← collect pipeline.strict (pipeline.eventDetectors.map fun detector =>
    detector event)
  let fromEmissions ← collect pipeline.strict (emissions.flatMap fun emission =>
    ((pipeline.emissionDetectors.get? emission.aggregationName).getD []).map fun detector =>
      detector emission)
  pure (fromEvent ++ fromEmissions)

def routeAlerts (pipeline : RealtimePipeline ω π ρ) (detections : List DetectionEvent) :
    Call Raised ω (List AlertEvent) :=
  match pipeline.alertRouter with
  | none => pure []
  | some route => Call.guarded pipeline.strict [] (route detections)

def writeResult (pipeline : RealtimePipeline ω π ρ) (result : ProcessingResult ρ) :
    Call Raised ω Unit :=
  match pipeline.datasetWriter with
  | none => pure ()
  | some write => Call.guarded pipeline.strict () (write result)

/-- The stages after the watermark. -/
def processObserved (pipeline : RealtimePipeline ω π ρ) (event : TelemetryEvent π)
    (partitionKey : String) (observation : WatermarkObservation Datetime) :
    Call Raised ω (ProcessingResult ρ) := do
  let emissions ← aggregate pipeline event partitionKey observation
  let dispatched ← pipeline.router.dispatch event
  let detections ← detect pipeline event emissions
  let alerts ← routeAlerts pipeline detections
  let features ← FeatureBundling.bundleFeatureEvents pipeline.rules emissions
  let result := {
    eventId := String.ofList event.eventId.text
    partitionKey := some partitionKey
    classification := some observation.classification
    handlersInvoked := dispatched.handlersInvoked
    handlerFailures := dispatched.handlerFailures
    emissions := emissions
    detections := detections
    alerts := alerts
    extractionFailed := false
    features := features }
  writeResult pipeline result
  pure result

def processKeyed (pipeline : RealtimePipeline ω π ρ) (event : TelemetryEvent π) :
    Option String → Call Raised (State ω) (ProcessingResult ρ)
  | none => pure (extractionFailure event)
  | some partitionKey => do
      let observation ← Call.zoom State.watermarks (fun state watermarks => { state with watermarks })
        (WatermarkManager.observe partitionKey event.eventTimestamp)
      component (processObserved pipeline event partitionKey observation)

def process (pipeline : RealtimePipeline ω π ρ) (event : TelemetryEvent π) :
    Call Raised (State ω) (ProcessingResult ρ) := do
  let partitionKey ← component (extractKey pipeline event)
  processKeyed pipeline event partitionKey

/-- The counters after one more result. -/
def count (summary : BatchSummary) (result : ProcessingResult ρ) : BatchSummary :=
  let counted :=
    if result.extractionFailed then
      { summary with extractionFailures := summary.extractionFailures + 1 }
    else match result.classification with
      | some .onTime => { summary with onTime := summary.onTime + 1 }
      | some .lateTolerated => { summary with lateTolerated := summary.lateTolerated + 1 }
      | some .lateDropped => { summary with lateDropped := summary.lateDropped + 1 }
      | none => summary
  { counted with
    emissions := counted.emissions + result.emissions.length
    detections := counted.detections + result.detections.length }

/-- The loop of `process_batch`, with the results and counters so far. -/
def batchLoop (pipeline : RealtimePipeline ω π ρ) : List (TelemetryEvent π) →
    List (ProcessingResult ρ) → BatchSummary →
      Call Raised (State ω) (List (ProcessingResult ρ) × BatchSummary)
  | [], results, summary => pure (results, summary)
  | event :: rest, results, summary => do
      let result ← process pipeline event
      batchLoop pipeline rest (results ++ [result]) (count summary result)

/-- The results and the batch summary logged. -/
def processBatch (pipeline : RealtimePipeline ω π ρ) (events : List (TelemetryEvent π)) :
    Call Raised (State ω) (List (ProcessingResult ρ) × BatchSummary) := do
  let processed ← batchLoop pipeline events [] {}
  pure (processed.1, { processed.2 with events := processed.1.length })

end RealtimePipeline

end SignalForge
