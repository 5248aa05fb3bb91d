import SignalForge.PipelineCoupling
import SignalForge.PipelineFrames
import SignalForge.RealtimePipelineIsolation

/-! The alert router and the dataset writer only watch: with or without them a pipeline emits,
detects, bundles and counts the same. -/

set_option autoImplicit false

namespace SignalForge.RealtimePipeline

variable {ω τ π ρ : Type}

/-- The pipeline with no alert router and no dataset writer registered. -/
def unwatched (pipeline : RealtimePipeline ω π ρ) : RealtimePipeline ω π ρ :=
  { pipeline with alertRouter := none, datasetWriter := none }

/-- The alert router and the writer leave alone the part of the world the other components read
and write, and those read no other. -/
structure Watched (view : ω → τ) (pipeline : RealtimePipeline ω π ρ) : Prop where
  lenient : pipeline.strict = false
  extract : ∀ event, Call.Factors view (pipeline.extract event)
  aggregators : ∀ registered ∈ pipeline.aggregators, ∀ input,
    Call.Factors view (registered.2 input)
  handlers : ∀ key, ∀ handler ∈ (pipeline.router.handlers.get? key).getD [], ∀ event,
    Call.Factors view (handler event)
  eventDetectors : ∀ detector ∈ pipeline.eventDetectors, ∀ event,
    Call.Factors view (detector event)
  emissionDetectors : ∀ name, ∀ detector ∈ (pipeline.emissionDetectors.get? name).getD [],
    ∀ emission, Call.Factors view (detector emission)
  clock : Call.Factors view (Call.total pipeline.rules.now : Call Raised ω Instant)
  alertRouter : ∀ route, pipeline.alertRouter = some route → ∀ detections,
    Call.Frames view (route detections)
  datasetWriter : ∀ write, pipeline.datasetWriter = some write → ∀ result,
    Call.Frames view (write result)

section

variable {view : ω → τ} {pipeline : RealtimePipeline ω π ρ}

theorem couples_collect_factors {α : Type} (strict : Bool) {calls : List (Call Raised ω (List α))}
    (factors : ∀ call ∈ calls, Call.Factors view call) :
    Call.Couples (fun left right => view left = view right) (SameItems fun _ => True)
      (collect strict calls) (collect strict calls) := by
  refine couples_collect strict (List.forall₂_same.mpr fun call member => ?_)
  exact (Call.factors_iff_couples.mp (factors call member)).mono fun one other (same : one = other) =>
    ⟨same, fun _ _ => trivial⟩

theorem factors_bundle (clock : Call.Factors view (Call.total pipeline.rules.now : Call Raised ω Instant))
    (emissions : List (WindowEmission ρ)) :
    Call.Factors view (FeatureBundling.bundleFeatureEvents pipeline.rules emissions) := by
  rw [FeatureBundling.bundleFeatureEvents]
  induction (FeatureBundling.groups emissions).entries with
  | nil => exact Call.factors_pure _
  | cons group rest ih =>
      have here : Call.Factors view (FeatureBundling.bundleGroup pipeline.rules group) := by
        rw [FeatureBundling.bundleGroup]
        split
        · exact Call.factors_pure _
        · exact (Call.factors_lift _).bind fun _ => (Call.factors_lift _).bind fun _ =>
            clock.bind fun _ => (Call.factors_lift _).bind fun _ => Call.factors_pure _
      exact here.bind fun _ => ih.bind fun _ => Call.factors_pure _

/-- A framing observer on one side alone. -/
theorem couples_observer {α : Type} {call : Call Raised ω α} (frames : Call.Frames view call)
    (fallback other : α) :
    Call.Couples (fun left right => view left = view right) (fun _ _ => True)
      (Call.guarded false fallback call) (pure other : Call Raised ω α) := by
  refine Call.couples_of_returns fun here there same => ?_
  obtain ⟨value, after, returned⟩ := Call.guarded_returns fallback call here
  refine ⟨value, after, returned, trivial, ?_⟩
  exact ((frames.guarded false fallback).of_ok returned).trans same

theorem Watched.coupled (watched : Watched view pipeline) :
    Coupled (fun left right => view left = view right) (fun _ _ => True) (fun _ => True)
      (fun _ => True) (fun _ => True) pipeline pipeline.unwatched where
  extracts {event} _ := by
    refine Call.Couples.guarded ?_ pipeline.strict rfl
    refine (Call.factors_iff_couples.mp (watched.extract event)).bind ?_
    rintro partitionKey _ rfl
    split
    · exact Call.couples_raise _
    · exact Call.couples_pure rfl
  aggregates {event} partitionKey observation _ := by
    refine couples_collect_factors pipeline.strict fun call member => ?_
    obtain ⟨registered, listed, rfl⟩ := List.mem_map.mp member
    exact watched.aggregators registered listed _
  dispatches {event} _ := by
    have same : EventRouter.Coupled (fun left right => view left = view right)
        (fun _ : TelemetryEvent π => True) pipeline.router pipeline.router :=
      ⟨rfl, rfl, rfl, fun _ => rfl, fun key => List.forall₂_same.mpr fun handler member event _ =>
        (Call.factors_iff_couples.mp (watched.handlers key handler member event)).mono
          fun _ _ _ => trivial⟩
    exact same.dispatch trivial
  detects {event emissions} _ _ := by
    refine (couples_collect_factors pipeline.strict fun call member => ?_).bind ?_
    · obtain ⟨detector, listed, rfl⟩ := List.mem_map.mp member
      exact watched.eventDetectors detector listed event
    · intro fromEvent _ events
      refine (couples_collect_factors pipeline.strict fun call member => ?_).bind
        fun fromEmissions _ emitted => Call.couples_pure (events.append emitted)
      obtain ⟨emission, _, mapped⟩ := List.mem_flatMap.mp member
      obtain ⟨detector, listed, rfl⟩ := List.mem_map.mp mapped
      exact watched.emissionDetectors _ detector listed emission
  routes {detections} _ := by
    rw [routeAlerts]
    cases router : pipeline.alertRouter with
    | none => exact Call.couples_pure trivial
    | some route =>
        rw [watched.lenient]
        exact couples_observer (watched.alertRouter route router detections) [] []
  bundles {emissions} _ := Call.factors_iff_couples.mp (factors_bundle watched.clock emissions)
  writes {one other} _ := by
    rw [writeResult]
    cases writer : pipeline.datasetWriter with
    | none => exact Call.couples_pure trivial
    | some write =>
        rw [watched.lenient]
        exact couples_observer (watched.datasetWriter write writer one) () ()

/-- Batches of a watched pipeline and of the same pipeline unwatched: the same exception, or the
same results but for the alerts, the same summary and the same watermarks. -/
theorem Watched.passive (watched : Watched view pipeline) (events : List (TelemetryEvent π))
    (state : State ω) :
    Call.Matched (fun one other => List.Forall₂ (Agree fun _ _ => True) one.1 other.1 ∧
        one.2 = other.2)
      (processBatch pipeline events state).1 (processBatch pipeline.unwatched events state).1 ∧
    (processBatch pipeline events state).2.watermarks =
        (processBatch pipeline.unwatched events state).2.watermarks ∧
      view (processBatch pipeline events state).2.components =
        view (processBatch pipeline.unwatched events state).2.components :=
  watched.coupled.processBatch trivial (fun _ _ => trivial) state state ⟨rfl, rfl⟩

end

section Sample

/-- A writer that counts the results it is given, and raises on each. -/
def sampleWriter (_ : ProcessingResult Nat) : Call Raised (Nat × Nat) Unit := do
  Call.write fun world => (world.1, world.2 + 1)
  Call.raise (.exception "ClientError")

/-- The first component counts the events, the second the results written. -/
def sampleWatched : RealtimePipeline (Nat × Nat) Unit Nat where
  router := ⟨.empty, false, sampleDigits⟩
  extract _ := pure "store-1"
  aggregators := [("event_count", fun input => pure [sampleEmission input.partitionKey])]
  eventDetectors := [fun _ => Call.write (fun world => (world.1 + 1, world.2)) >>= fun _ => pure []]
  emissionDetectors := .empty
  alertRouter := none
  datasetWriter := some sampleWriter
  rules := ⟨fun world => (.epoch, world), some, fun _ => none, fun _ => 0#128⟩
  strict := false

theorem passive_sample :
    Call.Matched (fun one other => List.Forall₂ (Agree fun _ _ => True) one.1 other.1 ∧
        one.2 = other.2)
      (processBatch sampleWatched [sampleEvent "v1" (.utc .epoch)] ⟨⟨60, .empty⟩, (0, 0)⟩).1
      (processBatch sampleWatched.unwatched [sampleEvent "v1" (.utc .epoch)]
        ⟨⟨60, .empty⟩, (0, 0)⟩).1 ∧
    (processBatch sampleWatched [sampleEvent "v1" (.utc .epoch)]
        ⟨⟨60, .empty⟩, (0, 0)⟩).2.watermarks =
      (processBatch sampleWatched.unwatched [sampleEvent "v1" (.utc .epoch)]
        ⟨⟨60, .empty⟩, (0, 0)⟩).2.watermarks ∧
      (processBatch sampleWatched [sampleEvent "v1" (.utc .epoch)]
          ⟨⟨60, .empty⟩, (0, 0)⟩).2.components.1 =
        (processBatch sampleWatched.unwatched [sampleEvent "v1" (.utc .epoch)]
          ⟨⟨60, .empty⟩, (0, 0)⟩).2.components.1 := by
  have watched : Watched Prod.fst sampleWatched := by
    refine ⟨rfl, fun _ => Call.factors_pure _, ?_, fun _ _ member => (by cases member), ?_,
      fun _ _ member => (by cases member), fun _ _ same => ⟨rfl, same⟩,
      fun _ found => (by cases found), ?_⟩
    · intro registered member input
      obtain rfl := List.mem_singleton.mp member
      exact Call.factors_pure _
    · intro detector member event
      obtain rfl := List.mem_singleton.mp member
      refine Call.Factors.bind (Call.factors_write ?_) fun _ => Call.factors_pure _
      intro left right same
      exact congrArg Nat.succ same
    · rintro _ ⟨⟩ result
      exact Call.Frames.bind (Call.frames_write fun _ => rfl) fun _ => Call.frames_raise _
  exact watched.passive [sampleEvent "v1" (.utc .epoch)] ⟨⟨60, .empty⟩, (0, 0)⟩

end Sample

end SignalForge.RealtimePipeline
