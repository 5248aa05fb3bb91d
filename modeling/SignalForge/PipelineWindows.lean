import SignalForge.BatchRuns
import SignalForge.PipelineFrames
import SignalForge.RealtimePipelineIsolation
import SignalForge.WindowContract

/-! A window aggregator inside a pipeline does what it does alone behind a watermark manager,
whatever else is registered; so the windowing contract holds of the pipeline's results. -/

set_option autoImplicit false

namespace SignalForge

theorem OrderedDict.set_mapValues {κ ν ν' : Type} [DecidableEq κ] (d : OrderedDict κ ν)
    (update : ν → ν') (key : κ) (value : ν) :
    (d.mapValues update).set key (update value) = (d.set key value).mapValues update := by
  have keys : (d.mapValues update).entries.map Prod.fst = d.entries.map Prod.fst := by
    rw [OrderedDict.mapValues, List.map_map]
    rfl
  rw [OrderedDict.set, OrderedDict.set]
  by_cases known : key ∈ d.entries.map Prod.fst
  · rw [dif_neg (by rw [keys]; exact not_not.mpr known), dif_neg (not_not.mpr known)]
    simp only [OrderedDict.mapValues, OrderedDict.overwrite, List.map_map, OrderedDict.mk.injEq]
    refine List.map_congr_left fun entry _ => ?_
    by_cases here : entry.1 = key <;> simp [here]
  · rw [dif_pos (by rw [keys]; exact known), dif_pos known]
    simp only [OrderedDict.mapValues, List.map_append, List.map_singleton]

/-- The instant a datetime in UTC denotes. -/
def Datetime.instant (t : Datetime) : Instant := ⟨t.wall, t.min_le_wall, t.wall_le_max⟩

theorem Datetime.utc_instant {t : Datetime} (utc : t.offset = 0) : .utc t.instant = t := by
  obtain ⟨wall, offset, _, _⟩ := t
  cases utc
  rfl

theorem Datetime.instant_utc (instant : Instant) : (Datetime.utc instant).instant = instant := rfl

theorem Timestamp.later_utc (first second : Instant) :
    Timestamp.later (Datetime.utc first) (.utc second) = .utc (Timestamp.later first second) := by
  have micros : ∀ instant, Timestamp.micros (Datetime.utc instant) = Timestamp.micros instant :=
    Datetime.utc_micros
  rw [Timestamp.later, Timestamp.later, micros, micros]
  split <;> rfl

namespace WatermarkManager

/-- The manager over the same highs as datetimes in UTC. -/
def inUtc (manager : WatermarkManager Instant) : WatermarkManager Datetime :=
  ⟨manager.latenessSeconds, manager.highEventTs.mapValues .utc⟩

variable {manager after : WatermarkManager Instant} {key : String} {timestamp : Instant}

theorem highFor_inUtc (manager : WatermarkManager Instant) (key : String) :
    manager.inUtc.highFor key = .utc (manager.highFor key) := by
  rw [highFor, highFor, inUtc, OrderedDict.get?_mapValues]
  cases manager.highEventTs.get? key <;> rfl

theorem deriveWatermark_inUtc {watermark : Instant}
    (derived : manager.deriveWatermark timestamp = .ok watermark) :
    manager.inUtc.deriveWatermark (.utc timestamp) = .ok (.utc watermark) := by
  have micros : ∀ instant, Timestamp.micros (Datetime.utc instant) = Timestamp.micros instant :=
    Datetime.utc_micros
  have baseline : (Timestamp.baseline : Datetime) = .utc Timestamp.baseline := rfl
  rw [deriveWatermark, baseline, micros, micros]
  rw [deriveWatermark] at derived
  split
  · rename_i atStart
    rw [if_pos atStart] at derived
    cases derived
    rfl
  · rename_i later
    rw [if_neg later] at derived
    have same := Instant.sub_eq_ok.mp derived
    have lower := watermark.min_le
    have upper := watermark.le_max
    rw [same] at lower upper
    have range : minMicros ≤ (Datetime.utc timestamp).wall - manager.inUtc.lateness ∧
        (Datetime.utc timestamp).wall - manager.inUtc.lateness ≤ maxMicros := ⟨lower, upper⟩
    show Datetime.sub (.utc timestamp) manager.inUtc.lateness = .ok (.utc watermark)
    rw [Datetime.sub, dif_pos range, Except.ok.injEq, Datetime.mk.injEq]
    exact ⟨same.symm, rfl⟩

/-- An observation of a timestamp in UTC. -/
theorem observe_inUtc {observation : WatermarkObservation Instant}
    (returned : observe key timestamp manager = (.ok observation, after)) :
    observe key (.utc timestamp) manager.inUtc = (.ok ⟨observation.key, observation.classification,
      .utc observation.watermark, .utc observation.highEventTimestamp⟩, after.inUtc) := by
  have micros : ∀ instant, Timestamp.micros (Datetime.utc instant) = Timestamp.micros instant :=
    Datetime.utc_micros
  rw [observe] at returned ⊢
  split at returned
  · cases returned
  · rename_i named
    rw [if_neg named]
    simp only [Call.bind_eq_ok, Call.read_apply, Call.lift_apply, Call.write_apply,
      Call.pure_apply, Prod.mk.injEq, Except.ok.injEq] at returned
    obtain ⟨_, _, ⟨rfl, rfl⟩, previous, _, ⟨before, rfl⟩, _, _, ⟨_, rfl⟩, watermark, _,
      ⟨derived, rfl⟩, rfl, rfl⟩ := returned
    have classified : manager.inUtc.classify (.utc timestamp) (.utc previous) =
        manager.classify timestamp previous := by
      simp only [classify, micros]
      rfl
    have stored : manager.inUtc.highEventTs.set key
        (.utc (Timestamp.later (manager.highFor key) timestamp)) =
          (manager.highEventTs.set key (Timestamp.later (manager.highFor key) timestamp)).mapValues
            .utc := OrderedDict.set_mapValues ..
    refine Call.bind_eq_ok.mpr ⟨manager.inUtc, manager.inUtc, rfl, ?_⟩
    rw [highFor_inUtc, Timestamp.later_utc]
    refine Call.bind_eq_ok.mpr ⟨_, _, Prod.ext (deriveWatermark_inUtc before) rfl, ?_⟩
    refine Call.bind_eq_ok.mpr ⟨(), _, rfl, ?_⟩
    refine Call.bind_eq_ok.mpr ⟨_, _, Prod.ext (deriveWatermark_inUtc derived) rfl, ?_⟩
    rw [classified, Call.pure_apply, Prod.mk.injEq]
    exact ⟨rfl, congrArg (WatermarkManager.mk manager.latenessSeconds) stored⟩

end WatermarkManager

namespace RealtimePipeline

variable {ω π ρ : Type}

theorem collect_append {α : Type} (strict : Bool) (front back : List (Call Raised ω (List α))) :
    collect strict (front ++ back) = collect strict front >>= fun items =>
      collect strict back >>= fun later => pure (items ++ later) := by
  induction front with
  | nil =>
      rw [List.nil_append, collect, Call.pure_bind]
      funext world
      rw [Call.bind_apply]
      rcases collect strict back world with ⟨reason | later, after⟩ <;> rfl
  | cons call rest ih =>
      rw [List.cons_append, collect, collect, ih, Call.bind_assoc]
      congr 1
      funext items
      simp only [Call.bind_assoc, Call.pure_bind, List.append_assoc]

theorem yields_collect {α : Type} {property : α → Prop} (strict : Bool)
    {calls : List (Call Raised ω (List α))}
    (yields : ∀ call ∈ calls, call.Yields fun items => ∀ item ∈ items, property item) :
    (collect strict calls).Yields fun items => ∀ item ∈ items, property item := by
  induction calls with
  | nil => exact Call.yields_pure (List.forall_mem_nil _)
  | cons call rest ih =>
      obtain ⟨here, later⟩ := List.forall_mem_cons.mp yields
      intro world items after returned
      obtain ⟨found, between, calling, returned⟩ := Call.bind_eq_ok.mp returned
      obtain ⟨others, final, collecting, last⟩ := Call.bind_eq_ok.mp returned
      cases last
      have own : ∀ item ∈ found, property item := by
        rcases Call.guarded_ok calling with itself | ⟨_, rfl⟩
        · exact here _ _ _ itself
        · exact List.forall_mem_nil _
      intro item member
      exact (List.mem_append.mp member).elim (own item) (ih later _ _ _ collecting item)

end RealtimePipeline

/-- How a window aggregator is registered in a pipeline: where its windows are in the world, and
the partition key of each event. -/
structure Placement (ω σ π : Type) where
  extractor : TelemetryEvent π → Except Raised String
  view : ω → WindowAggregator.State σ
  put : ω → WindowAggregator.State σ → ω
  view_put : ∀ world held, view (put world held) = held

namespace Placement

variable {ω σ π ρ : Type}

/-- What the aggregator is given, by the instants denoted. -/
def given (input : AggregatorInput π) : WindowAggregator.Observation π where
  partitionKey := input.partitionKey
  eventTimestamp := input.eventTimestamp.instant
  contribution := input.contribution
  classification := input.classification
  watermark := input.watermark.instant
  traceId := some input.traceId

def call (placement : Placement ω σ π) (aggregator : WindowAggregator σ π ρ)
    (input : AggregatorInput π) : Call Raised ω (List (WindowEmission ρ)) :=
  Call.zoom placement.view placement.put (aggregator.observe (given input))

/-- The event as the watermark manager and the aggregator see it, unless no key is extracted. -/
def streamEvent? (placement : Placement ω σ π) (event : TelemetryEvent π) :
    Option (StreamEvent π) :=
  (RealtimePipeline.keyOf (placement.extractor event)).map fun partitionKey =>
    ⟨partitionKey, event.eventTimestamp.instant, event.payload,
      some (String.ofList event.traceId.text)⟩

/-- The aggregator is registered among others that emit under other names, and no other component
touches its windows. -/
structure Registered (placement : Placement ω σ π) (aggregator : WindowAggregator σ π ρ)
    (pipeline : RealtimePipeline ω π ρ) : Prop where
  extract : ∀ event, pipeline.extract event = Call.lift (placement.extractor event)
  aggregators : ∃ before name after, pipeline.aggregators =
      before ++ (name, placement.call aggregator) :: after ∧
    ∀ registered ∈ before ++ after, ∀ input, Call.Frames placement.view (registered.2 input) ∧
      (registered.2 input).Yields fun emissions =>
        ∀ emission ∈ emissions, emission.aggregationName ≠ aggregator.aggregation.name
  handlers : ∀ key, ∀ handler ∈ (pipeline.router.handlers.get? key).getD [], ∀ event,
    Call.Frames placement.view (handler event)
  eventDetectors : ∀ detector ∈ pipeline.eventDetectors, ∀ event,
    Call.Frames placement.view (detector event)
  emissionDetectors : ∀ name, ∀ detector ∈ (pipeline.emissionDetectors.get? name).getD [],
    ∀ emission, Call.Frames placement.view (detector emission)
  alertRouter : ∀ route, pipeline.alertRouter = some route → ∀ detections,
    Call.Frames placement.view (route detections)
  datasetWriter : ∀ write, pipeline.datasetWriter = some write → ∀ result,
    Call.Frames placement.view (write result)
  clock : ∀ world, placement.view (pipeline.rules.now world).2 = placement.view world

section

variable {placement : Placement ω σ π} {aggregator : WindowAggregator σ π ρ}
  {pipeline : RealtimePipeline ω π ρ} {event : TelemetryEvent π}

/-- The emissions of a result under a name. -/
def own (name : String) (result : ProcessingResult ρ) : List (WindowEmission ρ) :=
  result.emissions.filter fun emission => emission.aggregationName = name

/-- Among the emissions of all the aggregators are those of this one, and no others under its
name. -/
theorem Registered.collect_ok (registered : Registered placement aggregator pipeline)
    {input : AggregatorInput π} {world after : ω} {emissions : List (WindowEmission ρ)}
    {returns : List (WindowEmission ρ)} {held : WindowAggregator.State σ}
    (observed : aggregator.observe (given input) (placement.view world) = (.ok returns, held))
    (named : ∀ emission ∈ returns, emission.aggregationName = aggregator.aggregation.name)
    (returned : RealtimePipeline.collect pipeline.strict
      (pipeline.aggregators.map fun registered => registered.2 input) world =
        (.ok emissions, after)) :
    placement.view after = held ∧
      (emissions.filter fun emission => emission.aggregationName = aggregator.aggregation.name) =
        returns := by
  obtain ⟨before, name, later, listed, others⟩ := registered.aggregators
  rw [listed, List.map_append, List.map_cons, RealtimePipeline.collect_append] at returned
  have apart : ∀ (calls : List (String × (AggregatorInput π → Call Raised ω (List (WindowEmission ρ))))),
      (∀ registered ∈ calls, registered ∈ before ++ later) →
      Call.Frames placement.view (RealtimePipeline.collect pipeline.strict
          (calls.map fun registered => registered.2 input)) ∧
        (RealtimePipeline.collect pipeline.strict
          (calls.map fun registered => registered.2 input)).Yields fun emissions =>
            ∀ emission ∈ emissions, emission.aggregationName ≠ aggregator.aggregation.name := by
    intro calls among
    constructor
    · refine RealtimePipeline.frames_collect _ fun call member => ?_
      obtain ⟨other, inCalls, rfl⟩ := List.mem_map.mp member
      exact (others other (among other inCalls) input).1
    · refine RealtimePipeline.yields_collect _ fun call member => ?_
      obtain ⟨other, inCalls, rfl⟩ := List.mem_map.mp member
      exact (others other (among other inCalls) input).2
  obtain ⟨frontFrames, frontNames⟩ := apart before fun _ => List.mem_append_left _
  obtain ⟨backFrames, backNames⟩ := apart later fun _ => List.mem_append_right _
  obtain ⟨front, reached, earlier, returned⟩ := Call.bind_eq_ok.mp returned
  obtain ⟨rest, final, collected, last⟩ := Call.bind_eq_ok.mp returned
  obtain ⟨here, between, calling, collected⟩ := Call.bind_eq_ok.mp collected
  obtain ⟨back, _, following, ending⟩ := Call.bind_eq_ok.mp collected
  cases last
  cases ending
  have called : placement.call aggregator input reached = (.ok returns, placement.put reached held) := by
    refine Call.zoom_eq_ok.mpr ⟨held, ?_, rfl⟩
    rw [frontFrames.of_ok earlier]
    exact observed
  rcases Call.guarded_ok calling with itself | ⟨⟨reason, raised⟩, _⟩
  · cases called.symm.trans itself
    refine ⟨(backFrames.of_ok following).trans (placement.view_put reached held), ?_⟩
    have none : ∀ {items : List (WindowEmission ρ)},
        (∀ emission ∈ items, emission.aggregationName ≠ aggregator.aggregation.name) →
        (items.filter fun emission => emission.aggregationName = aggregator.aggregation.name) = [] :=
      fun all => List.filter_eq_nil_iff.mpr fun emission member => by simpa using all emission member
    rw [List.filter_append, List.filter_append, none (frontNames _ _ _ earlier),
      none (backNames _ _ _ following), List.nil_append, List.append_nil]
    exact List.filter_eq_self.mpr fun emission member => by simpa using named emission member
  · cases called.symm.trans raised

/-- The pipeline's watermarks and windows are those of the aggregator behind its manager. -/
structure Follows (placement : Placement ω σ π) (state : RealtimePipeline.State ω)
    (system : Windowing σ) : Prop where
  watermarks : state.watermarks = system.manager.inUtc
  windows : placement.view state.components = system.held

theorem Registered.process_ok (registered : Registered placement aggregator pipeline)
    (utc : event.eventTimestamp.offset = 0) {state after : RealtimePipeline.State ω}
    {system : Windowing σ} (follows : Follows placement state system)
    {result : ProcessingResult ρ}
    (returned : RealtimePipeline.process pipeline event state = (.ok result, after)) :
    (placement.streamEvent? event = none →
        result.extractionFailed = true ∧ Follows placement after system) ∧
      ∀ streamed outcome later, placement.streamEvent? event = some streamed →
        Windowing.observe aggregator streamed system = (.ok outcome, later) →
        (∀ emission ∈ outcome.emissions,
          emission.aggregationName = aggregator.aggregation.name) →
        result.extractionFailed = false ∧
          own aggregator.aggregation.name result = outcome.emissions ∧
          Follows placement after later := by
  obtain ⟨partitionKey, between, extracting, returned⟩ := Call.bind_eq_ok.mp returned
  obtain ⟨components, extracted, rfl⟩ := Call.zoom_eq_ok.mp extracting
  obtain ⟨rfl, keyed⟩ := RealtimePipeline.extractKey_lifted (registered.extract event) extracted
  rw [streamEvent?, ← keyed]
  cases partitionKey with
  | none =>
      cases returned
      exact ⟨fun _ => ⟨rfl, follows⟩, fun _ _ _ some => by cases some⟩
  | some partitionKey =>
      refine ⟨fun none => (by cases none), ?_⟩
      rintro _ outcome later ⟨⟩ stepped named
      obtain ⟨observed, moved, watched, stepped⟩ := Call.bind_eq_ok.mp stepped
      obtain ⟨emissions, final, aggregated, last⟩ := Call.bind_eq_ok.mp stepped
      obtain ⟨manager, watching, rfl⟩ := Call.zoom_eq_ok.mp watched
      obtain ⟨held, aggregating, rfl⟩ := Call.zoom_eq_ok.mp aggregated
      cases last
      have inUtc := WatermarkManager.observe_inUtc watching
      rw [Datetime.utc_instant utc] at inUtc
      obtain ⟨observation, reached, observing, staged⟩ := Call.bind_eq_ok.mp returned
      obtain ⟨watermarks, here, rfl⟩ := Call.zoom_eq_ok.mp observing
      obtain ⟨world, processed, rfl⟩ := Call.zoom_eq_ok.mp staged
      rw [follows.watermarks, inUtc] at here
      cases here
      obtain ⟨all, aggregatedWorld, collecting, processed⟩ := Call.bind_eq_ok.mp processed
      obtain ⟨dispatched, heard, dispatching, processed⟩ := Call.bind_eq_ok.mp processed
      obtain ⟨detections, detected, detecting, processed⟩ := Call.bind_eq_ok.mp processed
      obtain ⟨routed, issuing, routing, processed⟩ := Call.bind_eq_ok.mp processed
      obtain ⟨features, bundled, bundling, processed⟩ := Call.bind_eq_ok.mp processed
      obtain ⟨_, written, writing, ending⟩ := Call.bind_eq_ok.mp processed
      cases ending
      rw [← follows.windows] at aggregating
      have observes : aggregator.observe (given {
          partitionKey := partitionKey
          eventTimestamp := event.eventTimestamp
          contribution := event.payload
          classification := observed.classification
          watermark := .utc observed.watermark
          traceId := String.ofList event.traceId.text }) (placement.view state.components) =
            (.ok emissions, held) := aggregating
      obtain ⟨windows, emitted⟩ := registered.collect_ok observes named collecting
      refine ⟨rfl, emitted, rfl, ?_⟩
      have kept := (EventRouter.frames_dispatch registered.handlers event).of_ok dispatching
      have quiet := (RealtimePipeline.frames_detect registered.eventDetectors
        registered.emissionDetectors event all).of_ok detecting
      have alerted := (RealtimePipeline.frames_routeAlerts registered.alertRouter
        detections).of_ok routing
      have featured := (RealtimePipeline.frames_bundle registered.clock all).of_ok bundling
      have stored := (RealtimePipeline.frames_writeResult registered.datasetWriter _).of_ok writing
      exact stored.trans (featured.trans (alerted.trans (quiet.trans (kept.trans windows))))

/-- Over a run, the results of the events whose keys are extracted carry what the aggregator alone
emits for them, in order. -/
theorem Registered.processAll_ok (registered : Registered placement aggregator pipeline)
    {events : List (TelemetryEvent π)} (utc : ∀ event ∈ events, event.eventTimestamp.offset = 0)
    {state after : RealtimePipeline.State ω} {system final : Windowing σ}
    (follows : Follows placement state system) {results : List (ProcessingResult ρ)}
    {trace : List (Outcome π ρ)}
    (returned : RealtimePipeline.processAll pipeline events state = (.ok results, after))
    (alone : Windowing.observeAll aggregator (events.filterMap placement.streamEvent?) system =
      (.ok trace, final))
    (named : ∀ outcome ∈ trace, ∀ emission ∈ outcome.emissions,
      emission.aggregationName = aggregator.aggregation.name) :
    ((results.filter fun result => !result.extractionFailed).map
        (own aggregator.aggregation.name)) = trace.map Outcome.emissions ∧
      Follows placement after final := by
  induction events generalizing state system results trace with
  | nil =>
      cases returned
      cases alone
      exact ⟨rfl, follows⟩
  | cons event rest ih =>
      obtain ⟨hereUtc, laterUtc⟩ := List.forall_mem_cons.mp utc
      obtain ⟨result, between, processed, returned⟩ := Call.bind_eq_ok.mp returned
      obtain ⟨later, _, following, last⟩ := Call.bind_eq_ok.mp returned
      cases last
      obtain ⟨failed, keyed⟩ := registered.process_ok hereUtc follows processed
      rcases streamed : placement.streamEvent? event with _ | given
      · rw [List.filterMap_cons_none streamed] at alone
        obtain ⟨extraction, followed⟩ := failed streamed
        rw [List.filter_cons_of_neg (by simp [extraction])]
        exact ih laterUtc followed following alone named
      · rw [List.filterMap_cons_some streamed] at alone
        obtain ⟨outcome, moved, stepped, alone⟩ := Call.bind_eq_ok.mp alone
        obtain ⟨others, _, run, ending⟩ := Call.bind_eq_ok.mp alone
        cases ending
        obtain ⟨hereNamed, laterNamed⟩ := List.forall_mem_cons.mp named
        obtain ⟨extracted, emitted, followed⟩ := keyed given outcome moved streamed stepped hereNamed
        obtain ⟨same, reached⟩ := ih laterUtc followed following run laterNamed
        rw [List.filter_cons_of_pos (by simp [extracted]), List.map_cons, emitted, same, List.map_cons]
        exact ⟨rfl, reached⟩

end

/-- The windowing contract inside a pipeline: whatever else is registered, the results of a run
carry, under the aggregation's name, the emissions of a trace that keeps the contract, one step for
each event whose key is extracted. -/
theorem Registered.windowing_contract {placement : Placement ω σ π} {rule : WindowRule σ π ρ}
    {pipeline : RealtimePipeline ω π ρ}
    (registered : Registered placement rule.aggregator pipeline) {events : List (TelemetryEvent π)}
    {state after : RealtimePipeline.State ω} {results : List (ProcessingResult ρ)}
    (watermarks : state.watermarks = ⟨rule.latenessSeconds, .empty⟩)
    (windows : placement.view state.components = {})
    (utc : ∀ event ∈ events, event.eventTimestamp.offset = 0)
    (roomy : ∀ event ∈ events, rule.Roomy event.eventTimestamp.instant)
    (precise : ∀ event ∈ events, rule.spec.AssignsExactly event.eventTimestamp.instant)
    (returned : RealtimePipeline.processAll pipeline events state = (.ok results, after)) :
    ∃ trace, trace.map WindowRule.eventOf = events.filterMap placement.streamEvent? ∧
      rule.Contract trace ∧
      ((results.filter fun result => !result.extractionFailed).map (own rule.name)) =
        trace.map Outcome.emissions := by
  have sources : ∀ streamed ∈ events.filterMap placement.streamEvent?, streamed.key ≠ "" ∧
      ∃ event ∈ events, streamed.timestamp = event.eventTimestamp.instant := by
    intro streamed member
    obtain ⟨event, listed, found⟩ := List.mem_filterMap.mp member
    obtain ⟨partitionKey, keyed, rfl⟩ := Option.map_eq_some_iff.mp found
    exact ⟨RealtimePipeline.ne_empty_of_keyOf keyed, event, listed, rfl⟩
  have placed : ∀ {property : Instant → Prop},
      (∀ event ∈ events, property event.eventTimestamp.instant) →
      ∀ streamed ∈ events.filterMap placement.streamEvent?, property streamed.timestamp := by
    intro property all streamed member
    obtain ⟨_, event, listed, time⟩ := sources streamed member
    rw [time]
    exact all event listed
  obtain ⟨trace, system, alone⟩ := rule.observeAll_returns
    (events.filterMap placement.streamEvent?) rule.tracks_fresh (fun _ member => by cases member)
    (fun streamed member => (sources streamed member).1) (placed roomy) (placed precise)
  obtain ⟨run, _, same⟩ := rule.observeAll_run (events.filterMap placement.streamEvent?) .nil
    rule.tracks_fresh alone
  rw [List.nil_append] at run
  have given : ∀ {property : Instant → Prop},
      (∀ streamed ∈ events.filterMap placement.streamEvent?, property streamed.timestamp) →
      ∀ outcome ∈ trace, property outcome.given.eventTimestamp := by
    intro property all outcome member
    have listed := List.mem_map_of_mem (f := WindowRule.eventOf) member
    rw [same] at listed
    exact all _ listed
  have contract : rule.Contract trace := run.contract (given (placed roomy)) (given (placed precise))
  have named : ∀ outcome ∈ trace, ∀ emission ∈ outcome.emissions,
      emission.aggregationName = rule.name := by
    intro outcome member emission emitted
    obtain ⟨before, later, located⟩ := List.append_of_mem member
    obtain ⟨_, _, describes, _⟩ := contract.carries before outcome later located emission emitted
    exact describes.aggregationName
  have follows : Follows placement state (Windowing.fresh rule.aggregator) := ⟨watermarks, windows⟩
  exact ⟨trace, same, contract, (registered.processAll_ok utc follows returned alone named).1⟩

section Sample

open WindowRule (countPerMinute)

/-- A count of windows beside a component that counts its own calls. -/
def samplePlacement : Placement (WindowAggregator.State Nat × Nat) Nat Unit where
  extractor _ := .ok "store-1"
  view world := world.1
  put world held := (held, world.2)
  view_put _ _ := rfl

/-- An aggregator that raises on every event, and has changed its own state by then. -/
def sampleBroken (_ : AggregatorInput Unit) :
    Call Raised (WindowAggregator.State Nat × Nat) (List (WindowEmission Nat)) := do
  Call.write fun world => (world.1, world.2 + 1)
  Call.raise (.valueError "broken")

def samplePipeline : RealtimePipeline (WindowAggregator.State Nat × Nat) Unit Nat where
  router := ⟨.empty, false, RealtimePipeline.sampleDigits⟩
  extract _ := Call.lift (.ok "store-1")
  aggregators := [("broken", sampleBroken),
    ("count", samplePlacement.call countPerMinute.aggregator)]
  eventDetectors := []
  emissionDetectors := .empty
  alertRouter := none
  datasetWriter := none
  rules := ⟨fun world => (.epoch, world), some, fun _ => some 0#128, fun _ => 0#128⟩
  strict := false

theorem registered_sample :
    Registered samplePlacement countPerMinute.aggregator samplePipeline where
  extract _ := rfl
  aggregators := by
    refine ⟨[("broken", sampleBroken)], "count", [], rfl, ?_⟩
    intro registered member input
    obtain rfl := List.mem_singleton.mp member
    exact ⟨Call.Frames.bind (Call.frames_write fun _ => rfl) fun _ => Call.frames_raise _,
      Call.Yields.after _ fun _ => Call.yields_raise _⟩
  handlers _ _ member := by cases member
  eventDetectors _ member := by cases member
  emissionDetectors _ _ member := by cases member
  alertRouter _ found := by cases found
  datasetWriter _ found := by cases found
  clock _ := rfl

def sampleEvent (timestamp : Datetime) : TelemetryEvent Unit :=
  RealtimePipeline.sampleEvent "v1" timestamp

/-- The second event closes the window of the first. -/
def sampleEvents : List (TelemetryEvent Unit) :=
  [sampleEvent (.utc (.second 90)), sampleEvent (.utc (.second 250))]

def sampleState : RealtimePipeline.State (WindowAggregator.State Nat × Nat) :=
  ⟨⟨0, .empty⟩, ({}, 0)⟩

theorem windowing_contract_sample : ∃ results after trace,
    RealtimePipeline.processAll samplePipeline sampleEvents sampleState = (.ok results, after) ∧
      trace.map WindowRule.eventOf = sampleEvents.filterMap samplePlacement.streamEvent? ∧
      countPerMinute.Contract trace ∧
      ((results.filter fun result => !result.extractionFailed).map (own "count")) =
        trace.map Outcome.emissions := by
  have returns : (RealtimePipeline.processAll samplePipeline sampleEvents sampleState).1.toBool =
      true := by decide +kernel
  rcases returned : RealtimePipeline.processAll samplePipeline sampleEvents sampleState with
    ⟨reason | results, after⟩
  · rw [returned] at returns
    cases returns
  · obtain ⟨trace, contract⟩ := registered_sample.windowing_contract rfl rfl
      (by decide) (by
        simp only [sampleEvents, List.mem_cons, List.not_mem_nil, or_false, forall_eq_or_imp,
          forall_eq]
        exact ⟨⟨by decide, by decide, by decide⟩, ⟨by decide, by decide, by decide⟩⟩)
      (by decide +kernel) returned
    exact ⟨results, after, trace, rfl, contract⟩

end Sample

end Placement

end SignalForge
