import SignalForge.AlertRouting
import SignalForge.BatchRuns
import SignalForge.PipelineFrames
import SignalForge.RealtimePipelineIsolation

/-! Acknowledgements and alerts over whole runs of a pipeline: its registry holds the alerts that
the acknowledgements routed so far name, and each alert it issues says whether its own is among
them. -/

set_option autoImplicit false

namespace SignalForge

/-- A world with the registry of acknowledgements, the alerts issued so far, what routing raised so
far, and the rest. -/
structure Alerting (κ : Type) where
  registry : AcknowledgementRegistry
  issued : List RoutedAlert
  refusals : List Raised
  rest : κ

namespace Alerting

variable {κ π ρ : Type}

def watched (world : Alerting κ) : AcknowledgementRegistry × List RoutedAlert × List Raised :=
  (world.registry, world.issued, world.refusals)

/-- Worlds alike in all that is watched. -/
theorem watched_eq {before after : Alerting κ} : watched after = watched before ↔
    after.registry = before.registry ∧ after.issued = before.issued ∧
      after.refusals = before.refusals := by
  rw [watched, watched, Prod.mk.injEq, Prod.mk.injEq]

/-- `alert.acknowledgement`, `v1`. -/
def acknowledgement : RouteKey := ⟨"alert.acknowledgement", "v1"⟩

/-- `registry.observe_acknowledgement`, with `event.payload.alert_id` as it reads it. -/
def observeAcknowledgement (alertIdOf : π → Except Raised Uuid) (event : TelemetryEvent π) :
    Call Raised (Alerting κ) Unit := do
  let alertId ← Call.lift (alertIdOf event.payload)
  Call.write fun world =>
    { world with registry := world.registry.observeAcknowledgement alertId }

/-- `router.route`, with a record of the alerts it returns or of what it raises. -/
def issue (rules : DetectionRules (Alerting κ)) (detections : List DetectionEvent) :
    Call Raised (Alerting κ) (List AlertEvent) := do
  match ← Call.attempt (AlertRouter.route rules Alerting.registry detections) with
  | .ok alerts =>
      Call.write fun world => { world with issued := world.issued ++ alerts }
      pure (alerts.map RoutedAlert.toAlertEvent)
  | .error reason =>
      Call.write fun world => { world with refusals := world.refusals ++ [reason] }
      Call.raise reason

/-- The alerts of these detections under a registry. -/
def alertsOf (rules : DetectionRules (Alerting κ)) (registry : AcknowledgementRegistry)
    (detections : List DetectionEvent) : List RoutedAlert :=
  detections.map (AlertRouter.alertOf rules.sha1 registry)

/-- The components of the pipeline: the registry listens to acknowledgements and the alert router
reads it, and nothing else touches the registry or what the router recorded. -/
structure Wired (extractor : TelemetryEvent π → Except Raised String)
    (alertIdOf : π → Except Raised Uuid) (rules : DetectionRules (Alerting κ))
    (pipeline : RealtimePipeline (Alerting κ) π ρ) : Prop where
  extract : ∀ event, pipeline.extract event = Call.lift (extractor event)
  aggregators : ∀ registered ∈ pipeline.aggregators, ∀ input,
    Call.Frames watched (registered.2 input)
  listening : observeAcknowledgement alertIdOf ∈
    (pipeline.router.handlers.get? acknowledgement).getD []
  handlers : ∀ key, ∀ handler ∈ (pipeline.router.handlers.get? key).getD [],
    (key = acknowledgement ∧ handler = observeAcknowledgement alertIdOf) ∨
      ∀ event, Call.Frames watched (handler event)
  eventDetectors : ∀ detector ∈ pipeline.eventDetectors, ∀ event,
    Call.Frames watched (detector event)
  emissionDetectors : ∀ name, ∀ detector ∈ (pipeline.emissionDetectors.get? name).getD [],
    ∀ emission, Call.Frames watched (detector emission)
  alertRouter : pipeline.alertRouter = some (issue rules)
  datasetWriter : ∀ write, pipeline.datasetWriter = some write → ∀ result,
    Call.Frames watched (write result)
  clock : ∀ world, watched (rules.now world).2 = watched world
  featureClock : ∀ world, watched (pipeline.rules.now world).2 = watched world

end Alerting

namespace AlertRouter

variable {ω : Type} {rules : DetectionRules ω} {registry : ω → AcknowledgementRegistry}

theorem buildAlert_ok {detection : DetectionEvent} {world after : ω} {alert : RoutedAlert}
    (returned : buildAlert rules registry detection world = (.ok alert, after)) :
    alert = alertOf rules.sha1 (registry world) detection ∧ after = (rules.now world).2 := by
  simp only [buildAlert, Call.bind_eq_ok, Call.read_apply, Call.lift_apply, Call.total_apply,
    Call.pure_apply, Prod.mk.injEq, Except.ok.injEq] at returned
  obtain ⟨_, _, ⟨rfl, rfl⟩, _, _, ⟨_, rfl⟩, _, _, ⟨_, rfl⟩, _, _, ⟨_, rfl⟩, rfl, rfl⟩ := returned
  exact ⟨rfl, rfl⟩

/-- What a routing call returned is one alert for each detection, under the registry it met. -/
theorem route_ok (frames : ClockFrames rules registry) {detections : List DetectionEvent}
    {world after : ω} {alerts : List RoutedAlert}
    (returned : route rules registry detections world = (.ok alerts, after)) :
    alerts = detections.map (alertOf rules.sha1 (registry world)) := by
  induction detections generalizing world alerts with
  | nil =>
      cases returned
      rfl
  | cons detection rest ih =>
      obtain ⟨alert, between, built, routed⟩ := Call.bind_eq_ok.mp returned
      obtain ⟨later, final, following, last⟩ := Call.bind_eq_ok.mp routed
      obtain ⟨rfl, rfl⟩ := buildAlert_ok built
      cases last
      rw [ih following, frames world, List.map_cons]

theorem frames_route {τ : Type} {view : ω → τ} (clock : ∀ world, view (rules.now world).2 = view world)
    (detections : List DetectionEvent) : Call.Frames view (route rules registry detections) := by
  induction detections with
  | nil => exact Call.frames_pure _
  | cons detection rest ih =>
      have here : Call.Frames view (buildAlert rules registry detection) :=
        (Call.frames_read _).bind fun _ => (Call.frames_lift _).bind fun _ =>
          Call.Frames.bind clock fun _ => (Call.frames_lift _).bind fun _ => Call.frames_pure _
      exact here.bind fun _ => ih.bind fun _ => Call.frames_pure _

end AlertRouter

namespace Alerting

variable {κ π ρ : Type}

/-- Between the two worlds these alerts were acknowledged, and nothing was routed. -/
structure Heard (named : Uuid → Prop) (before after : Alerting κ) : Prop where
  issued : after.issued = before.issued
  refusals : after.refusals = before.refusals
  acknowledged : ∀ alertId, alertId ∈ after.registry.acknowledged ↔
    alertId ∈ before.registry.acknowledged ∨ named alertId

theorem Heard.of_frames {before after : Alerting κ} (same : watched after = watched before) :
    Heard (fun _ => False) before after := by
  obtain ⟨registry, issued, refusals⟩ := watched_eq.mp same
  exact ⟨issued, refusals, fun alertId => by rw [registry, or_false]⟩

theorem Heard.trans {first second : Uuid → Prop} {before between after : Alerting κ}
    (here : Heard first before between) (later : Heard second between after) :
    Heard (fun alertId => first alertId ∨ second alertId) before after :=
  ⟨later.issued.trans here.issued, later.refusals.trans here.refusals, fun alertId => by
    rw [later.acknowledged, here.acknowledged, or_assoc]⟩

theorem Heard.congr {named other : Uuid → Prop} {before after : Alerting κ}
    (heard : Heard named before after) (same : ∀ alertId, named alertId ↔ other alertId) :
    Heard other before after :=
  ⟨heard.issued, heard.refusals, fun alertId => by rw [heard.acknowledged, same]⟩

variable {alertIdOf : π → Except Raised Uuid} {event : TelemetryEvent π}

theorem heard_observeAcknowledgement (world : Alerting κ) :
    Heard (fun alertId => alertIdOf event.payload = .ok alertId) world
      (observeAcknowledgement alertIdOf event world).2 := by
  rcases found : alertIdOf event.payload with reason | alertId
  · rw [observeAcknowledgement, Call.bind_lift_of_error found]
    exact ⟨rfl, rfl, fun alertId => by simp⟩
  · rw [observeAcknowledgement, Call.bind_lift_of_ok found]
    refine ⟨rfl, rfl, fun other => ?_⟩
    simp only [Call.write_apply, AcknowledgementRegistry.observeAcknowledgement,
      Finset.mem_insert, Except.ok.injEq]
    rw [or_comm, eq_comm]

/-- What one handler leaves, whether it returned or raised, in either mode. -/
theorem invoked_one {strict : Bool} {handler : TelemetryEvent π → Call Raised (Alerting κ) Unit}
    {world between : Alerting κ} {counted : Nat × Nat}
    (returned : Call.guarded strict (0, 1) (handler event >>= fun _ => pure (1, 0)) world =
      (.ok counted, between)) : between = (handler event world).2 := by
  rcases outcome : handler event world with ⟨reason | ⟨⟩, after⟩
  · have raised : (handler event >>= fun _ => pure (1, 0) : Call Raised (Alerting κ) (Nat × Nat))
        world = (.error reason, after) := Call.bind_of_error outcome _
    rcases Call.guarded_ok returned with itself | ⟨⟨other, itself⟩, _⟩
    · rw [raised] at itself
      cases itself
    · rw [raised] at itself
      cases itself
      rfl
  · have handled : (handler event >>= fun _ => pure (1, 0) : Call Raised (Alerting κ) (Nat × Nat))
        world = (.ok (1, 0), after) := Call.bind_of_ok outcome _
    rcases Call.guarded_ok returned with itself | ⟨⟨other, itself⟩, _⟩
    · rw [handled] at itself
      cases itself
      rfl
    · rw [handled] at itself
      cases itself

theorem heard_invoke (strict : Bool)
    {handlers : List (TelemetryEvent π → Call Raised (Alerting κ) Unit)}
    (others : ∀ handler ∈ handlers, handler = observeAcknowledgement alertIdOf ∨
      ∀ event, Call.Frames watched (handler event))
    {world after : Alerting κ} {counts : Nat × Nat}
    (returned : EventRouter.invoke strict event handlers world = (.ok counts, after)) :
    Heard (fun alertId => observeAcknowledgement alertIdOf ∈ handlers ∧
      alertIdOf event.payload = .ok alertId) world after := by
  induction handlers generalizing world counts with
  | nil =>
      cases returned
      exact (Heard.of_frames rfl).congr fun _ => by simp
  | cons handler rest ih =>
      obtain ⟨here, later⟩ := List.forall_mem_cons.mp others
      obtain ⟨counted, between, called, returned⟩ := Call.bind_eq_ok.mp returned
      obtain ⟨left, final, following, last⟩ := Call.bind_eq_ok.mp returned
      cases last
      obtain rfl := invoked_one called
      have tail := ih later following
      by_cases listening : handler = observeAcknowledgement alertIdOf
      · subst listening
        refine ((heard_observeAcknowledgement world).trans tail).congr fun alertId => ?_
        simp only [List.mem_cons, true_or, true_and, or_iff_left_iff_imp]
        exact And.right
      · have frames := here.resolve_left listening
        refine ((Heard.of_frames (frames event world)).trans tail).congr fun alertId => ?_
        simp only [List.mem_cons, false_or, Ne.symm listening]

/-- The event's key is extracted, it is dispatched to the acknowledgement handlers, and it names
the alert. -/
def Acknowledges (extractor : TelemetryEvent π → Except Raised String)
    (alertIdOf : π → Except Raised Uuid) (router : EventRouter (Alerting κ) π)
    (event : TelemetryEvent π) (alertId : Uuid) : Prop :=
  (RealtimePipeline.keyOf (extractor event)).isSome ∧
    router.matched? event = some acknowledgement ∧ alertIdOf event.payload = .ok alertId

/-- Routing came to these alerts: it returned them, or it raised and is recorded to have. -/
def Routed (alerts : List RoutedAlert) (before after : Alerting κ) (returned : Prop) : Prop :=
  after.refusals = before.refusals ∧ returned ∨
    ∃ reason, after.refusals = before.refusals ++ [reason] ∧ alerts = []

/-- What a routing call issued: an alert for each detection under the registry, unless it raised. -/
structure Issued (rules : DetectionRules (Alerting κ)) (detections : List DetectionEvent)
    (alerts : List RoutedAlert) (before after : Alerting κ) : Prop where
  registry : after.registry = before.registry
  issued : after.issued = before.issued ++ alerts
  routed : Routed alerts before after (alerts = alertsOf rules before.registry detections)

section

variable {extractor : TelemetryEvent π → Except Raised String}
  {rules : DetectionRules (Alerting κ)} {pipeline : RealtimePipeline (Alerting κ) π ρ}

theorem issued_of_routed (clock : ∀ world, watched (rules.now world).2 = watched world)
    {strict : Bool} {detections : List DetectionEvent} {world after : Alerting κ}
    {routed : List AlertEvent}
    (returned : Call.guarded strict [] (issue rules detections) world = (.ok routed, after)) :
    ∃ alerts, routed = alerts.map RoutedAlert.toAlertEvent ∧
      Issued rules detections alerts world after := by
  have framed : Call.Frames watched (AlertRouter.route rules Alerting.registry detections) :=
    AlertRouter.frames_route clock detections
  rcases outcome : AlertRouter.route rules Alerting.registry detections world with
    ⟨reason | alerts, between⟩
  · have kept := framed world
    rw [outcome] at kept
    obtain ⟨registry, issued, refusals⟩ := watched_eq.mp kept
    have raised : issue rules detections world =
        (.error reason, { between with refusals := between.refusals ++ [reason] }) := by
      rw [issue, Call.bind_apply, Call.attempt, outcome]
      rfl
    rcases Call.guarded_ok returned with issues | ⟨⟨other, left⟩, rfl⟩
    · cases raised.symm.trans issues
    · cases raised.symm.trans left
      exact ⟨[], rfl, registry, by rw [List.append_nil]; exact issued,
        Or.inr ⟨reason, congrArg (· ++ [reason]) refusals, rfl⟩⟩
  · obtain ⟨registry, issued, refusals⟩ := watched_eq.mp (framed.of_ok outcome)
    have one := AlertRouter.route_ok (fun world => (watched_eq.mp (clock world)).1) outcome
    have issues : issue rules detections world = (.ok (alerts.map RoutedAlert.toAlertEvent),
        { between with issued := between.issued ++ alerts }) := by
      rw [issue, Call.bind_apply, Call.attempt, outcome]
      rfl
    rcases Call.guarded_ok returned with left | ⟨⟨other, raised⟩, rfl⟩
    · cases issues.symm.trans left
      exact ⟨alerts, rfl, registry, congrArg (· ++ alerts) issued, Or.inl ⟨refusals, one⟩⟩
    · cases issues.symm.trans raised

theorem Wired.dispatch_ok (wired : Wired extractor alertIdOf rules pipeline)
    {world after : Alerting κ} {dispatched : DispatchResult}
    (returned : pipeline.router.dispatch event world = (.ok dispatched, after)) :
    Heard (fun alertId => pipeline.router.matched? event = some acknowledgement ∧
      alertIdOf event.payload = .ok alertId) world after := by
  obtain ⟨counts, invoked⟩ := EventRouter.dispatch_ok returned
  rcases found : pipeline.router.matched? event with _ | key
  · rw [found] at invoked
    cases invoked
    exact (Heard.of_frames rfl).congr fun _ => by simp
  · rw [found] at invoked
    have handlers : ∀ handler ∈ (pipeline.router.handlers.get? key).getD [],
        handler = observeAcknowledgement alertIdOf ∨ ∀ event, Call.Frames watched (handler event) :=
      fun handler member => (wired.handlers key handler member).imp And.right id
    by_cases here : key = acknowledgement
    · subst here
      refine (heard_invoke _ handlers invoked).congr fun alertId => ?_
      exact and_congr_left fun _ => iff_of_true wired.listening rfl
    · have frames : ∀ handler ∈ (pipeline.router.handlers.get? key).getD [],
          ∀ event, Call.Frames watched (handler event) := fun handler member =>
        (wired.handlers key handler member).resolve_left fun listening => here listening.1
      have kept : watched after = watched world := by
        refine Call.Frames.of_ok ?_ invoked
        exact EventRouter.frames_invoke _ fun handler member => frames handler member event
      refine (Heard.of_frames kept).congr fun alertId => ?_
      simp [here]

/-- What one processed event does to the registry and issues: the acknowledgement is heard before
the alerts are routed. -/
structure Stepped (extractor : TelemetryEvent π → Except Raised String)
    (alertIdOf : π → Except Raised Uuid) (rules : DetectionRules (Alerting κ))
    (router : EventRouter (Alerting κ) π) (event : TelemetryEvent π) (result : ProcessingResult ρ)
    (alerts : List RoutedAlert) (before after : Alerting κ) : Prop where
  acknowledged : ∀ alertId, alertId ∈ after.registry.acknowledged ↔
    alertId ∈ before.registry.acknowledged ∨ Acknowledges extractor alertIdOf router event alertId
  issued : after.issued = before.issued ++ alerts
  carried : result.alerts = alerts.map RoutedAlert.toAlertEvent
  routed : Routed alerts before after (alerts = alertsOf rules after.registry result.detections)

theorem Wired.processObserved_ok (wired : Wired extractor alertIdOf rules pipeline)
    {partitionKey : String} {observation : WatermarkObservation Datetime}
    {world after : Alerting κ} {result : ProcessingResult ρ}
    (keyed : (RealtimePipeline.keyOf (extractor event)).isSome)
    (returned : RealtimePipeline.processObserved pipeline event partitionKey observation world =
      (.ok result, after)) :
    ∃ alerts, Stepped extractor alertIdOf rules pipeline.router event result alerts world after := by
  obtain ⟨emissions, aggregated, emitting, returned⟩ := Call.bind_eq_ok.mp returned
  obtain ⟨dispatched, heard, dispatching, returned⟩ := Call.bind_eq_ok.mp returned
  obtain ⟨detections, detected, detecting, returned⟩ := Call.bind_eq_ok.mp returned
  obtain ⟨routed, issuing, routing, returned⟩ := Call.bind_eq_ok.mp returned
  obtain ⟨features, bundled, bundling, returned⟩ := Call.bind_eq_ok.mp returned
  obtain ⟨_, written, writing, last⟩ := Call.bind_eq_ok.mp returned
  cases last
  have aggregates : Call.Frames watched
      (RealtimePipeline.aggregate pipeline event partitionKey observation) := by
    refine RealtimePipeline.frames_collect _ fun call member => ?_
    obtain ⟨registered, listed, rfl⟩ := List.mem_map.mp member
    exact wired.aggregators registered listed _
  have emitted := watched_eq.mp (aggregates.of_ok emitting)
  have listened := wired.dispatch_ok dispatching
  have quiet := watched_eq.mp ((RealtimePipeline.frames_detect wired.eventDetectors
    wired.emissionDetectors event emissions).of_ok detecting)
  rw [RealtimePipeline.routeAlerts, wired.alertRouter] at routing
  obtain ⟨alerts, carried, one⟩ := issued_of_routed wired.clock routing
  have kept := watched_eq.mp ((RealtimePipeline.frames_bundle wired.featureClock
    emissions).of_ok bundling)
  have stored := watched_eq.mp ((RealtimePipeline.frames_writeResult wired.datasetWriter
    _).of_ok writing)
  have registry : after.registry = heard.registry :=
    stored.1.trans (kept.1.trans (one.registry.trans quiet.1))
  have before : detected.refusals = world.refusals :=
    quiet.2.2.trans (listened.refusals.trans emitted.2.2)
  have refusals : after.refusals = issuing.refusals := stored.2.2.trans kept.2.2
  refine ⟨alerts, ?_, ?_, carried, ?_⟩
  · intro alertId
    rw [registry, listened.acknowledged, emitted.1, Acknowledges, and_iff_right keyed]
  · rw [stored.2.1, kept.2.1, one.issued, quiet.2.1, listened.issued, emitted.2.1]
  · rw [Routed, refusals, registry, ← quiet.1, ← before]
    exact one.routed

theorem Wired.process_ok (wired : Wired extractor alertIdOf rules pipeline)
    {state after : RealtimePipeline.State (Alerting κ)} {result : ProcessingResult ρ}
    (returned : RealtimePipeline.process pipeline event state = (.ok result, after)) :
    ∃ alerts, Stepped extractor alertIdOf rules pipeline.router event result alerts
      state.components after.components := by
  obtain ⟨partitionKey, between, extracting, returned⟩ := Call.bind_eq_ok.mp returned
  obtain ⟨components, extracted, rfl⟩ := Call.zoom_eq_ok.mp extracting
  obtain ⟨rfl, keyed⟩ := RealtimePipeline.extractKey_lifted (wired.extract event) extracted
  cases partitionKey with
  | none =>
      cases returned
      refine ⟨[], fun alertId => ?_, (List.append_nil _).symm, rfl, Or.inl ⟨rfl, rfl⟩⟩
      rw [Acknowledges, ← keyed]
      exact (or_iff_left fun named => Bool.false_ne_true named.1).symm
  | some partitionKey =>
      obtain ⟨observation, observed, watching, staged⟩ := Call.bind_eq_ok.mp returned
      obtain ⟨watermarks, _, rfl⟩ := Call.zoom_eq_ok.mp watching
      obtain ⟨final, processed, rfl⟩ := Call.zoom_eq_ok.mp staged
      exact wired.processObserved_ok (by rw [← keyed]; rfl) processed

/-- After a run, the registry holds what it held and what the run's events acknowledge. -/
theorem Wired.processAll_ok (wired : Wired extractor alertIdOf rules pipeline)
    {events : List (TelemetryEvent π)} {state after : RealtimePipeline.State (Alerting κ)}
    {results : List (ProcessingResult ρ)}
    (returned : RealtimePipeline.processAll pipeline events state = (.ok results, after))
    (alertId : Uuid) :
    alertId ∈ after.components.registry.acknowledged ↔
      alertId ∈ state.components.registry.acknowledged ∨
        ∃ event ∈ events, Acknowledges extractor alertIdOf pipeline.router event alertId := by
  induction events generalizing state results with
  | nil =>
      cases returned
      simp
  | cons event rest ih =>
      obtain ⟨result, between, processed, returned⟩ := Call.bind_eq_ok.mp returned
      obtain ⟨later, final, following, last⟩ := Call.bind_eq_ok.mp returned
      cases last
      obtain ⟨alerts, stepped⟩ := wired.process_ok processed
      rw [ih following, stepped.acknowledged, List.exists_mem_cons_iff, or_assoc]

/-- The alerts issued for an event are those its result carries, one for each detection unless
routing raised, and each says that it is acknowledged exactly where the event or one before it
acknowledges it. -/
theorem Wired.alerts_say_acknowledged (wired : Wired extractor alertIdOf rules pipeline)
    {events : List (TelemetryEvent π)} {event : TelemetryEvent π}
    {state between after : RealtimePipeline.State (Alerting κ)}
    {results : List (ProcessingResult ρ)} {result : ProcessingResult ρ}
    (fresh : state.components.registry = .empty)
    (ran : RealtimePipeline.processAll pipeline events state = (.ok results, between))
    (processed : RealtimePipeline.process pipeline event between = (.ok result, after)) :
    ∃ alerts, after.components.issued = between.components.issued ++ alerts ∧
      result.alerts = alerts.map RoutedAlert.toAlertEvent ∧
      Routed alerts between.components after.components
        (alerts.map (·.payload.detectionId) = result.detections.map (·.payload.detectionId)) ∧
      ∀ alert ∈ alerts, ∃ flag, alert.saysAcknowledged = some (.flag flag) ∧
        (flag = true ↔ ∃ earlier ∈ events ++ [event],
          Acknowledges extractor alertIdOf pipeline.router earlier alert.payload.alertId) := by
  obtain ⟨alerts, stepped⟩ := wired.process_ok processed
  have known : ∀ alertId, alertId ∈ after.components.registry.acknowledged ↔
      ∃ earlier ∈ events ++ [event],
        Acknowledges extractor alertIdOf pipeline.router earlier alertId := by
    intro alertId
    have unheard : alertId ∉ state.components.registry.acknowledged := by
      rw [fresh]
      exact Finset.notMem_empty alertId
    rw [stepped.acknowledged, wired.processAll_ok ran, or_iff_right unheard]
    simp only [List.mem_append, List.mem_singleton, or_and_right, exists_or, exists_eq_left]
  refine ⟨alerts, stepped.issued, stepped.carried, ?_, ?_⟩
  · refine stepped.routed.imp_left (And.imp_right fun each => ?_)
    rw [each, alertsOf, List.map_map]
    rfl
  · intro alert member
    rcases stepped.routed with ⟨_, each⟩ | ⟨_, _, rfl⟩
    · rw [each] at member
      obtain ⟨detection, _, rfl⟩ := List.mem_map.mp member
      refine ⟨_, AlertRouter.saysAcknowledged_alertOf .., ?_⟩
      rw [AcknowledgementRegistry.isAcknowledged, decide_eq_true_iff]
      exact known _
    · cases member

end

section Sample

/-- Payloads of acknowledgements name an alert, those of other events none. -/
def sampleAlertId : Option Uuid → Except Raised Uuid
  | some alertId => .ok alertId
  | none => .error (.exception "AttributeError")

def sampleDetection : DetectionEvent where
  eventId := 0x11111111111151118111111111111111#128
  eventTimestamp := .utc .epoch
  traceId := none
  payload := {
    detectionId := 0x22222222222252228222222222222222#128
    detectionType := "device.offline"
    severity := .warning
    detectedAt := .utc .epoch
    storeId := "store-1"
    deviceId := none
    sourceEventId := 0x33333333333343338333333333333333#128
    thresholdBreached := "no events for 400s (threshold 300s)"
    details := .empty }

def sampleRules : DetectionRules (Alerting Unit) where
  sha1 := Sha1.digest
  now world := (.epoch, world)
  parseUuid _ := none
  formatReal _ := ""

/-- Every event but an acknowledgement finds the same device offline. -/
def samplePipeline : RealtimePipeline (Alerting Unit) (Option Uuid) Nat where
  router := EventRouter.register ⟨.empty, false, RealtimePipeline.sampleDigits⟩ acknowledgement
    (observeAcknowledgement sampleAlertId)
  extract _ := Call.lift (.ok "store-1")
  aggregators := []
  eventDetectors := [fun event => pure (if event.payload.isSome then [] else [sampleDetection])]
  emissionDetectors := .empty
  alertRouter := some (issue sampleRules)
  datasetWriter := none
  rules := { RealtimePipeline.sampleRules with now := fun world => (.epoch, world) }
  strict := false

def sampleEvent (eventType : String) (payload : Option Uuid) : TelemetryEvent (Option Uuid) where
  eventId := 0#128
  eventType := eventType
  schemaVersion := "v1"
  traceId := 0#128
  eventTimestamp := .utc .epoch
  payload := payload

/-- The acknowledgement of the alert of the sample detection. -/
def sampleAcknowledgement : TelemetryEvent (Option Uuid) :=
  sampleEvent "alert.acknowledgement"
    (some (AlertRouter.alertId Sha1.digest sampleDetection.payload.detectionId))

theorem wired_sample :
    Wired (fun _ => .ok "store-1") sampleAlertId sampleRules samplePipeline where
  extract _ := rfl
  aggregators _ member := by cases member
  listening := List.mem_singleton_self _
  handlers key handler member := by
    simp only [samplePipeline, EventRouter.register, OrderedDict.get?_modify,
      OrderedDict.get?_empty] at member
    split at member
    · rename_i same
      exact Or.inl ⟨same, List.mem_singleton.mp member⟩
    · cases member
  eventDetectors detector member event := by
    obtain rfl := List.mem_singleton.mp member
    exact Call.frames_pure _
  emissionDetectors _ _ member := by cases member
  alertRouter := rfl
  datasetWriter _ found := by cases found
  clock _ := rfl
  featureClock _ := rfl

def sampleState : RealtimePipeline.State (Alerting Unit) := ⟨⟨60, .empty⟩, ⟨.empty, [], [], ()⟩⟩

theorem alerts_say_acknowledged_sample :
    ∃ results between result after,
      RealtimePipeline.processAll samplePipeline [sampleAcknowledgement] sampleState =
          (.ok results, between) ∧
        RealtimePipeline.process samplePipeline (sampleEvent "device.heartbeat" none) between =
          (.ok result, after) ∧
        ∃ alerts, after.components.issued = between.components.issued ++ alerts ∧
          result.alerts = alerts.map RoutedAlert.toAlertEvent ∧
          Routed alerts between.components after.components
            (alerts.map (·.payload.detectionId) = result.detections.map (·.payload.detectionId)) ∧
          ∀ alert ∈ alerts, ∃ flag, alert.saysAcknowledged = some (.flag flag) ∧
            (flag = true ↔
              ∃ earlier ∈ [sampleAcknowledgement] ++ [sampleEvent "device.heartbeat" none],
                Acknowledges (fun _ => .ok "store-1") sampleAlertId samplePipeline.router earlier
                  alert.payload.alertId) := by
  obtain ⟨results, between, ran, watermarks⟩ : ∃ results between,
      RealtimePipeline.processAll samplePipeline [sampleAcknowledgement] sampleState =
        (.ok results, between) ∧ between.watermarks = ⟨60, OrderedDict.empty.set "store-1" (.utc .epoch)⟩ :=
    ⟨_, _, rfl, rfl⟩
  have returns : (RealtimePipeline.process samplePipeline
      (sampleEvent "device.heartbeat" none)).Returns between := by
    refine (RealtimePipeline.process_returns rfl rfl).mpr fun partitionKey extracted keyed => ?_
    cases keyed
    rw [watermarks]
    refine ⟨⟨Or.inr (by decide), Or.inl (by decide)⟩, Or.inr ⟨⟨1, 0, 0⟩, by decide +kernel⟩, ?_⟩
    intro observation moved _ staged reached emitted
    obtain ⟨emissions, aggregated, emitting, later⟩ := Call.bind_eq_ok.mp emitted
    cases emitting
    simp only [Call.bind_eq_ok, Call.pure_apply, Prod.mk.injEq, Except.ok.injEq] at later
    obtain ⟨_, _, _, _, _, _, _, _, _, rfl, _⟩ := later
    trivial
  obtain ⟨result, after, processed⟩ := returns
  exact ⟨results, between, result, after, ran, processed,
    wired_sample.alerts_say_acknowledged rfl ran processed⟩

end Sample

end Alerting

end SignalForge
