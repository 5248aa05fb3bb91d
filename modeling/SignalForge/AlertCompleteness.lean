import SignalForge.AlertRouting
import SignalForge.BatchRuns
import SignalForge.RealtimePipelineIsolation
import SignalForge.Unwinding
import SignalForge.OutageRepairs

/-! No detection goes without an alert: what the three detectors return the alert router accepts,
as long as the clock does not go back. -/

set_option autoImplicit false

namespace Call

variable {ε σ τ α β : Type}

/-- From a state in which the items held are good, every item returned is good in the state it is
returned in; and no call spoils an item that was good before. -/
structure Supplies (held : List α) (good : α → σ → Prop) (call : Call ε σ (List α)) : Prop where
  keeps : ∀ item, Keeps (good item) call
  supplied : ∀ state items after, (∀ item ∈ held, good item state) →
    call state = (.ok items, after) → ∀ item ∈ items, good item after

section

variable {held : List α} {good : α → σ → Prop}

theorem supplies_pure {items : List α} (listed : ∀ item ∈ items, item ∈ held) :
    Supplies held good (pure items : Call ε σ (List α)) where
  keeps _ := keeps_pure _
  supplied _ _ _ all returned item member := by
    cases returned
    exact all item (listed item member)

theorem supplies_nil : Supplies held good (pure [] : Call ε σ (List α)) :=
  supplies_pure fun _ member => absurd member List.not_mem_nil

theorem supplies_raise (reason : ε) : Supplies held good (raise reason : Call ε σ (List α)) where
  keeps _ := keeps_raise _
  supplied _ _ _ _ returned := by cases returned

theorem Supplies.after {first : Call ε σ β} {next : β → Call ε σ (List α)}
    (keeps : ∀ item, Keeps (good item) first) (later : ∀ value, Supplies held good (next value)) :
    Supplies held good (first >>= next) where
  keeps item := (keeps item).bind fun value => (later value).keeps item
  supplied state _ _ all returned := by
    obtain ⟨value, between, here, following⟩ := bind_eq_ok.mp returned
    refine (later value).supplied between _ _ (fun item member => ?_) following
    have kept := keeps item state (all item member)
    rwa [here] at kept

/-- What follows may return the items it is given besides those held. -/
theorem Supplies.bind {first : Call ε σ (List α)} {next : List α → Call ε σ (List α)}
    (here : Supplies held good first) (later : ∀ items, Supplies (held ++ items) good (next items)) :
    Supplies held good (first >>= next) where
  keeps item := (here.keeps item).bind fun items => (later items).keeps item
  supplied state _ _ all returned := by
    obtain ⟨items, between, headed, following⟩ := bind_eq_ok.mp returned
    refine (later items).supplied between _ _ (fun item member => ?_) following
    rcases List.mem_append.mp member with before | new
    · have kept := here.keeps item state (all item before)
      rwa [headed] at kept
    · exact here.supplied state items between all headed item new

theorem Supplies.mono {others : List α} {call : Call ε σ (List α)} (supplies : Supplies held good call)
    (listed : ∀ item ∈ held, item ∈ others) : Supplies others good call where
  keeps := supplies.keeps
  supplied state items after all :=
    supplies.supplied state items after fun item member => all item (listed item member)

theorem Supplies.guarded {call : Call ε σ (List α)} (supplies : Supplies held good call)
    (strict : Bool) : Supplies held good (Call.guarded strict [] call) where
  keeps item := (supplies.keeps item).guarded strict []
  supplied state items after all returned item member := by
    rcases guarded_ok returned with itself | ⟨_, rfl⟩
    · exact supplies.supplied _ _ _ all itself item member
    · cases member

/-- A call on a component, where what makes an item good is seen in the component alone. -/
theorem Supplies.zoom {part : τ → σ} {put : τ → σ → τ} {whole : α → τ → Prop}
    {call : Call ε σ (List α)} (supplies : Supplies held good call)
    (seen : ∀ item state, whole item state ↔ good item (part state))
    (same : ∀ state after, part (put state after) = after) :
    Supplies held whole (Call.zoom part put call) where
  keeps item state holds := by
    rw [seen] at holds ⊢
    have kept := supplies.keeps item (part state) holds
    rwa [Call.zoom, same]
  supplied state items after all returned item member := by
    obtain ⟨inner, here, rfl⟩ := zoom_eq_ok.mp returned
    rw [seen, same]
    exact supplies.supplied _ _ _ (fun other listed => (seen other state).mp (all other listed))
      here item member

end

end Call

namespace SignalForge

/-- The clock does not go back, and is always more than the skew allowed before the end of time. -/
structure DetectionRules.Forward {ω : Type} (rules : DetectionRules ω) : Prop where
  forward : ∀ world, (rules.now world).1.micros ≤ (rules.now (rules.now world).2).1.micros
  bounded : ∀ world, (rules.now world).1.micros + BaseEvent.maxClockSkew ≤ maxMicros

/-- A moment the clock has caught up with stays so. -/
theorem DetectionRules.Forward.timely {ω : Type} {rules : DetectionRules ω} (forward : rules.Forward)
    {world : ω} {moment : Datetime}
    (passes : BaseEvent.checkClockSkew moment (rules.now world).1 = .ok ()) :
    rules.Timely world moment := by
  intro readings
  have caughtUp := (BaseEvent.checkClockSkew_eq_ok.mp passes).2
  refine BaseEvent.checkClockSkew_eq_ok.mpr ⟨forward.bounded _, caughtUp.trans ?_⟩
  refine Int.add_le_add_right ?_ _
  induction readings with
  | zero => exact Int.le_refl _
  | succ readings ih =>
      rw [rules.clockAfter_succ]
      exact ih.trans (forward.forward _)

namespace AlertRouter

variable {ω : Type} {rules : DetectionRules ω} {held : List DetectionEvent}

/-- Building a detection that says when it was detected supplies one the router accepts. -/
theorem supplies_makeDetection (forward : rules.Forward) {payload : DetectionEventPayload}
    {eventTimestamp : Datetime} {trace : Except Raised (Option Uuid)}
    (detected : payload.detectedAt = eventTimestamp) :
    Call.Supplies held (Routable rules) (do
      let detection ← Detections.makeDetection rules payload eventTimestamp trace
      pure [detection]) where
  keeps item := by
    refine Call.Keeps.bind ?_ fun _ => Call.keeps_pure _
    refine (Call.keeps_lift _).bind fun _ => (Call.keeps_lift _).bind fun _ => ?_
    refine Call.Keeps.bind ?_ fun _ => (Call.keeps_lift _).bind fun _ => Call.keeps_pure _
    exact fun world routable => { routable with timely := routable.timely.advance }
  supplied world items after _ returned item member := by
    obtain ⟨detection, between, made, last⟩ := Call.bind_eq_ok.mp returned
    cases last
    obtain rfl := List.mem_singleton.mp member
    obtain ⟨taken, _, passes⟩ := Detections.makeDetection_returns.mp ⟨_, _, made⟩
    obtain ⟨carried, stamped, rfl⟩ := Detections.makeDetection_ok made
    have utc := (Detections.refusedFields_eq_nil.mp taken).2.2.1
    refine ⟨carried ▸ taken, ?_, ?_⟩
    · rw [stamped, ← detected]
      exact utc
    · rw [stamped]
      exact (forward.timely passes).advance

/-- A lookup does not turn the clock back. -/
def KeepsTime {α : Type} (rules : DetectionRules ω) (call : Call Raised ω α) : Prop :=
  ∀ moment, Call.Keeps (fun world => rules.Timely world moment) call

theorem KeepsTime.keeps {α : Type} {call : Call Raised ω α} (keeps : KeepsTime rules call)
    (detection : DetectionEvent) : Call.Keeps (Routable rules detection) call :=
  fun world routable => { routable with timely := keeps _ world routable.timely }

/-- A call on a part of the state, and then the item it returned as a list. -/
theorem zoom_singleton {σ τ α : Type} (part : τ → σ) (put : τ → σ → τ) (call : Call Raised σ α) :
    (do
      let item ← Call.zoom part put call
      pure [item]) = Call.zoom part put (do
      let item ← call
      pure [item]) := by
  funext state
  rw [Call.bind_apply, Call.zoom, Call.zoom, Call.bind_apply]
  rcases call (part state) with ⟨reason | item, after⟩ <;> rfl

end AlertRouter

namespace OfflineDetector

open AlertRouter (Routable KeepsTime)

variable {ω π : Type} {detector : OfflineDetector ω π} {rules : DetectionRules ω}
  {held : List DetectionEvent}

/-- The router accepts the detection in the world around the detector. -/
abbrev Accepted (rules : DetectionRules ω) (detection : DetectionEvent) (running : Running ω) :
    Prop :=
  Routable rules detection running.world

theorem keeps_outside {α : Type} {call : Call Raised ω α} {detection : DetectionEvent}
    (keeps : Call.Keeps (Routable rules detection) call) :
    Call.Keeps (Accepted rules detection) (outside call) :=
  fun running holds => keeps running.world holds

theorem supplies_build (forward : rules.Forward) {payload : DetectionEventPayload}
    {event : TelemetryEvent π} (detected : payload.detectedAt = event.eventTimestamp) :
    Call.Supplies held (Accepted rules) (do
      let detection ← outside (build rules payload event)
      pure [detection]) := by
  rw [outside, AlertRouter.zoom_singleton]
  exact (AlertRouter.supplies_makeDetection forward detected).zoom (fun _ _ => Iff.rfl) fun _ _ => rfl

section

variable (forward : rules.Forward)
  (lookups : ∀ deviceId, KeepsTime rules (detector.storeLookup deviceId))

include forward lookups

theorem supplies_recover (deviceId : Uuid) (previous : Option DeviceState)
    (event : TelemetryEvent π) :
    Call.Supplies held (Accepted rules) (recover detector rules deviceId previous event) := by
  rw [recover]
  split
  · refine .after (fun item => keeps_outside ((lookups deviceId).keeps item)) fun store => ?_
    cases registered store with
    | none => exact Call.supplies_nil
    | some storeId => exact supplies_build forward rfl
  · exact Call.supplies_nil

theorem supplies_scanSilent (event : TelemetryEvent π) (deviceId : Uuid) (last : Datetime) :
    Call.Supplies held (Accepted rules) (scanSilent detector rules event deviceId last) := by
  refine .after (fun item => keeps_outside ((lookups deviceId).keeps item)) fun store => ?_
  cases registered store with
  | none => exact Call.supplies_nil
  | some storeId =>
      refine .after (fun item => Call.keeps_write fun _ holds => holds) fun _ => ?_
      exact supplies_build forward rfl

theorem supplies_scan (threshold : Int) (event : TelemetryEvent π)
    (known : List (Uuid × Datetime)) :
    Call.Supplies held (Accepted rules) (scan detector rules threshold event known) := by
  induction known generalizing held with
  | nil => exact Call.supplies_nil
  | cons entry rest ih =>
      refine Call.Supplies.bind ?_ fun here => ih.bind fun later => Call.supplies_pure ?_
      · refine .after (fun _ => Call.keeps_read _) fun state => ?_
        rcases state with _ | _ | _
        · exact Call.supplies_raise _
        · dsimp only
          split
          · exact Call.supplies_nil
          · exact supplies_scanSilent forward lookups event entry.1 entry.2
        · exact Call.supplies_nil
      · intro item member
        rw [List.append_assoc]
        exact List.mem_append_right _ member

/-- Whatever its state, an offline detector returns detections the router accepts. -/
theorem supplies_observeEvent (event : TelemetryEvent π) :
    Call.Supplies held (Accepted rules) (observeEvent detector rules event) := by
  refine .after (fun _ => Call.keeps_lift _) fun extracted => ?_
  cases extracted with
  | none => exact Call.supplies_nil
  | some deviceId =>
      refine .after (fun _ => Call.keeps_read _) fun previous => ?_
      refine .after (fun _ => Call.keeps_write fun _ holds => holds) fun _ => ?_
      refine (supplies_recover forward lookups deviceId previous event).bind fun recovery => ?_
      refine .after (fun _ => Call.keeps_lift _) fun threshold => ?_
      refine .after (fun _ => Call.keeps_read _) fun known => ?_
      refine (supplies_scan forward lookups threshold event known).bind fun detections => ?_
      refine Call.supplies_pure fun item member => ?_
      rw [List.append_assoc]
      exact List.mem_append_right _ member

end

end OfflineDetector

namespace EmissionDetector

open AlertRouter (Routable)

variable {ω : Type} {rules : DetectionRules ω} {held : List DetectionEvent}

/-- The router accepts the detection in the world around the detector. -/
abbrev Accepted (rules : DetectionRules ω) (detection : DetectionEvent) (running : Running ω) :
    Prop :=
  Routable rules detection running.world

theorem supplies_outside (forward : rules.Forward) {payload : DetectionEventPayload}
    {moment : Datetime} {trace : Except Raised (Option Uuid)} (detected : payload.detectedAt = moment) :
    Call.Supplies held (Accepted rules) (do
      let detection ← outside (Detections.makeDetection rules payload moment trace)
      pure [detection]) := by
  rw [outside, AlertRouter.zoom_singleton]
  exact (AlertRouter.supplies_makeDetection forward detected).zoom (fun _ _ => Iff.rfl) fun _ _ => rfl

theorem supplies_transition {key : String} {met : Bool} {enter : Call Raised ω DetectionEvent}
    {recover : Option (Call Raised ω DetectionEvent)}
    (entering : Call.Supplies held (Accepted rules) (do
      let detection ← outside enter
      pure [detection]))
    (recovering : ∀ build ∈ recover, Call.Supplies held (Accepted rules) (do
      let detection ← outside build
      pure [detection])) :
    Call.Supplies held (Accepted rules) (transition key met enter recover) := by
  refine .after (fun _ => Call.keeps_read _) fun current => ?_
  cases met <;> cases current <;> simp only [Bool.false_eq_true, ↓reduceIte]
  · exact Call.supplies_nil
  · refine .after (fun _ => Call.keeps_write fun _ holds => holds) fun _ => ?_
    cases recover with
    | none => exact Call.supplies_nil
    | some build => exact recovering build rfl
  · exact .after (fun _ => Call.keeps_write fun _ holds => holds) fun _ => entering
  · exact Call.supplies_nil

end EmissionDetector

/-- Whatever its state, an outage detector returns detections the router accepts. -/
theorem OutageDetector.supplies_observeEmission {ω : Type} {detector : OutageDetector ω}
    {rules : DetectionRules ω} {held : List DetectionEvent} (forward : rules.Forward)
    (lookups : ∀ storeId, AlertRouter.KeepsTime rules (detector.registeredCountLookup storeId))
    (emission : WindowEmission Nat) :
    Call.Supplies held (EmissionDetector.Accepted rules) (observeEmission detector rules emission) := by
  refine .after (fun item running holds => (lookups _).keeps item running.world holds) fun count => ?_
  rcases count with _ | _ | count
  · exact Call.supplies_nil
  · exact Call.supplies_nil
  · refine EmissionDetector.supplies_transition (EmissionDetector.supplies_outside forward rfl) ?_
    rintro _ ⟨⟩
    exact EmissionDetector.supplies_outside forward rfl

/-- Whatever its state, an anomaly detector returns detections the router accepts. -/
theorem AnomalyDetector.supplies_observeEmission {ω ρ : Type} {detector : AnomalyDetector ρ}
    {rules : DetectionRules ω} {held : List DetectionEvent} (forward : rules.Forward)
    (emission : WindowEmission ρ) :
    Call.Supplies held (EmissionDetector.Accepted rules) (observeEmission detector rules emission) := by
  refine .after (fun _ => Call.keeps_lift _) fun value => ?_
  refine EmissionDetector.supplies_transition (EmissionDetector.supplies_outside forward rfl) ?_
  rintro _ ⟨⟩

/-- The world of a pipeline with detectors: the state each instance of them keeps, and the rest with
the clock. -/
structure Detecting (ι ω : Type) where
  offline : ι → OfflineDetector.State
  emission : ι → OrderedDict String Unit
  world : ω

namespace Detecting

variable {ι ω π ρ : Type} [DecidableEq ι]

/-- A call on one offline detector. -/
def offlineDetector {α : Type} (instanceId : ι) (call : Call Raised (OfflineDetector.Running ω) α) :
    Call Raised (Detecting ι ω) α :=
  Call.zoom (fun detecting => ⟨detecting.offline instanceId, detecting.world⟩)
    (fun detecting running => { detecting with
      offline := Function.update detecting.offline instanceId running.detector
      world := running.world }) call

/-- A call on one outage or anomaly detector. -/
def emissionDetector {α : Type} (instanceId : ι)
    (call : Call Raised (EmissionDetector.Running ω) α) : Call Raised (Detecting ι ω) α :=
  Call.zoom (fun detecting => ⟨detecting.emission instanceId, detecting.world⟩)
    (fun detecting running => { detecting with
      emission := Function.update detecting.emission instanceId running.state
      world := running.world }) call

/-- An emission of the device count, with its value read as that. -/
def counted (count : ρ → Nat) (emission : WindowEmission ρ) : WindowEmission Nat :=
  { emission with value := count emission.value }

/-- The clock is read through the world. -/
def rules (rules : DetectionRules ω) : DetectionRules (Detecting ι ω) where
  sha1 := rules.sha1
  now detecting := ((rules.now detecting.world).1,
    { detecting with world := (rules.now detecting.world).2 })
  parseUuid := rules.parseUuid
  formatReal := rules.formatReal

/-- Offline detectors on the events, outage and anomaly detectors on the emissions of the
aggregations they name, each an instance with a state of its own, and an alert router over a
registry. The other components may be any. -/
structure Assembled (base : DetectionRules ω) (count : ρ → Nat)
    (pipeline : RealtimePipeline (Detecting ι ω) π ρ) : Prop where
  eventDetectors : ∀ detector ∈ pipeline.eventDetectors,
    ∃ (instanceId : ι) (offline : OfflineDetector ω π),
      (∀ deviceId, AlertRouter.KeepsTime base (offline.storeLookup deviceId)) ∧
        detector = fun event => offlineDetector instanceId (offline.observeEvent base event)
  emissionDetectors : ∀ name, ∀ detector ∈ (pipeline.emissionDetectors.get? name).getD [],
    ∃ instanceId : ι,
      (name = OutageDetector.aggregationName ∧ ∃ outage : OutageDetector ω,
        (∀ storeId, AlertRouter.KeepsTime base (outage.registeredCountLookup storeId)) ∧
          detector = fun emission =>
            emissionDetector instanceId (outage.observeEmission base (counted count emission))) ∨
      (name = AnomalyDetector.aggregationName ∧ ∃ anomaly : AnomalyDetector ρ,
        detector = fun emission =>
          emissionDetector instanceId (anomaly.observeEmission base emission))
  alertRouter : ∃ registry, pipeline.alertRouter = some fun detections => do
    let alerts ← AlertRouter.route (rules base) registry detections
    pure (alerts.map RoutedAlert.toAlertEvent)

variable {base : DetectionRules ω}

omit [DecidableEq ι] in
theorem clockAfter_world (readings : Nat) (detecting : Detecting ι ω) :
    ((rules base).clockAfter readings detecting).world =
      base.clockAfter readings detecting.world := by
  induction readings with
  | zero => rfl
  | succ readings ih =>
      rw [DetectionRules.clockAfter_succ, DetectionRules.clockAfter_succ, ← ih]
      rfl

omit [DecidableEq ι] in
/-- What the router accepts in the pipeline's world it accepts in the world around the detectors. -/
theorem routable_iff {detection : DetectionEvent} {detecting : Detecting ι ω} :
    AlertRouter.Routable (rules base) detection detecting ↔
      AlertRouter.Routable base detection detecting.world := by
  have timely : (rules base).Timely detecting detection.eventTimestamp ↔
      base.Timely detecting.world detection.eventTimestamp := by
    refine forall_congr' fun readings => ?_
    rw [← clockAfter_world]
    rfl
  exact ⟨fun ⟨taken, utc, here⟩ => ⟨taken, utc, timely.mp here⟩,
    fun ⟨taken, utc, here⟩ => ⟨taken, utc, timely.mpr here⟩⟩

section

variable {held : List DetectionEvent} {instanceId : ι}

theorem supplies_offlineDetector {call : Call Raised (OfflineDetector.Running ω) (List DetectionEvent)}
    (supplies : Call.Supplies held (OfflineDetector.Accepted base) call) :
    Call.Supplies held (AlertRouter.Routable (rules base)) (offlineDetector instanceId call) :=
  supplies.zoom (fun _ _ => routable_iff) fun _ running =>
    congrArg (OfflineDetector.Running.mk · running.world) (Function.update_self ..)

theorem supplies_emissionDetector
    {call : Call Raised (EmissionDetector.Running ω) (List DetectionEvent)}
    (supplies : Call.Supplies held (EmissionDetector.Accepted base) call) :
    Call.Supplies held (AlertRouter.Routable (rules base)) (emissionDetector instanceId call) :=
  supplies.zoom (fun _ _ => routable_iff) fun _ running =>
    congrArg (EmissionDetector.Running.mk · running.world) (Function.update_self ..)

end

variable {count : ρ → Nat} {pipeline : RealtimePipeline (Detecting ι ω) π ρ}

theorem supplies_collect {τ α : Type} {held : List α} {good : α → τ → Prop} (strict : Bool)
    {calls : List (Call Raised τ (List α))} (supplies : ∀ call ∈ calls, Call.Supplies [] good call) :
    Call.Supplies held good (RealtimePipeline.collect strict calls) := by
  induction calls generalizing held with
  | nil => exact Call.supplies_nil
  | cons call rest ih =>
      obtain ⟨here, later⟩ := List.forall_mem_cons.mp supplies
      refine ((here.mono (List.forall_mem_nil _)).guarded strict).bind fun items => ?_
      refine (ih later).bind fun others => Call.supplies_pure fun item member => ?_
      rw [List.append_assoc]
      exact List.mem_append_right _ member

/-- The detections of one event are all routable when they are handed to the router. -/
theorem Assembled.supplies_detect (assembled : Assembled base count pipeline) (forward : base.Forward)
    (event : TelemetryEvent π) (emissions : List (WindowEmission ρ)) :
    Call.Supplies [] (AlertRouter.Routable (rules base))
      (RealtimePipeline.detect pipeline event emissions) := by
  refine (supplies_collect _ fun call member => ?_).bind fun fromEvent => ?_
  · obtain ⟨detector, listed, rfl⟩ := List.mem_map.mp member
    obtain ⟨instanceId, offline, lookups, rfl⟩ := assembled.eventDetectors detector listed
    exact supplies_offlineDetector (OfflineDetector.supplies_observeEvent forward lookups event)
  · refine (supplies_collect _ fun call member => ?_).bind fun fromEmissions =>
      Call.supplies_pure fun item member => by simpa using member
    obtain ⟨emission, _, mapped⟩ := List.mem_flatMap.mp member
    obtain ⟨detector, listed, rfl⟩ := List.mem_map.mp mapped
    obtain ⟨instanceId, ⟨_, outage, lookups, rfl⟩ | ⟨_, anomaly, rfl⟩⟩ :=
      assembled.emissionDetectors _ detector listed
    · exact supplies_emissionDetector (OutageDetector.supplies_observeEmission forward lookups _)
    · exact supplies_emissionDetector (AnomalyDetector.supplies_observeEmission forward emission)

theorem Assembled.process_alerts (assembled : Assembled base count pipeline) (forward : base.Forward)
    {event : TelemetryEvent π} {state after : RealtimePipeline.State (Detecting ι ω)}
    {result : ProcessingResult ρ}
    (returned : RealtimePipeline.process pipeline event state = (.ok result, after)) :
    result.alerts = result.detections.map (AlertRouter.alertEventOf base.sha1) := by
  obtain ⟨partitionKey, between, _, returned⟩ := Call.bind_eq_ok.mp returned
  cases partitionKey with
  | none =>
      cases returned
      rfl
  | some partitionKey =>
      obtain ⟨observation, observed, _, staged⟩ := Call.bind_eq_ok.mp returned
      obtain ⟨final, processed, _⟩ := Call.zoom_eq_ok.mp staged
      obtain ⟨emissions, aggregated, _, returned⟩ := Call.bind_eq_ok.mp processed
      obtain ⟨dispatched, heard, _, returned⟩ := Call.bind_eq_ok.mp returned
      obtain ⟨detections, detected, detecting, returned⟩ := Call.bind_eq_ok.mp returned
      obtain ⟨alerts, issued, routing, returned⟩ := Call.bind_eq_ok.mp returned
      obtain ⟨features, bundled, _, returned⟩ := Call.bind_eq_ok.mp returned
      obtain ⟨_, written, _, last⟩ := Call.bind_eq_ok.mp returned
      cases last
      have routable := (assembled.supplies_detect forward event emissions).supplied _ _ _
        (List.forall_mem_nil _) detecting
      obtain ⟨registry, routes⟩ := assembled.alertRouter
      obtain ⟨routed, later, route, same⟩ := AlertRouter.route_of_routable registry routable
      rw [RealtimePipeline.routeAlerts, routes] at routing
      have answered := Call.bind_of_ok route fun alerts : List RoutedAlert =>
        (pure (alerts.map RoutedAlert.toAlertEvent) : Call Raised (Detecting ι ω) (List AlertEvent))
      rcases Call.guarded_ok routing with itself | ⟨⟨reason, raised⟩, _⟩
      · cases answered.symm.trans itself
        exact same
      · cases answered.symm.trans raised

/-- Over any run, every result carries one alert for each of its detections, in their order. -/
theorem Assembled.alerts_complete (assembled : Assembled base count pipeline) (forward : base.Forward)
    {events : List (TelemetryEvent π)} {state after : RealtimePipeline.State (Detecting ι ω)}
    {results : List (ProcessingResult ρ)}
    (returned : RealtimePipeline.processAll pipeline events state = (.ok results, after)) :
    ∀ result ∈ results,
      result.alerts = result.detections.map (AlertRouter.alertEventOf base.sha1) := by
  induction events generalizing state results with
  | nil =>
      cases returned
      exact List.forall_mem_nil _
  | cons event rest ih =>
      obtain ⟨result, between, processed, returned⟩ := Call.bind_eq_ok.mp returned
      obtain ⟨later, final, following, last⟩ := Call.bind_eq_ok.mp returned
      cases last
      exact List.forall_mem_cons.mpr ⟨assembled.process_alerts forward processed, ih following⟩

section Sample

open OfflineDetector (sampleDetector sampleEvent sampleInstant secondOfDay_lt firstDevice secondDevice)

def sampleAnomalyDetector : AnomalyDetector Nat where
  threshold := .finite 5
  comparison := .above
  signalName := "signal"
  float value := .ok (.finite value)

/-- Two offline detectors, each with a state of its own, and one of either other kind. -/
def samplePipeline : RealtimePipeline (Detecting (Fin 2) Unit) Uuid Nat where
  router := ⟨.empty, false, RealtimePipeline.sampleDigits⟩
  extract _ := pure "store-1"
  aggregators := []
  eventDetectors := [0, 1].map fun instanceId event =>
    offlineDetector instanceId (sampleDetector.observeEvent OfflineDetector.sampleRules event)
  emissionDetectors :=
    (OrderedDict.empty.set OutageDetector.aggregationName [fun emission => emissionDetector 0
      (OutageDetector.sampleDetector.observeEmission OfflineDetector.sampleRules
        (counted id emission))]).set
      AnomalyDetector.aggregationName [fun emission => emissionDetector 1
        (sampleAnomalyDetector.observeEmission OfflineDetector.sampleRules emission)]
  alertRouter := some fun detections => do
    let alerts ← AlertRouter.route (rules OfflineDetector.sampleRules) (fun _ => .empty) detections
    pure (alerts.map RoutedAlert.toAlertEvent)
  datasetWriter := none
  rules := ⟨fun world => (.epoch, world), some, fun _ => none, fun _ => 0#128⟩
  strict := false

def sampleHeard (serial : Nat) (device : Uuid) (seconds : Nat) : TelemetryEvent Uuid :=
  sampleEvent serial device (seconds % 86400) (secondOfDay_lt seconds)

/-- At the second event both offline detectors find the first device silent. -/
def sampleEvents : List (TelemetryEvent Uuid) :=
  [sampleHeard 1 firstDevice 0, sampleHeard 2 secondDevice 400]

def sampleState : RealtimePipeline.State (Detecting (Fin 2) Unit) :=
  ⟨⟨60, .empty⟩, ⟨fun _ => .initial, fun _ => .empty, ()⟩⟩

theorem alerts_complete_sample :
    ∃ results after,
      RealtimePipeline.processAll samplePipeline sampleEvents sampleState = (.ok results, after) ∧
        ∀ result ∈ results, result.alerts = result.detections.map
          (AlertRouter.alertEventOf OfflineDetector.sampleRules.sha1) := by
  have forward : OfflineDetector.sampleRules.Forward := ⟨fun _ => le_rfl, fun | () => by decide⟩
  have assembled : Assembled OfflineDetector.sampleRules id samplePipeline := by
    refine ⟨?_, ?_, fun _ => .empty, rfl⟩
    · intro detector member
      obtain ⟨instanceId, _, rfl⟩ := List.mem_map.mp member
      exact ⟨instanceId, sampleDetector, fun _ _ => Call.keeps_pure _, rfl⟩
    · intro name detector member
      rw [samplePipeline, OrderedDict.get?_set] at member
      split at member
      · rename_i anomalies
        exact ⟨1, Or.inr ⟨anomalies, sampleAnomalyDetector, List.mem_singleton.mp member⟩⟩
      · rw [OrderedDict.get?_set] at member
        split at member
        · rename_i outages
          exact ⟨0, Or.inl ⟨outages, OutageDetector.sampleDetector, fun _ _ => Call.keeps_pure _,
            List.mem_singleton.mp member⟩⟩
        · cases member
  have returns : (RealtimePipeline.processAll samplePipeline sampleEvents sampleState).1.toBool =
      true := by decide +kernel
  rcases returned : RealtimePipeline.processAll samplePipeline sampleEvents sampleState with
    ⟨reason | results, after⟩
  · rw [returned] at returns
    cases returns
  · exact ⟨results, after, rfl, assembled.alerts_complete forward returned⟩

end Sample

end Detecting

end SignalForge
