import SignalForge.Fleet
import SignalForge.RealtimePipeline

/-! The pipeline production and replay both run: registrations feed the registry of devices, and
an offline detector watches every event. -/

set_option autoImplicit false

namespace SignalForge

/-- The settings the builder reads, as they are validated. -/
structure PlatformSettings where
  offlineThresholdSeconds : Int
  lateEventToleranceSeconds : Nat
  offline_pos : 0 < offlineThresholdSeconds

namespace ProductionPipeline

open OfflineDetector (Running)

variable {κ ρ : Type}

def deviceRegistration : RouteKey := ⟨"device.registration", "v1"⟩

def sipRegistration : RouteKey := ⟨"sip.registration", "v1"⟩

/-- The detector, the registry and the clock. -/
abbrev Components (κ : Type) : Type := Running (Fleet κ)

/-- `registry.observe_registration`. -/
def observeRegistration (event : TelemetryEvent RegistrationPayload) :
    Call Raised (Components κ) Unit :=
  OfflineDetector.outside (Call.zoom Fleet.registry (fun fleet registry => { fleet with registry })
    (DeviceRegistry.observeRegistration event.payload))

def router (digits : DecimalDigits) : EventRouter (Components κ) RegistrationPayload :=
  let router : EventRouter (Components κ) RegistrationPayload := ⟨.empty, false, digits⟩
  (router.register deviceRegistration observeRegistration).register sipRegistration
    observeRegistration

def offlineDetector (settings : PlatformSettings) :
    OfflineDetector (Fleet κ) RegistrationPayload :=
  Fleet.offlineDetector settings.offlineThresholdSeconds settings.offline_pos fun event =>
    .ok (some event.payload.deviceId)

/-- `_production_build_pipeline(settings)`. -/
def build (settings : PlatformSettings) (rules : DetectionRules κ)
    (features : FeatureRules (Components κ) ρ) (digits : DecimalDigits) :
    RealtimePipeline (Components κ) RegistrationPayload ρ where
  router := router digits
  extract event := pure event.payload.storeId
  aggregators := []
  eventDetectors := [(offlineDetector settings).observeEvent (Fleet.rules rules)]
  emissionDetectors := .empty
  alertRouter := none
  datasetWriter := none
  rules := features
  strict := false

/-- The pipeline as built, before its first event. -/
def start (settings : PlatformSettings) (clock : κ) : RealtimePipeline.State (Components κ) where
  watermarks := ⟨settings.lateEventToleranceSeconds, .empty⟩
  components := ⟨.initial, ⟨.empty, clock⟩⟩

variable {settings : PlatformSettings} {rules : DetectionRules κ}
  {features : FeatureRules (Components κ) ρ} {digits : DecimalDigits}
  {event : TelemetryEvent RegistrationPayload}

theorem handlers_sip (digits : DecimalDigits) :
    (router digits : EventRouter (Components κ) RegistrationPayload).handlers.get?
      sipRegistration = some [observeRegistration] := by
  have apart : sipRegistration ≠ deviceRegistration := by decide
  simp only [router, EventRouter.register, OrderedDict.get?_modify, apart, ↓reduceIte,
    OrderedDict.get?_empty, Option.getD_none, List.nil_append]

/-- The event's device is bound to its store before the detector sees the event. -/
def registered (event : TelemetryEvent RegistrationPayload) (components : Components κ) :
    Components κ :=
  (observeRegistration event components).2

theorem dispatch_ok (digits : DecimalDigits)
    (sip : EventRouter.requestedKey event = sipRegistration)
    {components : Components κ}
    (consistent : DeviceRegistry.Consistent components.world.registry) :
    ∃ dispatched, (router digits).dispatch event components =
      (.ok dispatched, registered event components) := by
  obtain ⟨registry, observed, _⟩ :=
    DeviceRegistry.observeRegistration_ok consistent event.payload
  have handled : observeRegistration event components = (.ok (), registered event components) := by
    rw [registered, observeRegistration]
    refine Call.zoom_eq_ok.mpr ⟨{ components.world with registry }, ?_, ?_⟩
    · exact Call.zoom_eq_ok.mpr ⟨registry, observed, rfl⟩
    · simp only [OfflineDetector.outside, Call.zoom, observed]
  have known : (router digits : EventRouter (Components κ) RegistrationPayload).handlers.contains
      (EventRouter.requestedKey event) = true := by
    rw [sip, OrderedDict.contains, handlers_sip]
    rfl
  have counted : Call.guarded false (0, 1) (observeRegistration event >>= fun _ => pure (1, 0))
      components = (.ok (1, 0), registered event components) := by
    rw [Call.guarded, Call.catching_of_ok (Call.bind_of_ok handled _)]
  simp only [EventRouter.dispatch, known, ↓reduceIte]
  rw [EventRouter.dispatchTo, sip, handlers_sip]
  refine ⟨⟨some sipRegistration, 1, 0, false⟩, ?_⟩
  have invoked : EventRouter.invoke false event [observeRegistration] components =
      (.ok (1, 0), registered event components) := by
    rw [EventRouter.invoke, Call.bind_of_ok counted]
    rfl
  exact Call.bind_of_ok invoked _

theorem extractKey_ok (named : event.payload.storeId ≠ "") (components : Components κ) :
    RealtimePipeline.extractKey (build settings rules features digits) event components =
      (.ok (some event.payload.storeId), components) := by
  have extracted : ((build settings rules features digits).extract event >>= fun partitionKey =>
      if partitionKey = "" then Call.raise (.valueError "partition extractor returned empty key")
      else pure (some partitionKey)) components = (.ok (some event.payload.storeId), components) := by
    rw [build, Call.pure_bind, if_neg named]
    rfl
  exact Call.catching_of_ok extracted _

/-- The one detector of the pipeline is called, and there are no emissions to detect from. -/
theorem detect_ok (event : TelemetryEvent RegistrationPayload) (components : Components κ) :
    RealtimePipeline.detect (build settings rules features digits) event [] components =
      (.ok (Call.answered ((offlineDetector settings).observeEvent (Fleet.rules rules) event)
          components),
        ((offlineDetector settings).observeEvent (Fleet.rules rules) event components).2) := by
  have collected : RealtimePipeline.collect false
      [(offlineDetector settings).observeEvent (Fleet.rules rules) event] components =
        (.ok (Call.answered ((offlineDetector settings).observeEvent (Fleet.rules rules) event)
            components ++ []),
          ((offlineDetector settings).observeEvent (Fleet.rules rules) event components).2) := by
    rw [RealtimePipeline.collect, Call.bind_of_ok (Call.guarded_apply _ _)]
    rfl
  rw [List.append_nil] at collected
  rw [RealtimePipeline.detect, build]
  simp only [List.map_cons, List.map_nil, List.flatMap_nil]
  rw [Call.bind_of_ok collected, RealtimePipeline.collect, Call.pure_bind, List.append_nil]
  rfl

/-- The stages after the watermark. -/
theorem processObserved_ok (settings : PlatformSettings) (rules : DetectionRules κ)
    (features : FeatureRules (Components κ) ρ) (digits : DecimalDigits)
    (sip : EventRouter.requestedKey event = sipRegistration)
    {components : Components κ}
    (consistent : DeviceRegistry.Consistent components.world.registry) (partitionKey : String)
    (observation : WatermarkObservation Datetime) :
    ∃ result, RealtimePipeline.processObserved (build settings rules features digits) event
        partitionKey observation components =
        (.ok result, ((offlineDetector settings).observeEvent (Fleet.rules rules) event
          (registered event components)).2) ∧
      result.detections = Call.answered
        ((offlineDetector settings).observeEvent (Fleet.rules rules) event)
        (registered event components) := by
  obtain ⟨dispatched, routed⟩ := dispatch_ok digits sip consistent
  have aggregated : RealtimePipeline.aggregate (build settings rules features digits) event
      partitionKey observation components = (.ok [], components) := rfl
  have dispatchedTo : (build settings rules features digits).router.dispatch event components =
      (.ok dispatched, registered event components) := routed
  rw [RealtimePipeline.processObserved, Call.bind_of_ok aggregated, Call.bind_of_ok dispatchedTo,
    Call.bind_of_ok (detect_ok event _)]
  exact ⟨_, rfl, rfl⟩

/-- What the pipeline does with a registration event: the device is bound to its store, and the
detections are those the detector then answers with. -/
theorem process_ok (settings : PlatformSettings) (rules : DetectionRules κ)
    (features : FeatureRules (Components κ) ρ) (digits : DecimalDigits)
    (sip : EventRouter.requestedKey event = sipRegistration)
    (named : event.payload.storeId ≠ "") {state : RealtimePipeline.State (Components κ)}
    (consistent : DeviceRegistry.Consistent state.components.world.registry)
    (observable : state.watermarks.Observable event.payload.storeId event.eventTimestamp) :
    ∃ result, RealtimePipeline.process (build settings rules features digits) event state =
        (.ok result,
          ⟨(WatermarkManager.observe event.payload.storeId event.eventTimestamp state.watermarks).2,
            ((offlineDetector settings).observeEvent (Fleet.rules rules) event
              (registered event state.components)).2⟩) ∧
      result.detections = Call.answered
        ((offlineDetector settings).observeEvent (Fleet.rules rules) event)
        (registered event state.components) := by
  obtain ⟨observation, watermarks, observed⟩ :=
    (WatermarkManager.observe_returns_iff named).mpr observable
  obtain ⟨result, processed, detected⟩ := processObserved_ok settings rules features digits
    sip consistent event.payload.storeId observation
  have keyed : RealtimePipeline.component
      (RealtimePipeline.extractKey (build settings rules features digits) event) state =
        (.ok (some event.payload.storeId), state) :=
    Call.zoom_eq_ok.mpr ⟨state.components, extractKey_ok named state.components, rfl⟩
  have watched : Call.zoom RealtimePipeline.State.watermarks
      (fun state watermarks => { state with watermarks })
      (WatermarkManager.observe event.payload.storeId event.eventTimestamp) state =
        (.ok observation, { state with watermarks }) :=
    Call.zoom_eq_ok.mpr ⟨watermarks, observed, rfl⟩
  refine ⟨result, ?_, detected⟩
  rw [RealtimePipeline.process, Call.bind_of_ok keyed, RealtimePipeline.processKeyed,
    Call.bind_of_ok watched, observed]
  exact Call.zoom_eq_ok.mpr ⟨_, processed, rfl⟩

end ProductionPipeline

end SignalForge
