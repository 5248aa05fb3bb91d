import Mathlib.Data.Finset.Card
import SignalForge.Detections
import SignalForge.EmissionDetectors
import SignalForge.Fleet
import SignalForge.IdentityRoles

/-! Detections routed into alerts: the registry of acknowledged alerts, and the router that builds
one alert for each detection and says whether it is acknowledged. -/

set_option autoImplicit false

namespace SignalForge

/-- The ids of the alerts acknowledged so far. -/
structure AcknowledgementRegistry where
  acknowledged : Finset Uuid
  deriving DecidableEq

namespace AcknowledgementRegistry

def empty : AcknowledgementRegistry := ⟨∅⟩

def observeAcknowledgement (alertId : Uuid) (registry : AcknowledgementRegistry) :
    AcknowledgementRegistry :=
  ⟨insert alertId registry.acknowledged⟩

def isAcknowledged (registry : AcknowledgementRegistry) (alertId : Uuid) : Bool :=
  alertId ∈ registry.acknowledged

def acknowledgedCount (registry : AcknowledgementRegistry) : Nat := registry.acknowledged.card

end AcknowledgementRegistry

structure AlertEventPayload where
  alertId : Uuid
  detectionId : Uuid
  detectionType : String
  severity : DetectionSeverity
  routedAt : Datetime
  storeId : String
  deviceId : Option Uuid
  summary : String
  details : OrderedDict String Detail
  deriving DecidableEq

/-- An alert as the router builds it. `traceId` is `none` where the detection's was drawn afresh. -/
structure RoutedAlert where
  eventId : Uuid
  eventTimestamp : Datetime
  traceId : Option Uuid
  source : String
  payload : AlertEventPayload
  deriving DecidableEq

namespace RoutedAlert

/-- The part of an alert the pipeline's result and the sinks carry on. -/
def toAlertEvent (alert : RoutedAlert) : AlertEvent where
  alertId := alert.payload.alertId
  detectionId := alert.payload.detectionId
  detectionType := alert.payload.detectionType
  severity := alert.payload.severity
  routedAt := alert.payload.routedAt
  storeId := alert.payload.storeId
  deviceId := alert.payload.deviceId
  summary := alert.payload.summary

/-- `details["acknowledged"]`. -/
def saysAcknowledged (alert : RoutedAlert) : Option Detail :=
  alert.payload.details.get? "acknowledged"

end RoutedAlert

namespace AlertRouter

/-- `_SOURCE`. -/
def source : String := "stream-pipeline.alert_router"

/-- The fields of the payload the alert schema refuses. -/
def refusedFields (payload : AlertEventPayload) : List String :=
  (if Detections.isVersion4Or5 payload.alertId then [] else ["alert_id"]) ++
  (if Detections.isVersion4Or5 payload.detectionId then [] else ["detection_id"]) ++
  (if Detections.isDottedName payload.detectionType then [] else ["detection_type"]) ++
  (if payload.routedAt.offset = 0 then [] else ["routed_at"]) ++
  (if payload.storeId = "" then ["store_id"] else []) ++
  (if payload.summary = "" then ["summary"] else [])

/-- `AlertEventPayload(...)`. -/
def validatePayload (payload : AlertEventPayload) : Except Raised Unit :=
  match refusedFields payload with
  | [] => .ok ()
  | fields => .error (.validationError fields)

def details (acknowledged : Bool) (detectedAt : Datetime) : OrderedDict String Detail :=
  (OrderedDict.empty.set "acknowledged" (.flag acknowledged)).set
    "detected_at" (.text (detectedAt.isoformat "T"))

/-- The payload of a detection's alert, where the registry says this of it. -/
def alertPayload (sha1 : List UInt8 → BitVec 160) (acknowledged : Bool)
    (detection : DetectionEvent) : AlertEventPayload where
  alertId := alertId sha1 detection.payload.detectionId
  detectionId := detection.payload.detectionId
  detectionType := detection.payload.detectionType
  severity := detection.payload.severity
  routedAt := detection.eventTimestamp
  storeId := detection.payload.storeId
  deviceId := detection.payload.deviceId
  summary := detection.payload.thresholdBreached
  details := details acknowledged detection.payload.detectedAt

/-- The alert of a detection under a registry. -/
def alertOf (sha1 : List UInt8 → BitVec 160) (registry : AcknowledgementRegistry)
    (detection : DetectionEvent) : RoutedAlert :=
  let alertId := alertId sha1 detection.payload.detectionId
  { eventId := eventId sha1 alertId
    eventTimestamp := detection.eventTimestamp
    traceId := detection.traceId
    source := source
    payload := alertPayload sha1 (registry.isAcknowledged alertId) detection }

/-- What the sinks carry on of a detection's alert, whatever the registry. -/
def alertEventOf (sha1 : List UInt8 → BitVec 160) (detection : DetectionEvent) : AlertEvent where
  alertId := alertId sha1 detection.payload.detectionId
  detectionId := detection.payload.detectionId
  detectionType := detection.payload.detectionType
  severity := detection.payload.severity
  routedAt := detection.eventTimestamp
  storeId := detection.payload.storeId
  deviceId := detection.payload.deviceId
  summary := detection.payload.thresholdBreached

section

variable {ω : Type} (rules : DetectionRules ω) (registry : ω → AcknowledgementRegistry)

/-- `_build_alert`, with the registry as the world holds it. -/
def buildAlert (detection : DetectionEvent) : Call Raised ω RoutedAlert := do
  let current ← Call.read registry
  let alert := alertOf rules.sha1 current detection
  Call.lift (validatePayload alert.payload)
  let ingested ← Call.total rules.now
  Call.lift (BaseEvent.checkClockSkew detection.eventTimestamp ingested)
  pure alert

def route : List DetectionEvent → Call Raised ω (List RoutedAlert)
  | [] => pure []
  | detection :: rest => do
      let alert ← buildAlert rules registry detection
      let later ← route rest
      pure (alert :: later)

end

theorem toAlertEvent_alertOf (sha1 : List UInt8 → BitVec 160) (registry : AcknowledgementRegistry)
    (detection : DetectionEvent) :
    (alertOf sha1 registry detection).toAlertEvent = alertEventOf sha1 detection := rfl

/-- An alert says of itself what the registry does. -/
theorem saysAcknowledged_alertOf (sha1 : List UInt8 → BitVec 160)
    (registry : AcknowledgementRegistry) (detection : DetectionEvent) :
    (alertOf sha1 registry detection).saysAcknowledged =
      some (.flag (registry.isAcknowledged (alertOf sha1 registry detection).payload.alertId)) := by
  have apart : "acknowledged" ≠ "detected_at" := by decide
  rw [RoutedAlert.saysAcknowledged]
  simp only [alertOf, alertPayload, details]
  rw [OrderedDict.get?_set_of_ne _ _ apart, OrderedDict.get?_set, if_pos rfl]

theorem validatePayload_eq_ok {payload : AlertEventPayload} :
    validatePayload payload = .ok () ↔ refusedFields payload = [] := by
  rw [validatePayload]
  cases refusedFields payload <;> simp

theorem isVersion4Or5_alertId (sha1 : List UInt8 → BitVec 160) (detectionId : Uuid) :
    Detections.isVersion4Or5 (alertId sha1 detectionId) = true :=
  Detections.isVersion4Or5_derive ..

/-- What the alert schema takes. -/
theorem refusedFields_eq_nil {payload : AlertEventPayload} :
    refusedFields payload = [] ↔ Detections.isVersion4Or5 payload.alertId = true ∧
      Detections.isVersion4Or5 payload.detectionId = true ∧
      Detections.isDottedName payload.detectionType = true ∧ payload.routedAt.offset = 0 ∧
      payload.storeId ≠ "" ∧ payload.summary ≠ "" := by
  simp only [refusedFields, List.append_eq_nil_iff, ite_eq_left_iff, ite_eq_right_iff,
    reduceCtorEq, imp_false, not_not, and_assoc]

/-- Of a detection its own schema took, the alert schema refuses nothing but a timestamp that is
not in UTC. -/
theorem refusedFields_eq_nil_of_taken {sha1 : List UInt8 → BitVec 160}
    {registry : AcknowledgementRegistry} {detection : DetectionEvent}
    (taken : Detections.refusedFields detection.payload = []) :
    refusedFields (alertOf sha1 registry detection).payload = [] ↔
      detection.eventTimestamp.offset = 0 := by
  obtain ⟨detectionId, dotted, _, named, _, worded⟩ := Detections.refusedFields_eq_nil.mp taken
  rw [refusedFields_eq_nil]
  exact ⟨fun fields => fields.2.2.2.1,
    fun utc => ⟨isVersion4Or5_alertId .., detectionId, dotted, utc, named, worded⟩⟩

section

variable {ω : Type} {rules : DetectionRules ω} {registry : ω → AcknowledgementRegistry}

/-- What the router accepts: the detection's schema took it, it is in UTC, and the clock is not
behind it from now on. -/
structure Routable (rules : DetectionRules ω) (detection : DetectionEvent) (world : ω) : Prop where
  taken : Detections.refusedFields detection.payload = []
  utc : detection.eventTimestamp.offset = 0
  timely : rules.Timely world detection.eventTimestamp

theorem buildAlert_of_routable {detection : DetectionEvent} {world : ω}
    (routable : Routable rules detection world) :
    buildAlert rules registry detection world =
      (.ok (alertOf rules.sha1 (registry world) detection), (rules.now world).2) := by
  have accepted : validatePayload (alertOf rules.sha1 (registry world) detection).payload = .ok () :=
    validatePayload_eq_ok.mpr ((refusedFields_eq_nil_of_taken routable.taken).mpr routable.utc)
  have timely := routable.timely 0
  simp only [DetectionRules.clockAfter, Function.iterate_zero, id_eq] at timely
  simp only [buildAlert, Call.bind_apply, Call.read_apply, Call.lift_apply, accepted,
    Call.total_apply, timely, Call.pure_apply]

/-- Detections that are all routable are all routed, in their order. -/
theorem route_of_routable (registry : ω → AcknowledgementRegistry)
    {detections : List DetectionEvent} {world : ω}
    (routable : ∀ detection ∈ detections, Routable rules detection world) :
    ∃ alerts after, route rules registry detections world = (.ok alerts, after) ∧
      alerts.map RoutedAlert.toAlertEvent = detections.map (alertEventOf rules.sha1) := by
  induction detections generalizing world with
  | nil => exact ⟨[], world, rfl, rfl⟩
  | cons detection rest ih =>
      obtain ⟨here, later⟩ := List.forall_mem_cons.mp routable
      obtain ⟨alerts, after, routed, same⟩ :=
        ih fun other member => { later other member with timely := (later other member).timely.advance }
      refine ⟨alertOf rules.sha1 (registry world) detection :: alerts, after, ?_, ?_⟩
      · rw [route, Call.bind_of_ok (buildAlert_of_routable here), Call.bind_of_ok routed]
        rfl
      · rw [List.map_cons, List.map_cons, same, toAlertEvent_alertOf]

/-- The clock may be read without a change to the registry. -/
def ClockFrames (rules : DetectionRules ω) (registry : ω → AcknowledgementRegistry) : Prop :=
  ∀ world, registry (rules.now world).2 = registry world

end

end AlertRouter

end SignalForge
