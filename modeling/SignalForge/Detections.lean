import SignalForge.BaseEvent
import SignalForge.Call
import SignalForge.StreamRecords

/-! Detection events: their types, what their schema refuses, and how a detector builds one. -/

set_option autoImplicit false

namespace SignalForge

def detectionTypeDeviceOffline : String := "device.offline"

def detectionTypeDeviceOnline : String := "device.online"

def detectionTypeStoreOutage : String := "store.outage"

def detectionTypeStoreRecovered : String := "store.recovered"

def detectionTypeSignalAnomaly : String := "signal.anomaly"

/-- What building a detection rests on outside this code: the hash under derived ids, the
clock, UUIDs parsed from text and the shortest decimal text of a double. -/
structure DetectionRules (ω : Type) where
  sha1 : List UInt8 → BitVec 160
  now : ω → Instant × ω
  parseUuid : String → Option Uuid
  formatReal : Double → String

namespace Detections

/-- A UUID of version 4 or 5. -/
def isVersion4Or5 (id : Uuid) : Bool := id.version = some 4 || id.version = some 5

/-- `^[a-z0-9]+(\.[a-z0-9]+)+$`. -/
def isDottedName (name : String) : Bool :=
  let segments := Text.split ['.'] name.toList
  1 < segments.length && segments.all fun segment =>
    segment ≠ [] && segment.all fun c => c.isLower || c.isDigit

/-- The fields of the payload the schema refuses. -/
def refusedFields (payload : DetectionEventPayload) : List String :=
  (if isVersion4Or5 payload.detectionId then [] else ["detection_id"]) ++
  (if isDottedName payload.detectionType then [] else ["detection_type"]) ++
  (if payload.detectedAt.offset = 0 then [] else ["detected_at"]) ++
  (if payload.storeId = "" then ["store_id"] else []) ++
  (if isVersion4Or5 payload.sourceEventId then [] else ["source_event_id"]) ++
  (if payload.thresholdBreached = "" then ["threshold_breached"] else [])

/-- `DetectionEventPayload(...)`. -/
def validatePayload (payload : DetectionEventPayload) : Except Raised Unit :=
  match refusedFields payload with
  | [] => .ok ()
  | fields => .error (.validationError fields)

section

variable {ω : Type}

/-- `derive("event.detection", detection_id)`. -/
def detectionEventId (rules : DetectionRules ω) (detectionId : Uuid) : Uuid :=
  Identity.derive rules.sha1 "event.detection" [detectionId.text]

/-- `TraceContext(trace_id=text)`, a fresh trace where there is no text. -/
def traceContext (rules : DetectionRules ω) : Option String → Except Raised (Option Uuid)
  | none => .ok none
  | some text =>
      match rules.parseUuid text with
      | some traceId => .ok (some traceId)
      | none => .error (.validationError ["trace_id"])

/-- `DetectionEvent(...)` around a payload and a trace. -/
def makeDetection (rules : DetectionRules ω) (payload : DetectionEventPayload)
    (eventTimestamp : Datetime) (trace : Except Raised (Option Uuid)) :
    Call Raised ω DetectionEvent := do
  Call.lift (validatePayload payload)
  let traceId ← Call.lift trace
  let ingested ← Call.total rules.now
  Call.lift (BaseEvent.checkClockSkew eventTimestamp ingested)
  pure ⟨detectionEventId rules payload.detectionId, eventTimestamp, traceId, payload⟩

/-- What the schema takes. -/
theorem refusedFields_eq_nil {payload : DetectionEventPayload} :
    refusedFields payload = [] ↔ isVersion4Or5 payload.detectionId = true ∧
      isDottedName payload.detectionType = true ∧ payload.detectedAt.offset = 0 ∧
      payload.storeId ≠ "" ∧ isVersion4Or5 payload.sourceEventId = true ∧
      payload.thresholdBreached ≠ "" := by
  simp only [refusedFields, List.append_eq_nil_iff, ite_eq_left_iff, ite_eq_right_iff,
    reduceCtorEq, imp_false, not_not, and_assoc]

theorem validatePayload_eq_ok {payload : DetectionEventPayload} :
    validatePayload payload = .ok () ↔ refusedFields payload = [] := by
  rw [validatePayload]
  cases refusedFields payload <;> simp

/-- A detection is built exactly when the schema takes its payload, its trace is one, and its
timestamp does not lead the clock by more than the skew allowed. -/
theorem makeDetection_returns {rules : DetectionRules ω} {payload : DetectionEventPayload}
    {eventTimestamp : Datetime} {trace : Except Raised (Option Uuid)} {world : ω} :
    (makeDetection rules payload eventTimestamp trace).Returns world ↔
      refusedFields payload = [] ∧ (∃ traceId, trace = .ok traceId) ∧
        BaseEvent.checkClockSkew eventTimestamp (rules.now world).1 = .ok () := by
  rw [makeDetection, Call.returns_lift_bind, ← validatePayload_eq_ok]
  constructor
  · rintro ⟨_, accepted, later⟩
    rw [Call.returns_lift_bind] at later
    obtain ⟨traceId, traced, later⟩ := later
    rw [Call.returns_bind_of_ok (Call.total_apply _ _), Call.returns_lift_bind] at later
    obtain ⟨_, timely, _⟩ := later
    exact ⟨accepted, ⟨traceId, traced⟩, timely⟩
  · rintro ⟨accepted, ⟨traceId, traced⟩, timely⟩
    refine ⟨(), accepted, ?_⟩
    rw [Call.returns_lift_bind]
    refine ⟨traceId, traced, ?_⟩
    rw [Call.returns_bind_of_ok (Call.total_apply _ _), Call.returns_lift_bind]
    exact ⟨(), timely, Call.returns_pure _ _⟩

/-- What a detection carries, and that building it only reads the clock. -/
theorem makeDetection_ok {rules : DetectionRules ω} {payload : DetectionEventPayload}
    {eventTimestamp : Datetime} {trace : Except Raised (Option Uuid)} {world after : ω}
    {detection : DetectionEvent}
    (returned : makeDetection rules payload eventTimestamp trace world =
      (.ok detection, after)) :
    detection.payload = payload ∧ detection.eventTimestamp = eventTimestamp ∧
      after = (rules.now world).2 := by
  simp only [makeDetection, Call.bind_eq_ok, Call.lift_apply, Call.total_apply, Call.pure_apply,
    Prod.mk.injEq, Except.ok.injEq] at returned
  obtain ⟨_, _, ⟨_, rfl⟩, _, _, ⟨_, rfl⟩, _, _, ⟨_, rfl⟩, _, _, ⟨_, rfl⟩, rfl, rfl⟩ := returned
  exact ⟨rfl, rfl, rfl⟩

end

theorem isVersion4Or5_derive (sha1 : List UInt8 → BitVec 160) (role : String) (parts : List Str) :
    isVersion4Or5 (Identity.derive sha1 role parts) = true := by
  rw [isVersion4Or5, Identity.version_derive]
  rfl

end Detections

end SignalForge
