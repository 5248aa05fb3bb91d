import SignalForge.Binary64
import SignalForge.Detections

/-! The offline detector: the timestamps devices were last seen at, and a scan of all of them on
every event that names a device. -/

set_option autoImplicit false

namespace SignalForge

/-- `timedelta(seconds=seconds)`, in microseconds. -/
def timedeltaSeconds (seconds : Int) : Except Raised Int :=
  let days := seconds.fdiv 86400
  if -999999999 ≤ days ∧ days ≤ 999999999 then .ok (seconds * microsPerSecond)
  else .error .overflowError

/-- The stores are looked up in a world that may change between and during lookups. -/
structure OfflineDetector (ω π : Type) where
  thresholdSeconds : Int
  deviceIdExtractor : TelemetryEvent π → Except Raised (Option Uuid)
  storeLookup : Uuid → Call Raised ω (Option String)
  threshold_pos : 0 < thresholdSeconds

namespace OfflineDetector

variable {ω π : Type}

/-- `OfflineDetector(...)`. -/
def create (thresholdSeconds : Int)
    (deviceIdExtractor : TelemetryEvent π → Except Raised (Option Uuid))
    (storeLookup : Uuid → Call Raised ω (Option String)) :
    Except Raised (OfflineDetector ω π) :=
  if positive : 0 < thresholdSeconds then
    .ok ⟨thresholdSeconds, deviceIdExtractor, storeLookup, positive⟩
  else .error (.valueError "threshold_seconds must be > 0")

inductive DeviceState where
  | seen
  | offline
  deriving DecidableEq, Repr

structure State where
  lastSeen : OrderedDict Uuid Datetime
  state : OrderedDict Uuid DeviceState

namespace State

def initial : State := ⟨.empty, .empty⟩

def refresh (deviceId : Uuid) (moment : Datetime) (state : State) : State where
  lastSeen := state.lastSeen.set deviceId moment
  state := state.state.set deviceId .seen

def markOffline (deviceId : Uuid) (state : State) : State :=
  { state with state := state.state.set deviceId .offline }

end State

/-- What the detector keeps, and the world around it. -/
structure Running (ω : Type) where
  detector : State
  world : ω

/-- A call on the world around the detector. -/
def outside {α : Type} (call : Call Raised ω α) : Call Raised (Running ω) α :=
  Call.zoom Running.world (fun running world => { running with world }) call

def update (change : State → State) : Call Raised (Running ω) Unit :=
  Call.write fun running => { running with detector := change running.detector }

/-- `int(silent_for.total_seconds())`. -/
def silentSeconds (silentFor : Int) : Int := ⌊Binary64.round (silentFor / microsPerSecond)⌋

def offlinePayload (detector : OfflineDetector ω π) (sha1 : List UInt8 → BitVec 160)
    (deviceId : Uuid) (storeId : String) (silentFor : Int) (sourceEvent : TelemetryEvent π) :
    DetectionEventPayload where
  detectionId := Identity.derive sha1 "detection.device_offline"
    [storeId.toList, deviceId.text, sourceEvent.eventId.text]
  detectionType := detectionTypeDeviceOffline
  severity := .warning
  detectedAt := sourceEvent.eventTimestamp
  storeId := storeId
  deviceId := some deviceId
  sourceEventId := sourceEvent.eventId
  thresholdBreached := "no events for " ++ toString (silentSeconds silentFor) ++ "s (threshold " ++
    toString detector.thresholdSeconds ++ "s)"
  details := (OrderedDict.empty.set "silent_seconds" (.whole (silentSeconds silentFor))).set
    "threshold_seconds" (.whole detector.thresholdSeconds)

def onlinePayload (sha1 : List UInt8 → BitVec 160) (deviceId : Uuid) (storeId : String)
    (sourceEvent : TelemetryEvent π) : DetectionEventPayload where
  detectionId := Identity.derive sha1 "detection.device_online"
    [storeId.toList, deviceId.text, sourceEvent.eventId.text]
  detectionType := detectionTypeDeviceOnline
  severity := .info
  detectedAt := sourceEvent.eventTimestamp
  storeId := storeId
  deviceId := some deviceId
  sourceEventId := sourceEvent.eventId
  thresholdBreached := "device reporting again after silence"
  details := OrderedDict.empty.set "recovered" (.flag true)

def build (rules : DetectionRules ω) (payload : DetectionEventPayload)
    (sourceEvent : TelemetryEvent π) : Call Raised ω DetectionEvent :=
  Detections.makeDetection rules payload sourceEvent.eventTimestamp
    (.ok (some sourceEvent.traceId))

/-- A store, unless there is none or its name is empty. -/
def registered (store : Option String) : Option String := store.filter (· ≠ "")

/-- The recovery of a device that was offline until this event. -/
def recover (detector : OfflineDetector ω π) (rules : DetectionRules ω) (deviceId : Uuid)
    (previous : Option DeviceState) (event : TelemetryEvent π) :
    Call Raised (Running ω) (List DetectionEvent) :=
  if previous = some .offline then do
    let recoveryStore ← outside (detector.storeLookup deviceId)
    match registered recoveryStore with
    | none => pure []
    | some storeId => do
        let detection ← outside (build rules (onlinePayload rules.sha1 deviceId storeId event) event)
        pure [detection]
  else pure []

def scanSilent (detector : OfflineDetector ω π) (rules : DetectionRules ω)
    (event : TelemetryEvent π) (deviceId : Uuid) (last : Datetime) :
    Call Raised (Running ω) (List DetectionEvent) := do
  let store ← outside (detector.storeLookup deviceId)
  match registered store with
  | none => pure []
  | some storeId => do
      -- The state changes first: a detection that cannot be built leaves the device offline.
      update (State.markOffline deviceId)
      let silentFor := event.eventTimestamp.micros - last.micros
      let detection ← outside (build rules
        (offlinePayload detector rules.sha1 deviceId storeId silentFor event) event)
      pure [detection]

def scanDevice (detector : OfflineDetector ω π) (rules : DetectionRules ω) (threshold : Int)
    (event : TelemetryEvent π) (deviceId : Uuid) (last : Datetime) :
    Call Raised (Running ω) (List DetectionEvent) := do
  let state ← Call.read fun running => running.detector.state.get? deviceId
  match state with
  | none => Call.raise .keyError
  | some .offline => pure []
  | some .seen =>
      if event.eventTimestamp.micros - last.micros ≤ threshold then pure []
      else scanSilent detector rules event deviceId last

def scan (detector : OfflineDetector ω π) (rules : DetectionRules ω) (threshold : Int)
    (event : TelemetryEvent π) : List (Uuid × Datetime) →
      Call Raised (Running ω) (List DetectionEvent)
  | [] => pure []
  | (deviceId, last) :: rest => do
      let detected ← scanDevice detector rules threshold event deviceId last
      let later ← scan detector rules threshold event rest
      pure (detected ++ later)

def observeDevice (detector : OfflineDetector ω π) (rules : DetectionRules ω)
    (event : TelemetryEvent π) (deviceId : Uuid) :
    Call Raised (Running ω) (List DetectionEvent) := do
  let previous ← Call.read fun running => running.detector.state.get? deviceId
  update (State.refresh deviceId event.eventTimestamp)
  let recovery ← recover detector rules deviceId previous event
  let threshold ← Call.lift (timedeltaSeconds detector.thresholdSeconds)
  let known ← Call.read fun running => running.detector.lastSeen.entries
  let detections ← scan detector rules threshold event known
  pure (recovery ++ detections)

def observeEvent (detector : OfflineDetector ω π) (rules : DetectionRules ω)
    (event : TelemetryEvent π) : Call Raised (Running ω) (List DetectionEvent) := do
  let extracted ← Call.lift (detector.deviceIdExtractor event)
  match extracted with
  | none => pure []
  | some deviceId => observeDevice detector rules event deviceId

/-- Events observed in turn, with all the detections returned. -/
def observeAll (detector : OfflineDetector ω π) (rules : DetectionRules ω) :
    List (TelemetryEvent π) → Call Raised (Running ω) (List DetectionEvent)
  | [] => pure []
  | event :: rest => do
      let detections ← observeEvent detector rules event
      let later ← observeAll detector rules rest
      pure (detections ++ later)

end OfflineDetector

end SignalForge
