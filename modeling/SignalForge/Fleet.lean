import SignalForge.DeviceRegistry
import SignalForge.OfflineDetectorStep

/-! The registry of the fleet's devices, and an offline detector that looks stores up in it. -/

set_option autoImplicit false

namespace SignalForge

namespace DetectionRules

variable {κ : Type}

/-- The clock after some readings. -/
def clockAfter (rules : DetectionRules κ) (readings : Nat) (clock : κ) : κ :=
  (fun clock => (rules.now clock).2)^[readings] clock

/-- From now on the clock reads no earlier than the moment, up to the skew allowed. -/
def Timely (rules : DetectionRules κ) (clock : κ) (moment : Datetime) : Prop :=
  ∀ readings, BaseEvent.checkClockSkew moment (rules.now (rules.clockAfter readings clock)).1 = .ok ()

theorem clockAfter_succ (rules : DetectionRules κ) (readings : Nat) (clock : κ) :
    rules.clockAfter (readings + 1) clock = (rules.now (rules.clockAfter readings clock)).2 :=
  Function.iterate_succ_apply' ..

theorem Timely.advance {rules : DetectionRules κ} {clock : κ} {moment : Datetime}
    (timely : rules.Timely clock moment) : rules.Timely (rules.now clock).2 moment :=
  fun readings => timely (readings + 1)

end DetectionRules

/-- The world around the detector: the registry and a clock. -/
structure Fleet (κ : Type) where
  registry : DeviceRegistry
  clock : κ

namespace Fleet

variable {κ π : Type}

/-- The clock is read through the fleet. -/
def rules (rules : DetectionRules κ) : DetectionRules (Fleet κ) where
  sha1 := rules.sha1
  now fleet := ((rules.now fleet.clock).1, { fleet with clock := (rules.now fleet.clock).2 })
  parseUuid := rules.parseUuid
  formatReal := rules.formatReal

/-- An offline detector whose `store_lookup` is the registry's `store_for`. -/
def offlineDetector (thresholdSeconds : Int) (threshold_pos : 0 < thresholdSeconds)
    (deviceIdExtractor : TelemetryEvent π → Except Raised (Option Uuid)) :
    OfflineDetector (Fleet κ) π where
  thresholdSeconds := thresholdSeconds
  deviceIdExtractor := deviceIdExtractor
  storeLookup deviceId := Call.read fun fleet => fleet.registry.storeFor deviceId
  threshold_pos := threshold_pos

/-- What building a detection about an event needs: a timestamp in UTC, an id of version 4 or 5,
and a clock that is not behind. -/
structure Buildable (rules : DetectionRules κ) (clock : κ) (event : TelemetryEvent π) : Prop where
  utc : event.eventTimestamp.offset = 0
  versioned : Detections.isVersion4Or5 event.eventId = true
  timely : rules.Timely clock event.eventTimestamp

/-- The detector's `store_lookup` is the registry's `store_for`. -/
def LooksUp (detector : OfflineDetector (Fleet κ) π) : Prop :=
  ∀ deviceId, detector.storeLookup deviceId = Call.read fun fleet => fleet.registry.storeFor deviceId

theorem offlineDetector_looksUp (thresholdSeconds : Int) (threshold_pos : 0 < thresholdSeconds)
    (deviceIdExtractor : TelemetryEvent π → Except Raised (Option Uuid)) :
    LooksUp (offlineDetector thresholdSeconds threshold_pos deviceIdExtractor :
      OfflineDetector (Fleet κ) π) :=
  fun _ => rfl

theorem Buildable.steady {baseRules : DetectionRules κ} {event : TelemetryEvent π}
    {detector : OfflineDetector (Fleet κ) π} (looksUp : LooksUp detector) {fleet : Fleet κ}
    (buildable : Buildable baseRules fleet.clock event) :
    OfflineDetector.Steady detector (rules baseRules) event fleet.registry.storeFor fun later =>
        later.registry = fleet.registry ∧
          ∃ readings, later.clock = baseRules.clockAfter readings fleet.clock where
  looked := by
    rintro world ⟨same, _⟩ deviceId
    rw [looksUp, Call.read_apply, same]
  kept := by
    rintro world ⟨same, readings, reached⟩
    refine ⟨same, readings + 1, ?_⟩
    rw [DetectionRules.clockAfter_succ, ← reached]
    rfl
  timely := by
    rintro world ⟨_, readings, reached⟩
    simp only [rules, reached]
    exact buildable.timely readings
  utc := buildable.utc
  versioned := buildable.versioned

end Fleet

end SignalForge
