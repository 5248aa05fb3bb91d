import SignalForge.Binary64
import SignalForge.Detections

/-! The detectors of window emissions: a store in outage, and an anomalous signal. Both report a
condition of a partition once when it comes to hold and clear it when it no longer does. -/

set_option autoImplicit false

namespace SignalForge

namespace EmissionDetector

variable {ω : Type}

/-- The keys the condition holds for, and the world around the detector. -/
structure Running (ω : Type) where
  state : OrderedDict String Unit
  world : ω

/-- A call on the world around the detector. -/
def outside {α : Type} (call : Call Raised ω α) : Call Raised (Running ω) α :=
  Call.zoom Running.world (fun running world => { running with world }) call

def mark (key : String) (running : Running ω) : Running ω :=
  { running with state := running.state.set key () }

def clear (key : String) (running : Running ω) : Running ω :=
  { running with state := running.state.erase key }

/-- Once per transition: a detection when the condition comes to hold, and one when it no longer
does, if there is one to build. The state changes before the detection is built. -/
def transition (key : String) (met : Bool) (enter : Call Raised ω DetectionEvent)
    (recover : Option (Call Raised ω DetectionEvent)) :
    Call Raised (Running ω) (List DetectionEvent) := do
  let current ← Call.read fun running => running.state.contains key
  if met then
    if current then pure []
    else do
      Call.write (mark key)
      let detection ← outside enter
      pure [detection]
  else if current then do
    Call.write (clear key)
    match recover with
    | none => pure []
    | some build => do
        let detection ← outside build
        pure [detection]
  else pure []

/-- A detector given emissions in turn: the detections it returns, and the detector after them. A
call that raises returns none. -/
def observeAll {ε : Type} (observe : ε → Call Raised (Running ω) (List DetectionEvent)) :
    List ε → Running ω → List DetectionEvent × Running ω
  | [], running => ([], running)
  | emission :: rest, running =>
      let later := observeAll observe rest (observe emission running).2
      (Call.answered (observe emission) running ++ later.1, later.2)

end EmissionDetector

/-- `round(ratio * 100)`. -/
def percent (ratio : ℚ) : Int := Binary64.roundHalfEven (Binary64.round (ratio * 100))

/-- Counts are looked up in a world that may change between and during lookups. -/
structure OutageDetector (ω : Type) where
  thresholdRatio : ℚ
  registeredCountLookup : String → Call Raised ω (Option Nat)
  ratio_pos : 0 < thresholdRatio
  ratio_lt_one : thresholdRatio < 1

namespace OutageDetector

open EmissionDetector (Running outside transition)

variable {ω : Type}

def aggregationName : String := "distinct_devices"

/-- `OutageDetector(...)`. -/
def create (formatReal : Double → String) (thresholdRatio : ℚ)
    (registeredCountLookup : String → Call Raised ω (Option Nat)) :
    Except Raised (OutageDetector ω) :=
  if positive : 0 < thresholdRatio then
    if belowOne : thresholdRatio < 1 then
      .ok ⟨thresholdRatio, registeredCountLookup, positive, belowOne⟩
    else .error (.valueError ("threshold_ratio must be in the open interval (0.0, 1.0); got " ++
      formatReal (.finite thresholdRatio)))
  else .error (.valueError ("threshold_ratio must be in the open interval (0.0, 1.0); got " ++
    formatReal (.finite thresholdRatio)))

/-- `offline_count / registered`. -/
def offlineRatio (registered reporting : Nat) : ℚ :=
  Binary64.round (((registered - reporting : Nat) : ℚ) / registered)

def details (detector : OutageDetector ω) (registered : Nat) (emission : WindowEmission Nat) :
    OrderedDict String Detail :=
  (((((OrderedDict.empty.set "offline_count" (.whole (registered - emission.value : Nat))).set
    "registered_count" (.whole registered)).set
    "offline_ratio" (.real (.finite (offlineRatio registered emission.value)))).set
    "threshold_ratio" (.real (.finite detector.thresholdRatio))).set
    "window_start" (.text (emission.windowStart.isoformat "T"))).set
    "window_end" (.text (emission.windowEnd.isoformat "T"))

/-- The coordinates a detection's ids are derived from. -/
def coordinates (emission : WindowEmission Nat) : List Str :=
  [emission.partitionKey.toList, emission.windowStart.str.toList, emission.windowEnd.str.toList]

def outagePayload (detector : OutageDetector ω) (sha1 : List UInt8 → BitVec 160)
    (registered : Nat) (emission : WindowEmission Nat) : DetectionEventPayload where
  detectionId := Identity.derive sha1 "detection.store_outage" (coordinates emission)
  detectionType := detectionTypeStoreOutage
  severity := .critical
  detectedAt := emission.windowEnd
  storeId := emission.partitionKey
  deviceId := none
  sourceEventId := Identity.derive sha1 "source.store_outage" (coordinates emission)
  thresholdBreached := toString (registered - emission.value) ++ " of " ++ toString registered ++
    " devices not reporting (" ++ toString (percent (offlineRatio registered emission.value)) ++
    "% offline, threshold " ++ toString (percent detector.thresholdRatio) ++ "%)"
  details := details detector registered emission

def recoveredPayload (detector : OutageDetector ω) (sha1 : List UInt8 → BitVec 160)
    (registered : Nat) (emission : WindowEmission Nat) : DetectionEventPayload where
  detectionId := Identity.derive sha1 "detection.store_recovered" (coordinates emission)
  detectionType := detectionTypeStoreRecovered
  severity := .info
  detectedAt := emission.windowEnd
  storeId := emission.partitionKey
  deviceId := none
  sourceEventId := Identity.derive sha1 "source.store_recovered" (coordinates emission)
  thresholdBreached := toString (registered - (registered - emission.value)) ++ " of " ++
    toString registered ++ " devices reporting (" ++
    toString (percent (offlineRatio registered emission.value)) ++
    "% offline, below threshold " ++ toString (percent detector.thresholdRatio) ++ "%)"
  details := (details detector registered emission).set "recovered" (.flag true)

def build (rules : DetectionRules ω) (payload : DetectionEventPayload)
    (emission : WindowEmission Nat) : Call Raised ω DetectionEvent :=
  Detections.makeDetection rules payload emission.windowEnd
    (Detections.traceContext rules emission.lastContributingTraceId)

def observeEmission (detector : OutageDetector ω) (rules : DetectionRules ω)
    (emission : WindowEmission Nat) : Call Raised (Running ω) (List DetectionEvent) := do
  let registered ← outside (detector.registeredCountLookup emission.partitionKey)
  match registered with
  | none => pure []
  | some 0 => pure []
  | some (count + 1) =>
      transition emission.partitionKey
        (detector.thresholdRatio < offlineRatio (count + 1) emission.value)
        (build rules (outagePayload detector rules.sha1 (count + 1) emission) emission)
        (some (build rules (recoveredPayload detector rules.sha1 (count + 1) emission) emission))

end OutageDetector

inductive Comparison where
  | above
  | below
  deriving DecidableEq, Repr

/-- `float` reads an emission's value as a double, or raises. -/
structure AnomalyDetector (ρ : Type) where
  threshold : Double
  comparison : Comparison
  signalName : String
  float : ρ → Except Raised Double

namespace AnomalyDetector

open EmissionDetector (Running transition)

variable {ω ρ : Type}

def aggregationName : String := "signal_value"

def compare (detector : AnomalyDetector ρ) (value : Double) : Bool :=
  match detector.comparison with
  | .above => detector.threshold.lt value
  | .below => value.lt detector.threshold

def word : Comparison → String
  | .above => "above"
  | .below => "below"

/-- The coordinates a detection's ids are derived from. -/
def coordinates (detector : AnomalyDetector ρ) (emission : WindowEmission ρ) : List Str :=
  [emission.partitionKey.toList, detector.signalName.toList, emission.windowStart.str.toList,
    emission.windowEnd.str.toList]

def anomalyPayload (detector : AnomalyDetector ρ) (rules : DetectionRules ω) (value : Double)
    (emission : WindowEmission ρ) : DetectionEventPayload where
  detectionId := Identity.derive rules.sha1 "detection.signal_anomaly" (coordinates detector emission)
  detectionType := detectionTypeSignalAnomaly
  severity := .warning
  detectedAt := emission.windowEnd
  storeId := emission.partitionKey
  deviceId := none
  sourceEventId := Identity.derive rules.sha1 "source.signal_anomaly" (coordinates detector emission)
  thresholdBreached := detector.signalName ++ " " ++ rules.formatReal value ++ " " ++
    word detector.comparison ++ " threshold " ++ rules.formatReal detector.threshold
  details := (((((OrderedDict.empty.set "signal_name" (.text detector.signalName)).set
    "value" (.real value)).set
    "threshold" (.real detector.threshold)).set
    "comparison" (.text (word detector.comparison))).set
    "window_start" (.text (emission.windowStart.isoformat "T"))).set
    "window_end" (.text (emission.windowEnd.isoformat "T"))

def build (rules : DetectionRules ω) (payload : DetectionEventPayload)
    (emission : WindowEmission ρ) : Call Raised ω DetectionEvent :=
  Detections.makeDetection rules payload emission.windowEnd
    (Detections.traceContext rules emission.lastContributingTraceId)

/-- Recovery is silent. -/
def observeEmission (detector : AnomalyDetector ρ) (rules : DetectionRules ω)
    (emission : WindowEmission ρ) : Call Raised (Running ω) (List DetectionEvent) := do
  let value ← Call.lift (detector.float emission.value)
  transition emission.partitionKey (detector.compare value)
    (build rules (anomalyPayload detector rules value emission) emission) none

end AnomalyDetector

namespace EmissionDetector

variable {ω : Type}

/-- What building a detection about an emission needs: the id of a store, a window end in UTC, and
a clock that is not behind. -/
structure Buildable {ρ : Type} (rules : DetectionRules ω) (world : ω) (emission : WindowEmission ρ) :
    Prop where
  named : emission.partitionKey ≠ ""
  utc : emission.windowEnd.offset = 0
  timely : BaseEvent.checkClockSkew emission.windowEnd (rules.now world).1 = .ok ()

/-- The emission carries no trace, or a valid one. -/
def Traced {ρ : Type} (rules : DetectionRules ω) (emission : WindowEmission ρ) : Prop :=
  ∃ traceId, Detections.traceContext rules emission.lastContributingTraceId = .ok traceId

/-- The payload of a detection about the emission: its ids are derived, its store is the partition,
and it is detected at the window's end. -/
structure About {ρ : Type} (payload : DetectionEventPayload) (emission : WindowEmission ρ) :
    Prop where
  detectionId : Detections.isVersion4Or5 payload.detectionId = true
  sourceEventId : Detections.isVersion4Or5 payload.sourceEventId = true
  dotted : Detections.isDottedName payload.detectionType = true
  detectedAt : payload.detectedAt = emission.windowEnd
  storeId : payload.storeId = emission.partitionKey
  worded : payload.thresholdBreached ≠ ""

theorem About.returns {ρ : Type} {payload : DetectionEventPayload} {emission : WindowEmission ρ}
    (about : About payload emission) (rules : DetectionRules ω) (world : ω) :
    (Detections.makeDetection rules payload emission.windowEnd
        (Detections.traceContext rules emission.lastContributingTraceId)).Returns world ↔
      Traced rules emission ∧ Buildable rules world emission := by
  rw [Detections.makeDetection_returns, Detections.refusedFields_eq_nil, about.detectedAt,
    about.storeId]
  constructor
  · rintro ⟨⟨_, _, utc, named, _⟩, traced, timely⟩
    exact ⟨traced, named, utc, timely⟩
  · rintro ⟨traced, named, utc, timely⟩
    exact ⟨⟨about.detectionId, about.dotted, utc, named, about.sourceEventId, about.worded⟩, traced,
      timely⟩

section

variable {ε : Type} (observe : ε → Call Raised (Running ω) (List DetectionEvent))

theorem observeAll_append (front back : List ε) (running : Running ω) :
    observeAll observe (front ++ back) running =
      ((observeAll observe front running).1 ++
          (observeAll observe back (observeAll observe front running).2).1,
        (observeAll observe back (observeAll observe front running).2).2) := by
  induction front generalizing running with
  | nil => rfl
  | cons emission rest ih =>
      rw [List.cons_append, observeAll, ih, observeAll]
      simp only [List.append_assoc]

theorem observeAll_concat (emissions : List ε) (emission : ε) (running : Running ω) :
    (observeAll observe (emissions ++ [emission]) running).2 =
      (observe emission (observeAll observe emissions running).2).2 := by
  rw [observeAll_append]
  rfl

end

@[simp] theorem contains_mark (key other : String) (running : Running ω) :
    (mark key running).state.contains other = (other = key || running.state.contains other) := by
  rw [mark, OrderedDict.contains, OrderedDict.get?_set]
  by_cases same : other = key
  · simp [same]
  · simp [same, OrderedDict.contains]

@[simp] theorem contains_clear (key other : String) (running : Running ω) :
    (clear key running).state.contains other = (other ≠ key && running.state.contains other) := by
  rw [clear, OrderedDict.contains, OrderedDict.get?_erase]
  by_cases same : other = key
  · simp [same]
  · simp [same, OrderedDict.contains]

theorem outside_singleton (call : Call Raised ω DetectionEvent) (running : Running ω) :
    (outside call >>= fun detection => pure [detection]) running =
      ((call running.world).1.map ([·]), { running with world := (call running.world).2 }) := by
  rw [Call.bind_apply, outside, Call.zoom]
  rcases call running.world with ⟨_ | detection, after⟩ <;> rfl

variable {key : String} {met : Bool} {running : Running ω}

/-- Where the condition is as it was there is nothing to do. -/
theorem transition_steady (enter : Call Raised ω DetectionEvent)
    (recover : Option (Call Raised ω DetectionEvent)) (same : running.state.contains key = met) :
    transition key met enter recover running = (.ok [], running) := by
  simp only [transition]
  rw [Call.bind_of_ok (Call.read_apply ..), same]
  cases met <;> rfl

/-- A condition that comes to hold is marked, and then reported. -/
theorem transition_entering (enter : Call Raised ω DetectionEvent)
    (recover : Option (Call Raised ω DetectionEvent)) (new : running.state.contains key = false) :
    transition key true enter recover running =
      ((enter running.world).1.map ([·]),
        { mark key running with world := (enter running.world).2 }) := by
  simp only [transition]
  rw [Call.bind_of_ok (Call.read_apply ..), new]
  simp only [↓reduceIte, Bool.false_eq_true]
  rw [Call.bind_of_ok (Call.write_apply ..), outside_singleton]
  rfl

/-- A condition that no longer holds is cleared, and then reported. -/
theorem transition_recovering (enter build : Call Raised ω DetectionEvent)
    (old : running.state.contains key = true) :
    transition key false enter (some build) running =
      ((build running.world).1.map ([·]),
        { clear key running with world := (build running.world).2 }) := by
  simp only [transition]
  rw [Call.bind_of_ok (Call.read_apply ..), old]
  simp only [↓reduceIte, Bool.false_eq_true]
  rw [Call.bind_of_ok (Call.write_apply ..), outside_singleton]
  rfl

/-- A condition whose end is not reported goes silently. -/
theorem transition_silent (enter : Call Raised ω DetectionEvent)
    (old : running.state.contains key = true) :
    transition key false enter none running = (.ok [], clear key running) := by
  simp only [transition]
  rw [Call.bind_of_ok (Call.read_apply ..), old]
  rfl

/-- Whether or not it raises, a transition leaves the key as the condition says and the others as
they were. -/
theorem contains_transition (key : String) (met : Bool) (enter : Call Raised ω DetectionEvent)
    (recover : Option (Call Raised ω DetectionEvent)) (running : Running ω) (other : String) :
    (transition key met enter recover running).2.state.contains other =
      if other = key then met else running.state.contains other := by
  by_cases same : running.state.contains key = met
  · rw [transition_steady enter recover same]
    split
    · rename_i here
      rw [here, same]
    · rfl
  · cases met with
    | true =>
        rw [transition_entering enter recover (Bool.eq_false_of_not_eq_true same)]
        have marked := contains_mark key other running
        simp only at marked ⊢
        rw [marked]
        by_cases here : other = key <;> simp [here]
    | false =>
        have cleared := contains_clear key other running
        have old := Bool.eq_true_of_not_eq_false same
        cases recover with
        | none =>
            rw [transition_silent enter old, cleared]
            by_cases here : other = key <;> simp [here]
        | some build =>
            rw [transition_recovering enter build old]
            simp only at cleared ⊢
            rw [cleared]
            by_cases here : other = key <;> simp [here]

end EmissionDetector

end SignalForge
