import SignalForge.OfflineDetector
import SignalForge.Sha1

/-! Runs of the offline detector: what it knows of each device, and when it reports one. -/

set_option autoImplicit false

namespace SignalForge

theorem timedeltaSeconds_ok {seconds delta : Int} (returned : timedeltaSeconds seconds = .ok delta) :
    delta = seconds * microsPerSecond := by
  simp only [timedeltaSeconds] at returned
  split at returned
  · exact (Except.ok.inj returned).symm
  · cases returned

theorem timedeltaSeconds_pos {seconds threshold : Int} (positive : 0 < seconds)
    (converted : timedeltaSeconds seconds = .ok threshold) : 0 < threshold := by
  have inMicros := timedeltaSeconds_ok converted
  simp only [microsPerSecond] at inMicros
  omega

/-- A number of seconds that is no timedelta is longer than any two instants are apart. -/
theorem apart_of_timedeltaSeconds_error {seconds : Int} (positive : 0 < seconds) {reason : Raised}
    (failed : timedeltaSeconds seconds = .error reason) (earlier later : Instant) :
    later.micros - earlier.micros < seconds * microsPerSecond := by
  have lower := earlier.min_le
  have upper := later.le_max
  simp only [timedeltaSeconds] at failed
  split at failed
  · cases failed
  · rename_i outside
    rw [Int.fdiv_eq_ediv_of_nonneg _ (by decide)] at outside
    simp only [minMicros, maxMicros, microsPerSecond] at lower upper ⊢
    omega

namespace OfflineDetector

variable {ω π : Type} {detector : OfflineDetector ω π} {rules : DetectionRules ω}

/-- The device an event names. -/
def deviceOf (detector : OfflineDetector ω π) (event : TelemetryEvent π) : Option Uuid :=
  match detector.deviceIdExtractor event with
  | .ok deviceId => deviceId
  | .error _ => none

section LastSeen

theorem frames_outside {α : Type} (call : Call Raised ω α) :
    Call.Frames (fun running => running.detector) (outside call) := fun _ => rfl

theorem Frames.lastSeen {α : Type} {call : Call Raised (Running ω) α}
    (frames : Call.Frames (fun running => running.detector) call) :
    Call.Frames (fun running => running.detector.lastSeen) call :=
  fun running => congrArg State.lastSeen (frames running)

theorem frames_recover (deviceId : Uuid) (previous : Option DeviceState)
    (event : TelemetryEvent π) :
    Call.Frames (fun running => running.detector)
      (recover detector rules deviceId previous event) := by
  rw [recover]
  split
  · apply Call.Frames.bind (frames_outside _)
    intro store
    cases registered store with
    | none => exact Call.frames_pure _
    | some storeId => exact (frames_outside _).bind fun _ => Call.frames_pure _
  · exact Call.frames_pure _

theorem frames_scanSilent (event : TelemetryEvent π) (deviceId : Uuid) (last : Datetime) :
    Call.Frames (fun running => running.detector.lastSeen)
      (scanSilent detector rules event deviceId last) := by
  apply Call.Frames.bind (Frames.lastSeen (frames_outside _))
  intro store
  cases registered store with
  | none => exact Call.frames_pure _
  | some storeId =>
      have marked : Call.Frames (fun running : Running ω => running.detector.lastSeen)
          (update (State.markOffline deviceId)) := fun _ => rfl
      apply marked.bind
      intro _
      exact (Frames.lastSeen (frames_outside _)).bind fun _ => Call.frames_pure _

theorem frames_scanDevice (threshold : Int) (event : TelemetryEvent π) (deviceId : Uuid)
    (last : Datetime) :
    Call.Frames (fun running => running.detector.lastSeen)
      (scanDevice detector rules threshold event deviceId last) := by
  apply Call.Frames.bind (Call.frames_read _)
  intro state
  cases state with
  | none => exact Call.frames_raise _
  | some state =>
      cases state with
      | offline => exact Call.frames_pure _
      | seen =>
          simp only
          split
          · exact Call.frames_pure _
          · exact frames_scanSilent event deviceId last

theorem frames_scan (threshold : Int) (event : TelemetryEvent π) (known : List (Uuid × Datetime)) :
    Call.Frames (fun running => running.detector.lastSeen)
      (scan detector rules threshold event known) := by
  induction known with
  | nil => exact Call.frames_pure _
  | cons entry rest ih =>
      apply Call.Frames.bind (frames_scanDevice threshold event entry.1 entry.2)
      exact fun _ => ih.bind fun _ => Call.frames_pure _

/-- An event that names a device is what the device was last seen by, whether or not the scan that
follows raises. -/
theorem lastSeen_observeDevice (event : TelemetryEvent π) (deviceId : Uuid) (running : Running ω) :
    (observeDevice detector rules event deviceId running).2.detector.lastSeen =
      running.detector.lastSeen.set deviceId event.eventTimestamp := by
  have later : ∀ previous, Call.Frames (fun running => running.detector.lastSeen) (do
      let recovery ← recover detector rules deviceId previous event
      let threshold ← Call.lift (timedeltaSeconds detector.thresholdSeconds)
      let known ← Call.read fun running => running.detector.lastSeen.entries
      let detections ← scan detector rules threshold event known
      pure (recovery ++ detections)) := by
    intro previous
    apply Call.Frames.bind (Frames.lastSeen (frames_recover deviceId previous event))
    intro recovery
    apply Call.Frames.bind (Call.frames_lift _)
    intro threshold
    apply Call.Frames.bind (Call.frames_read _)
    intro known
    exact (frames_scan threshold event known).bind fun _ => Call.frames_pure _
  exact later _ _

theorem lastSeen_observeEvent (event : TelemetryEvent π) (running : Running ω) :
    (observeEvent detector rules event running).2.detector.lastSeen =
      match deviceOf detector event with
      | none => running.detector.lastSeen
      | some deviceId => running.detector.lastSeen.set deviceId event.eventTimestamp := by
  rw [observeEvent, Call.bind_apply, Call.lift_apply, deviceOf]
  rcases detector.deviceIdExtractor event with _ | _ | deviceId
  · rfl
  · rfl
  · exact lastSeen_observeDevice event deviceId running

end LastSeen

/-- What the detector and its world can come to after these events, whatever the calls raised and
however the world changed in between. -/
inductive Reached (detector : OfflineDetector ω π) (rules : DetectionRules ω) :
    List (TelemetryEvent π) → Running ω → Prop where
  | start (world : ω) : Reached detector rules [] ⟨.initial, world⟩
  | observe {history : List (TelemetryEvent π)} {running : Running ω} (event : TelemetryEvent π)
      (reached : Reached detector rules history running) :
      Reached detector rules (history ++ [event]) (observeEvent detector rules event running).2
  | change {history : List (TelemetryEvent π)} {running : Running ω} (world : ω)
      (reached : Reached detector rules history running) :
      Reached detector rules history { running with world }

/-- The last to arrive of a device's events. -/
def lastArrival (detector : OfflineDetector ω π) (history : List (TelemetryEvent π))
    (deviceId : Uuid) : Option (TelemetryEvent π) :=
  (history.filter fun event => deviceOf detector event = some deviceId).getLast?

theorem lastArrival_concat (history : List (TelemetryEvent π)) (event : TelemetryEvent π)
    (deviceId : Uuid) :
    lastArrival detector (history ++ [event]) deviceId =
      if deviceOf detector event = some deviceId then some event
      else lastArrival detector history deviceId := by
  rw [lastArrival, List.filter_append]
  split
  · rename_i named
    rw [List.filter_cons_of_pos (by simpa using named), List.filter_nil, List.getLast?_concat]
  · rename_i notNamed
    rw [List.filter_cons_of_neg (by simpa using notNamed), List.filter_nil, List.append_nil,
      lastArrival]

/-- What a device was last seen by is its event that arrived last, however old. -/
theorem Reached.lastSeen {history : List (TelemetryEvent π)} {running : Running ω}
    (reached : Reached detector rules history running) (deviceId : Uuid) :
    running.detector.lastSeen.get? deviceId =
      (lastArrival detector history deviceId).map TelemetryEvent.eventTimestamp := by
  induction reached with
  | start world => rfl
  | change world _ ih => exact ih
  | observe event _ ih =>
      rw [lastSeen_observeEvent, lastArrival_concat]
      cases deviceOf detector event with
      | none => rw [if_neg (by simp)]; exact ih
      | some named =>
          simp only [OrderedDict.get?_set, Option.some.injEq]
          by_cases same : named = deviceId
          · rw [if_pos same, if_pos same.symm, Option.map_some]
          · rw [if_neg same, if_neg fun equal => same equal.symm, ih]

section Detections

theorem outside_ok {α : Type} {call : Call Raised ω α} {running after : Running ω} {value : α}
    (returned : outside call running = (.ok value, after)) :
    ∃ world, call running.world = (.ok value, world) ∧ after = { running with world } := by
  obtain ⟨world, here, same⟩ := Call.zoom_eq_ok.mp returned
  exact ⟨world, here, same.symm⟩

theorem online_ne_offline : detectionTypeDeviceOnline ≠ detectionTypeDeviceOffline := by decide

/-- A detection that is built carries the payload it is built from. -/
theorem mem_built {payload : DetectionEventPayload} {event : TelemetryEvent π}
    {running after : Running ω} {detections : List DetectionEvent} {detection : DetectionEvent}
    (returned : (do
      let built ← outside (build rules payload event)
      pure [built] : Call Raised (Running ω) (List DetectionEvent)) running =
        (.ok detections, after))
    (member : detection ∈ detections) : detection.payload = payload := by
  obtain ⟨built, _, here, last⟩ := Call.bind_eq_ok.mp returned
  cases last
  obtain rfl := List.mem_singleton.mp member
  obtain ⟨_, made, _⟩ := outside_ok here
  exact (Detections.makeDetection_ok made).1

/-- A recovery is about the device the event names. -/
theorem mem_recover {deviceId : Uuid} {previous : Option DeviceState} {event : TelemetryEvent π}
    {running after : Running ω} {detections : List DetectionEvent} {detection : DetectionEvent}
    (returned : recover detector rules deviceId previous event running = (.ok detections, after))
    (member : detection ∈ detections) :
    ∃ storeId, detection.payload = onlinePayload rules.sha1 deviceId storeId event := by
  rw [recover] at returned
  split at returned
  · obtain ⟨store, _, _, returned⟩ := Call.bind_eq_ok.mp returned
    cases found : registered store with
    | none =>
        rw [found] at returned
        cases returned
        cases member
    | some storeId =>
        rw [found] at returned
        exact ⟨storeId, mem_built returned member⟩
  · cases returned
    cases member

/-- A device the scan reports had been seen, and longer ago than the threshold. -/
theorem mem_scanDevice {threshold : Int} {event : TelemetryEvent π} {deviceId : Uuid}
    {last : Datetime} {running after : Running ω} {detections : List DetectionEvent}
    {detection : DetectionEvent}
    (returned : scanDevice detector rules threshold event deviceId last running =
      (.ok detections, after))
    (member : detection ∈ detections) :
    threshold < event.eventTimestamp.micros - last.micros ∧
      ∃ storeId, detection.payload = offlinePayload detector rules.sha1 deviceId storeId
        (event.eventTimestamp.micros - last.micros) event := by
  obtain ⟨state, between, here, returned⟩ := Call.bind_eq_ok.mp returned
  cases here
  cases known : running.detector.state.get? deviceId with
  | none =>
      simp only [known] at returned
      cases returned
  | some state =>
      cases state with
      | offline =>
          simp only [known] at returned
          cases returned
          cases member
      | seen =>
          simp only [known] at returned
          split at returned
          · cases returned
            cases member
          · rename_i crossed
            refine ⟨Int.not_le.mp crossed, ?_⟩
            obtain ⟨store, _, _, returned⟩ := Call.bind_eq_ok.mp returned
            cases found : registered store with
            | none =>
                rw [found] at returned
                cases returned
                cases member
            | some storeId =>
                rw [found] at returned
                obtain ⟨_, _, _, returned⟩ := Call.bind_eq_ok.mp returned
                exact ⟨storeId, mem_built returned member⟩

theorem mem_scan {threshold : Int} {event : TelemetryEvent π} {known : List (Uuid × Datetime)}
    {running after : Running ω} {detections : List DetectionEvent} {detection : DetectionEvent}
    (returned : scan detector rules threshold event known running = (.ok detections, after))
    (member : detection ∈ detections) :
    ∃ entry ∈ known, threshold < event.eventTimestamp.micros - entry.2.micros ∧
      ∃ storeId, detection.payload = offlinePayload detector rules.sha1 entry.1 storeId
        (event.eventTimestamp.micros - entry.2.micros) event := by
  induction known generalizing running detections with
  | nil =>
      cases returned
      cases member
  | cons entry rest ih =>
      obtain ⟨detected, between, here, returned⟩ := Call.bind_eq_ok.mp returned
      obtain ⟨later, final, there, last⟩ := Call.bind_eq_ok.mp returned
      cases last
      rcases List.mem_append.mp member with now | afterwards
      · exact ⟨entry, List.mem_cons_self, mem_scanDevice here now⟩
      · obtain ⟨other, inRest, rest⟩ := ih there afterwards
        exact ⟨other, List.mem_cons_of_mem _ inRest, rest⟩

/-- Every device reported offline is one last seen longer before the event than the threshold. -/
theorem mem_observeEvent {event : TelemetryEvent π} {running after : Running ω}
    {detections : List DetectionEvent} {detection : DetectionEvent}
    (returned : observeEvent detector rules event running = (.ok detections, after))
    (member : detection ∈ detections)
    (offline : detection.payload.detectionType = detectionTypeDeviceOffline) :
    ∃ deviceId last storeId, after.detector.lastSeen.get? deviceId = some last ∧
      detector.thresholdSeconds * microsPerSecond < event.eventTimestamp.micros - last.micros ∧
      detection.payload = offlinePayload detector rules.sha1 deviceId storeId
        (event.eventTimestamp.micros - last.micros) event := by
  obtain ⟨extracted, _, here, returned⟩ := Call.bind_eq_ok.mp returned
  cases extracted with
  | none =>
      cases returned
      cases member
  | some named =>
      obtain ⟨_, _, _, returned⟩ := Call.bind_eq_ok.mp returned
      obtain ⟨_, _, _, returned⟩ := Call.bind_eq_ok.mp returned
      obtain ⟨recovery, _, recovered, returned⟩ := Call.bind_eq_ok.mp returned
      obtain ⟨threshold, _, lifted, returned⟩ := Call.bind_eq_ok.mp returned
      obtain ⟨known, between, read, returned⟩ := Call.bind_eq_ok.mp returned
      obtain ⟨scanned, _, scanning, last⟩ := Call.bind_eq_ok.mp returned
      cases last
      rcases List.mem_append.mp member with now | afterwards
      · obtain ⟨storeId, payload⟩ := mem_recover recovered now
        rw [payload] at offline
        exact absurd offline online_ne_offline
      · obtain ⟨⟨deviceId, last⟩, isKnown, crossed, storeId, payload⟩ := mem_scan scanning afterwards
        have same : after.detector.lastSeen = between.detector.lastSeen := by
          have kept := @frames_scan ω π detector rules threshold event known between
          rwa [scanning] at kept
        cases read
        refine ⟨deviceId, last, storeId, ?_, ?_, payload⟩
        · exact same ▸ (OrderedDict.get?_eq_some_iff ..).mpr isKnown
        · have inMicros := timedeltaSeconds_ok (Prod.ext_iff.mp lifted).1
          rwa [← inMicros]

end Detections

/-- No event is older than an event of its device that arrived before it. -/
def InOrder (detector : OfflineDetector ω π) (history : List (TelemetryEvent π)) : Prop :=
  history.Pairwise fun earlier later => ∀ deviceId, deviceOf detector earlier = some deviceId →
    deviceOf detector later = some deviceId →
      earlier.eventTimestamp.micros ≤ later.eventTimestamp.micros

/-- In order, the last of a device's events to arrive is its newest. -/
theorem InOrder.le_lastArrival {history : List (TelemetryEvent π)}
    (inOrder : InOrder detector history) {earlier newest : TelemetryEvent π} {deviceId : Uuid}
    (member : earlier ∈ history) (named : deviceOf detector earlier = some deviceId)
    (arrived : lastArrival detector history deviceId = some newest) :
    earlier.eventTimestamp.micros ≤ newest.eventTimestamp.micros := by
  induction history using List.reverseRecOn with
  | nil => cases member
  | append_singleton history last ih =>
      obtain ⟨before, _, across⟩ := List.pairwise_append.mp inOrder
      rw [lastArrival_concat] at arrived
      split at arrived
      · rename_i lastNamed
        cases arrived
        rcases List.mem_append.mp member with old | new
        · exact across earlier old newest (List.mem_singleton_self _) deviceId named lastNamed
        · rw [List.mem_singleton.mp new]
      · rename_i notNamed
        rcases List.mem_append.mp member with old | new
        · exact ih before old arrived
        · rw [List.mem_singleton.mp new] at named
          exact absurd named notNamed

/-- Every device reported offline on the event is one whose every event so far is further back than
the threshold. -/
def ReportsSilence (detector : OfflineDetector ω π) (rules : DetectionRules ω)
    (history : List (TelemetryEvent π)) (running : Running ω) (event : TelemetryEvent π) : Prop :=
  ∀ detections after, observeEvent detector rules event running = (.ok detections, after) →
    ∀ detection ∈ detections, detection.payload.detectionType = detectionTypeDeviceOffline →
      ∀ deviceId, detection.payload.deviceId = some deviceId →
        ∀ earlier ∈ history ++ [event], deviceOf detector earlier = some deviceId →
          detector.thresholdSeconds * microsPerSecond <
            event.eventTimestamp.micros - earlier.eventTimestamp.micros

/-- While no event of a device arrives behind a newer one of its own, only silence is reported. -/
theorem inOrder_reports_silence {history : List (TelemetryEvent π)} {event : TelemetryEvent π}
    {running : Running ω} (reached : Reached detector rules history running)
    (inOrder : InOrder detector (history ++ [event])) :
    ReportsSilence detector rules history running event := by
  intro detections after returned detection member offline deviceId about earlier known named
  obtain ⟨silent, last, storeId, seen, crossed, payload⟩ :=
    mem_observeEvent returned member offline
  have same : silent = deviceId := by
    rw [payload] at about
    exact Option.some.inj about
  subst same
  have next : Reached detector rules (history ++ [event]) after := by
    have observed := reached.observe event
    rwa [returned] at observed
  rw [next.lastSeen] at seen
  obtain ⟨newest, arrived, rfl⟩ := Option.map_eq_some_iff.mp seen
  have notNewer := inOrder.le_lastArrival known named arrived
  omega

section Samples

theorem sampleInstant_inRange (seconds : Nat) (day : seconds < 86400) :
    minMicros ≤ (1780315200 + seconds) * microsPerSecond ∧
      (1780315200 + seconds) * microsPerSecond ≤ maxMicros := by
  simp only [minMicros, maxMicros, microsPerSecond]
  omega

/-- 2026-06-01 12:00:00 UTC and some seconds. -/
def sampleInstant (seconds : Nat) (day : seconds < 86400) : Instant where
  micros := (1780315200 + seconds) * microsPerSecond
  min_le := (sampleInstant_inRange seconds day).1
  le_max := (sampleInstant_inRange seconds day).2

theorem secondOfDay_lt (seconds : Nat) : seconds % 86400 < 86400 := Nat.mod_lt _ (by decide)

def sampleRules : DetectionRules Unit where
  sha1 := Sha1.digest
  now world := (sampleInstant 80000 (by decide), world)
  parseUuid _ := none
  formatReal _ := ""

def sampleDetector : OfflineDetector Unit Uuid where
  thresholdSeconds := 300
  deviceIdExtractor event := .ok (some event.payload)
  storeLookup _ := pure (some "store-1")
  threshold_pos := by decide

def sampleEvent (serial : Nat) (deviceId : Uuid) (seconds : Nat) (day : seconds < 86400) :
    TelemetryEvent Uuid where
  eventId := 0x11111111111141118111111111110000#128 + BitVec.ofNat 128 serial
  eventType := "sip.registration"
  schemaVersion := "v1"
  traceId := 0x22222222222242228222222222220000#128 + BitVec.ofNat 128 serial
  eventTimestamp := .utc (sampleInstant seconds day)
  payload := deviceId

def firstDevice : Uuid := 0x33333333333343338333333333333331#128

def secondDevice : Uuid := 0x33333333333343338333333333333332#128

/-- The detector after these events. -/
def sampleAfter (history : List (TelemetryEvent Uuid)) : Running Unit :=
  history.foldl (fun running event => (observeEvent sampleDetector sampleRules event running).2)
    ⟨.initial, ()⟩

theorem sampleAfter_reached (history : List (TelemetryEvent Uuid)) :
    Reached sampleDetector sampleRules history (sampleAfter history) := by
  induction history using List.reverseRecOn with
  | nil => exact .start ()
  | append_singleton history event ih =>
      rw [sampleAfter, List.foldl_concat]
      exact ih.observe event

def sampleSubjects (history : List (TelemetryEvent Uuid)) (event : TelemetryEvent Uuid) :
    List (String × Option Uuid) :=
  (Call.answered (observeEvent sampleDetector sampleRules event) (sampleAfter history)).map
    fun detection => (detection.payload.detectionType, detection.payload.deviceId)

/-- The first device last reported 400 seconds before the second device does. -/
theorem inOrder_reports_silence_sample :
    sampleSubjects [sampleEvent 1 firstDevice 0 (by decide)]
        (sampleEvent 2 secondDevice 400 (by decide)) =
      [(detectionTypeDeviceOffline, some firstDevice)] ∧
    ReportsSilence sampleDetector sampleRules [sampleEvent 1 firstDevice 0 (by decide)]
      (sampleAfter [sampleEvent 1 firstDevice 0 (by decide)])
      (sampleEvent 2 secondDevice 400 (by decide)) := by
  refine ⟨by decide +kernel, inOrder_reports_silence (sampleAfter_reached _) ?_⟩
  apply List.pairwise_pair.mpr
  intro deviceId _ _
  decide

/-- An event of the first device arrives 1000 seconds late. The second device, heard 100 seconds
after the first device's newest event, has the first device reported offline. -/
theorem late_event_reports_silence :
    ∃ history running event, Reached sampleDetector sampleRules history running ∧
      ¬ ReportsSilence sampleDetector sampleRules history running event := by
  let history := [sampleEvent 1 firstDevice 1000 (by decide), sampleEvent 2 firstDevice 0 (by decide)]
  let event := sampleEvent 3 secondDevice 1100 (by decide)
  refine ⟨history, sampleAfter history, event, sampleAfter_reached history, ?_⟩
  intro sound
  have reported : sampleSubjects history event = [(detectionTypeDeviceOffline, some firstDevice)] := by
    decide +kernel
  have member : (detectionTypeDeviceOffline, some firstDevice) ∈ sampleSubjects history event := by
    rw [reported]
    exact List.mem_singleton_self _
  obtain ⟨detection, listed, subject⟩ := List.mem_map.mp member
  obtain ⟨offline, about⟩ := Prod.mk.inj subject
  obtain ⟨detections, after, returned, listed⟩ := Call.of_mem_answered listed
  have silent := sound detections after returned detection listed offline firstDevice about
    (sampleEvent 1 firstDevice 1000 (by decide)) List.mem_cons_self rfl
  exact absurd silent (by decide)

end Samples

end OfflineDetector

end SignalForge
