import SignalForge.ProductionPipeline
import SignalForge.RealtimePipelineIsolation

/-! The production pipeline on registrations that arrive in order: when a device is offline, and
when the detector reports it. -/

set_option autoImplicit false

namespace SignalForge

namespace DetectionRules

/-- From now on the clock reads no earlier than the instant, and never as late as the end of time. -/
def NotBefore {κ : Type} (rules : DetectionRules κ) (clock : κ) (ingested : Instant) : Prop :=
  ∀ readings, ingested ≤ (rules.now (rules.clockAfter readings clock)).1 ∧
    (rules.now (rules.clockAfter readings clock)).1.micros + BaseEvent.maxClockSkew ≤ maxMicros

/-- What passed the skew check when it was ingested passes it afterwards. -/
theorem NotBefore.timely {κ : Type} {rules : DetectionRules κ} {clock : κ} {ingested : Instant}
    (notBefore : rules.NotBefore clock ingested) {moment : Datetime}
    (checked : BaseEvent.checkClockSkew moment ingested = .ok ()) : rules.Timely clock moment := by
  intro readings
  obtain ⟨later, inRange⟩ := notBefore readings
  have ahead := (BaseEvent.checkClockSkew_eq_ok.mp checked).2
  rw [Instant.le_def] at later
  exact BaseEvent.checkClockSkew_eq_ok.mpr ⟨inRange, by omega⟩

end DetectionRules

namespace OfflineDetector

variable {ω π : Type} {detector : OfflineDetector ω π} {rules : DetectionRules ω}
  {event : TelemetryEvent π} {lookup : Uuid → Option String} {held : ω → Prop}

/-- What an event of a device comes to, whether or not the threshold is a timedelta. With one that
is not, every scan raises, and it is longer than any device can have been silent. -/
theorem Steady.observeDevice_answers (steady : Steady detector rules event lookup held)
    (deviceId : Uuid) {running : Running ω} (here : held running.world)
    (tracked : Tracked running.detector)
    (unconverted : ∀ reason, timedeltaSeconds detector.thresholdSeconds = .error reason →
      running.detector.state.get? deviceId ≠ some .offline ∧
        crossings lookup (detector.thresholdSeconds * microsPerSecond) event
          (running.detector.refresh deviceId event.eventTimestamp) = []) :
    let refreshed := running.detector.refresh deviceId event.eventTimestamp
    let crossed := crossings lookup (detector.thresholdSeconds * microsPerSecond) event refreshed
    let call := observeDevice detector rules event deviceId
    held (call running).2.world ∧ (call running).2.detector.lastSeen = refreshed.lastSeen ∧
      (Call.answered call running).map DetectionEvent.payload =
        onlineReports rules lookup event deviceId (running.detector.state.get? deviceId) ++
          crossed.map (offlineReport detector rules lookup event) ∧
      ∀ other, (call running).2.detector.state.get? other =
        if other ∈ crossed.map Prod.fst then some .offline else refreshed.state.get? other := by
  intro refreshed crossed call
  rcases converted : timedeltaSeconds detector.thresholdSeconds with reason | threshold
  · obtain ⟨notOffline, noneCross⟩ := unconverted reason converted
    have raised : call running = (.error reason, { running with detector := refreshed }) := by
      simp only [call]
      rw [observeDevice, Call.bind_of_ok (Call.read_apply ..), recover, if_neg notOffline,
        converted]
      rfl
    have none : crossed = [] := noneCross
    rw [Call.answered, raised, none, onlineReports, if_neg notOffline]
    refine ⟨here, rfl, rfl, fun other => ?_⟩
    simp only [List.map_nil, List.not_mem_nil, ↓reduceIte]
  · obtain ⟨detections, after, returned, stillHeld, seen, payloads, states⟩ :=
      steady.observeDevice_ok deviceId converted here tracked
    have inMicros := timedeltaSeconds_ok converted
    subst inMicros
    have answer : call running = (.ok detections, after) := returned
    rw [Call.answered, answer]
    exact ⟨stillHeld, seen, payloads, states⟩

end OfflineDetector

namespace ProductionPipeline

open OfflineDetector (DeviceState)

/-- What a run of the pipeline starts from. -/
structure Deployment (κ ρ : Type) where
  settings : PlatformSettings
  rules : DetectionRules κ
  features : FeatureRules (Components κ) ρ
  digits : DecimalDigits
  clock : κ

/-- A registration as the pipeline receives it. -/
abbrev Registration : Type := TelemetryEvent RegistrationPayload

/-- The last of a device's events. -/
def lastEvent (events : List Registration) (deviceId : Uuid) : Option Registration :=
  (events.filter fun event => event.payload.deviceId = deviceId).getLast?

/-- The store of the device's last registration. -/
def lastStore (events : List Registration) (deviceId : Uuid) : Option String :=
  (lastEvent events deviceId).map fun last => last.payload.storeId

def InOrder (events : List Registration) : Prop :=
  events.Pairwise fun earlier later =>
    earlier.eventTimestamp.micros ≤ later.eventTimestamp.micros

/-- What a detection is about: its type, its device and its store. -/
def subject (payload : DetectionEventPayload) : String × Option Uuid × Option String :=
  (payload.detectionType, payload.deviceId, some payload.storeId)

namespace Deployment

variable {κ ρ : Type} (deployment : Deployment κ ρ)

def pipeline : RealtimePipeline (Components κ) RegistrationPayload ρ :=
  build deployment.settings deployment.rules deployment.features deployment.digits

/-- The pipeline after these events, whatever processing each of them came to. -/
def stateAfter (events : List Registration) : RealtimePipeline.State (Components κ) :=
  events.foldl (fun state event => (RealtimePipeline.process deployment.pipeline event state).2)
    (start deployment.settings deployment.clock)

/-- The threshold, in microseconds. -/
def threshold : Int := deployment.settings.offlineThresholdSeconds * microsPerSecond

/-- The detections returned for an event after these; none where processing it raises. -/
def detections (events : List Registration) (event : Registration) : List DetectionEvent :=
  match (RealtimePipeline.process deployment.pipeline event (deployment.stateAfter events)).1 with
  | .ok result => result.detections
  | .error _ => []

def Offline (events : List Registration) (deviceId : Uuid) : Prop :=
  (deployment.stateAfter events).components.detector.state.get? deviceId = some .offline

instance (events : List Registration) (deviceId : Uuid) :
    Decidable (deployment.Offline events deviceId) :=
  inferInstanceAs (Decidable (_ = _))

/-- A registration that validates, with a timestamp in UTC and an id of version 4 or 5, where the
clock has not gone back since it was ingested and no arithmetic on datetimes overflows. -/
structure Valid (clock : κ) (event : Registration) : Prop where
  sip : EventRouter.requestedKey event = sipRegistration
  named : event.payload.storeId ≠ ""
  utc : event.eventTimestamp.offset = 0
  versioned : Detections.isVersion4Or5 event.eventId = true
  ingested : ∃ instant, BaseEvent.checkClockSkew event.eventTimestamp instant = .ok () ∧
    deployment.rules.NotBefore clock instant
  inReach : (start deployment.settings deployment.clock).watermarks.InReach event.eventTimestamp

/-- Every event is valid at the clock it finds. -/
def ValidRun (events : List Registration) : Prop :=
  ∀ before event after, events = before ++ event :: after →
    deployment.Valid (deployment.stateAfter before).components.world.clock event

/-- What holds of the event that follows these. -/
structure Exact (events : List Registration) (event : Registration) : Prop where
  processed : (RealtimePipeline.process deployment.pipeline event).Returns
    (deployment.stateAfter events)
  offline_iff : ∀ deviceId last, lastEvent (events ++ [event]) deviceId = some last →
    (deployment.Offline (events ++ [event]) deviceId ↔
      deployment.threshold < event.eventTimestamp.micros - last.eventTimestamp.micros)
  /-- A recovery of the event's own device, then each device that crosses, once. -/
  reported : ∃ crossed : List Uuid, crossed.Nodup ∧
    (∀ deviceId, deviceId ∈ crossed ↔
      ¬ deployment.Offline events deviceId ∧ deployment.Offline (events ++ [event]) deviceId) ∧
    ((deployment.detections events event).map DetectionEvent.payload).map subject =
      (if deployment.Offline events event.payload.deviceId then
        [(detectionTypeDeviceOnline, some event.payload.deviceId, some event.payload.storeId)]
      else []) ++
      crossed.map fun deviceId =>
        (detectionTypeDeviceOffline, some deviceId, lastStore (events ++ [event]) deviceId)

def ReportsOffline (events : List Registration) (event : Registration) (deviceId : Uuid) : Prop :=
  ∃ detection ∈ deployment.detections events event,
    detection.payload.detectionType = detectionTypeDeviceOffline ∧
      detection.payload.deviceId = some deviceId

end Deployment

theorem lastEvent_concat (events : List Registration) (event : Registration) (deviceId : Uuid) :
    lastEvent (events ++ [event]) deviceId =
      if deviceId = event.payload.deviceId then some event else lastEvent events deviceId := by
  rw [lastEvent, List.filter_append]
  split
  · rename_i own
    rw [List.filter_cons_of_pos (by simpa using own.symm), List.filter_nil, List.getLast?_concat]
  · rename_i other
    rw [List.filter_cons_of_neg (by simpa using Ne.symm other), List.filter_nil, List.append_nil,
      lastEvent]

theorem mem_of_lastEvent {events : List Registration} {deviceId : Uuid} {last : Registration}
    (found : lastEvent events deviceId = some last) : last ∈ events :=
  List.mem_of_mem_filter (List.mem_of_getLast? found)

/-- The timestamp of the newest event, in microseconds. -/
def newest (events : List Registration) : Int :=
  (events.getLast?.map fun event => event.eventTimestamp.micros).getD minMicros

theorem newest_concat (events : List Registration) (event : Registration) :
    newest (events ++ [event]) = event.eventTimestamp.micros := by
  rw [newest, List.getLast?_concat]
  rfl

namespace Deployment

variable {κ ρ : Type} {deployment : Deployment κ ρ}

/-- The state of a device, by its last event. -/
def stateOf (deployment : Deployment κ ρ) (events : List Registration) (last : Registration) :
    DeviceState :=
  if deployment.threshold < newest events - last.eventTimestamp.micros then .offline else .seen

/-- The registry and the detector follow the last event of each device. -/
structure Follows (deployment : Deployment κ ρ) (events : List Registration)
    (state : RealtimePipeline.State (Components κ)) : Prop where
  consistent : DeviceRegistry.Consistent state.components.world.registry
  lateness : state.watermarks.latenessSeconds = deployment.settings.lateEventToleranceSeconds
  inReach : ∀ key, state.watermarks.InReach (state.watermarks.highFor key)
  named : ∀ event ∈ events, event.payload.storeId ≠ ""
  utc : ∀ event ∈ events, event.eventTimestamp.offset = 0
  stores : ∀ deviceId, state.components.world.registry.storeFor deviceId = lastStore events deviceId
  lastSeen : ∀ deviceId, state.components.detector.lastSeen.get? deviceId =
    (lastEvent events deviceId).map TelemetryEvent.eventTimestamp
  states : ∀ deviceId, state.components.detector.state.get? deviceId =
    (lastEvent events deviceId).map (deployment.stateOf events)

theorem follows_start (deployment : Deployment κ ρ) :
    Follows deployment [] (start deployment.settings deployment.clock) where
  consistent := DeviceRegistry.consistent_empty
  lateness := rfl
  inReach _ := Or.inl rfl
  named _ member := by cases member
  utc _ member := by cases member
  stores _ := rfl
  lastSeen _ := rfl
  states _ := rfl

theorem Valid.buildable {clock : κ} {event : Registration} (valid : deployment.Valid clock event) :
    Fleet.Buildable deployment.rules clock event := by
  obtain ⟨instant, checked, notBefore⟩ := valid.ingested
  exact ⟨valid.utc, valid.versioned, notBefore.timely checked⟩

/-- What dispatching a registration leaves behind. -/
theorem registered_spec {components : Components κ}
    (consistent : DeviceRegistry.Consistent components.world.registry) (event : Registration) :
    let after := registered event components
    after.detector = components.detector ∧ after.world.clock = components.world.clock ∧
      DeviceRegistry.Consistent after.world.registry ∧
      ∀ deviceId, after.world.registry.storeFor deviceId =
        if deviceId = event.payload.deviceId then some event.payload.storeId
        else components.world.registry.storeFor deviceId := by
  intro after
  obtain ⟨registry, observed, stillConsistent, stores⟩ :=
    DeviceRegistry.observeRegistration_ok consistent event.payload
  have left : after.world.registry = registry := congrArg Prod.snd observed
  exact ⟨rfl, rfl, left ▸ stillConsistent, left ▸ stores⟩

theorem threshold_pos (deployment : Deployment κ ρ) : 0 < deployment.threshold := by
  have positive := deployment.settings.offline_pos
  simp only [threshold, microsPerSecond]
  omega

/-- The devices the event takes offline. -/
def crossed (deployment : Deployment κ ρ) (components : Components κ) (event : Registration) :
    List (Uuid × Datetime) :=
  OfflineDetector.crossings (registered event components).world.registry.storeFor
    deployment.threshold event
    (components.detector.refresh event.payload.deviceId event.eventTimestamp)

/-- What the detector answers to an event, and what it leaves behind. -/
structure Observed (deployment : Deployment κ ρ) (components : Components κ) (event : Registration)
    (detections : List DetectionEvent) (after : Components κ) : Prop where
  registry : after.world.registry = (registered event components).world.registry
  lastSeen : after.detector.lastSeen =
    components.detector.lastSeen.set event.payload.deviceId event.eventTimestamp
  payloads : detections.map DetectionEvent.payload =
    OfflineDetector.onlineReports (Fleet.rules deployment.rules)
        (registered event components).world.registry.storeFor event event.payload.deviceId
        (components.detector.state.get? event.payload.deviceId) ++
      (crossed deployment components event).map
        (OfflineDetector.offlineReport (offlineDetector deployment.settings)
          (Fleet.rules deployment.rules)
          (registered event components).world.registry.storeFor event)
  states : ∀ deviceId, after.detector.state.get? deviceId =
    if deviceId ∈ (crossed deployment components event).map Prod.fst then some .offline
    else (components.detector.state.set event.payload.deviceId .seen).get? deviceId

namespace Follows

variable {events : List Registration} {event : Registration}
  {state : RealtimePipeline.State (Components κ)}

theorem tracked (follows : Follows deployment events state) :
    OfflineDetector.Tracked state.components.detector := by
  intro deviceId
  rw [follows.lastSeen, follows.states, Option.isSome_map, Option.isSome_map]

theorem inReach_iff (follows : Follows deployment events state) (moment : Datetime) :
    state.watermarks.InReach moment ↔
      (start deployment.settings deployment.clock).watermarks.InReach moment := by
  simp only [WatermarkManager.InReach, WatermarkManager.lateness, follows.lateness, start]

theorem observable (follows : Follows deployment events state)
    (valid : deployment.Valid state.components.world.clock event) :
    state.watermarks.Observable event.payload.storeId event.eventTimestamp :=
  ⟨follows.inReach _, Or.inr ((follows.inReach_iff _).mpr valid.inReach)⟩

/-- The stores once the event is registered are those of the last registrations. -/
theorem stores_registered (follows : Follows deployment events state) (deviceId : Uuid) :
    (registered event state.components).world.registry.storeFor deviceId =
      lastStore (events ++ [event]) deviceId := by
  obtain ⟨_, _, _, stores⟩ := registered_spec follows.consistent event
  rw [stores, lastStore, lastEvent_concat, follows.stores, lastStore]
  split <;> rfl

/-- A device crosses when it was seen before the event, and its last event is further back than the
threshold. -/
theorem mem_crossed (follows : Follows deployment events state) {deviceId : Uuid} :
    deviceId ∈ (crossed deployment state.components event).map Prod.fst ↔
      deviceId ≠ event.payload.deviceId ∧ ∃ last, lastEvent events deviceId = some last ∧
        deployment.stateOf events last = .seen ∧
        deployment.threshold < event.eventTimestamp.micros - last.eventTimestamp.micros := by
  constructor
  · intro member
    obtain ⟨⟨_, moment⟩, crosses, rfl⟩ := List.mem_map.mp member
    have other := OfflineDetector.crossings_refresh_ne (threshold_pos deployment) crosses
    obtain ⟨seenAt, seen, gap, _⟩ := OfflineDetector.mem_crossings.mp crosses
    simp only [OfflineDetector.State.refresh, OrderedDict.get?_set, other, ↓reduceIte,
      follows.lastSeen, follows.states] at seenAt seen
    obtain ⟨last, found, rfl⟩ := Option.map_eq_some_iff.mp seenAt
    rw [found] at seen
    exact ⟨other, last, found, Option.some.inj seen, gap⟩
  · rintro ⟨other, last, found, seen, gap⟩
    refine List.mem_map.mpr ⟨(deviceId, last.eventTimestamp), ?_, rfl⟩
    refine OfflineDetector.mem_crossings.mpr ⟨?_, ?_, gap, ?_⟩
    · rw [OfflineDetector.State.refresh, OrderedDict.get?_set_of_ne _ _ other, follows.lastSeen,
        found, Option.map_some]
    · rw [OfflineDetector.State.refresh, OrderedDict.get?_set_of_ne _ _ other, follows.states,
        found, Option.map_some, seen]
    · have store : (registered event state.components).world.registry.storeFor deviceId =
          some last.payload.storeId := by
        rw [follows.stores_registered, lastStore, lastEvent_concat, if_neg other, found,
          Option.map_some]
      have named := follows.named last (mem_of_lastEvent found)
      rw [OfflineDetector.registered_eq_some.mpr ⟨store, named⟩]
      rfl

/-- A threshold that is no timedelta is longer than the events are apart. -/
theorem unconverted (follows : Follows deployment events state)
    (utc : event.eventTimestamp.offset = 0) {reason : Raised}
    (failed : timedeltaSeconds deployment.settings.offlineThresholdSeconds = .error reason) :
    (∀ deviceId, state.components.detector.state.get? deviceId ≠ some .offline) ∧
      crossed deployment state.components event = [] := by
  have instantOf : ∀ moment : Datetime, moment.offset = 0 →
      ∃ instant : Instant, instant.micros = moment.micros := by
    intro moment atUtc
    refine ⟨⟨moment.wall, moment.min_le_wall, moment.wall_le_max⟩, ?_⟩
    rw [Datetime.micros, atUtc, Int.sub_zero]
  have near : ∀ last ∈ events, ∀ instant : Instant,
      instant.micros - last.eventTimestamp.micros < deployment.threshold := by
    intro last member instant
    obtain ⟨earlier, same⟩ := instantOf _ (follows.utc last member)
    rw [← same]
    exact apart_of_timedeltaSeconds_error deployment.settings.offline_pos failed earlier instant
  constructor
  · intro deviceId offline
    rw [follows.states] at offline
    obtain ⟨last, found, silent⟩ := Option.map_eq_some_iff.mp offline
    have atNewest : ∃ instant : Instant, instant.micros = newest events := by
      rw [newest]
      cases ends : events.getLast? with
      | none => exact ⟨.baseline, rfl⟩
      | some event => exact instantOf _ (follows.utc event (List.mem_of_getLast? ends))
    obtain ⟨instant, same⟩ := atNewest
    have close := near last (mem_of_lastEvent found) instant
    rw [stateOf, if_neg (by omega)] at silent
    cases silent
  · rw [List.eq_nil_iff_forall_not_mem]
    intro entry crosses
    obtain ⟨_, last, found, _, gap⟩ := follows.mem_crossed.mp (List.mem_map_of_mem crosses)
    obtain ⟨instant, same⟩ := instantOf _ utc
    have close := near last (mem_of_lastEvent found) instant
    omega

theorem observed (follows : Follows deployment events state)
    (valid : deployment.Valid state.components.world.clock event) :
    Observed deployment state.components event
      (Call.answered
        ((offlineDetector deployment.settings).observeEvent (Fleet.rules deployment.rules) event)
        (registered event state.components))
      ((offlineDetector deployment.settings).observeEvent (Fleet.rules deployment.rules) event
        (registered event state.components)).2 := by
  obtain ⟨_, sameClock, _, _⟩ := registered_spec follows.consistent event
  have looksUp : Fleet.LooksUp (offlineDetector deployment.settings :
      OfflineDetector (Fleet κ) RegistrationPayload) := Fleet.offlineDetector_looksUp _ _ _
  have buildable : Fleet.Buildable deployment.rules
      (registered event state.components).world.clock event := sameClock ▸ valid.buildable
  have tracked : OfflineDetector.Tracked (registered event state.components).detector :=
    follows.tracked
  obtain ⟨⟨registry, _⟩, lastSeen, payloads, states⟩ :=
    (buildable.steady looksUp).observeDevice_answers event.payload.deviceId
      ⟨rfl, 0, rfl⟩ tracked fun reason failed => by
        obtain ⟨notOffline, noneCross⟩ := follows.unconverted valid.utc failed
        exact ⟨notOffline _, noneCross⟩
  exact ⟨registry, lastSeen, payloads, states⟩

/-- A watermark observation keeps every high within reach. -/
theorem inReach_observe (follows : Follows deployment events state)
    (valid : deployment.Valid state.components.world.clock event) :
    let after := (WatermarkManager.observe event.payload.storeId event.eventTimestamp
      state.watermarks).2
    after.latenessSeconds = deployment.settings.lateEventToleranceSeconds ∧
      ∀ key, after.InReach (after.highFor key) := by
  intro after
  obtain ⟨observation, final, returned⟩ :=
    (WatermarkManager.observe_returns_iff valid.named).mpr (follows.observable valid)
  have left : after = final := congrArg Prod.snd returned
  obtain ⟨_, observed⟩ := WatermarkManager.observe_ok returned
  rw [left]
  have lateness : final.latenessSeconds = state.watermarks.latenessSeconds := by
    rw [observed.stored]
  refine ⟨lateness.trans follows.lateness, fun key => ?_⟩
  rw [WatermarkManager.InReach, observed.lateness, ← WatermarkManager.InReach, observed.highFor]
  split
  · rw [Timestamp.later]
    split
    · exact (follows.inReach_iff _).mpr valid.inReach
    · exact follows.inReach _
  · exact follows.inReach key

/-- The event settles the state of every device by its last event. -/
theorem states_observed (follows : Follows deployment events state)
    (newer : newest events ≤ event.eventTimestamp.micros) {detections : List DetectionEvent}
    {after : Components κ}
    (observed : Observed deployment state.components event detections after) (deviceId : Uuid) :
    after.detector.state.get? deviceId =
      (lastEvent (events ++ [event]) deviceId).map (deployment.stateOf (events ++ [event])) := by
  have positive := threshold_pos deployment
  rw [observed.states, lastEvent_concat, OrderedDict.get?_set]
  by_cases own : deviceId = event.payload.deviceId
  · have stays : deviceId ∉ (crossed deployment state.components event).map Prod.fst :=
      fun crosses => (follows.mem_crossed.mp crosses).1 own
    rw [if_neg stays, if_pos own, if_pos own, Option.map_some, stateOf, newest_concat, Int.sub_self,
      if_neg (by omega)]
  · rw [if_neg own, if_neg own, follows.states]
    have crosses : deviceId ∈ (crossed deployment state.components event).map Prod.fst ↔ _ :=
      follows.mem_crossed
    cases found : lastEvent events deviceId with
    | none =>
        have stays : deviceId ∉ (crossed deployment state.components event).map Prod.fst := by
          rw [crosses, found]
          rintro ⟨_, _, absent, _⟩
          cases absent
        rw [if_neg stays]
        rfl
    | some last =>
        simp only [ne_eq, own, not_false_eq_true, true_and, found, Option.some.injEq,
          exists_eq_left'] at crosses
        rw [Option.map_some, Option.map_some]
        split
        · rename_i gone
          have gap := (crosses.mp gone).2
          rw [stateOf, newest_concat, if_pos gap]
        · rename_i stays
          rw [crosses, stateOf] at stays
          rw [stateOf, stateOf, newest_concat]
          by_cases before : deployment.threshold < newest events - last.eventTimestamp.micros
          · rw [if_pos before, if_pos (by omega)]
          · rw [if_neg before] at stays ⊢
            rw [if_neg fun gap => stays ⟨rfl, gap⟩]

/-- A valid event no older than those before it is processed, and the state follows on. -/
theorem process (follows : Follows deployment events state)
    (valid : deployment.Valid state.components.world.clock event)
    (newer : newest events ≤ event.eventTimestamp.micros) :
    ∃ result after, RealtimePipeline.process deployment.pipeline event state = (.ok result, after) ∧
      Follows deployment (events ++ [event]) after ∧
      Observed deployment state.components event result.detections after.components := by
  obtain ⟨result, processed, detections⟩ := process_ok deployment.settings deployment.rules
    deployment.features deployment.digits valid.sip valid.named follows.consistent
    (follows.observable valid)
  have observed := follows.observed valid
  rw [← detections] at observed
  obtain ⟨lateness, inReach⟩ := follows.inReach_observe valid
  obtain ⟨_, _, consistent, _⟩ := registered_spec follows.consistent event
  refine ⟨result, _, processed, ?_, observed⟩
  exact {
    consistent := observed.registry ▸ consistent
    lateness := lateness
    inReach := inReach
    named := List.forall_mem_append.mpr
      ⟨follows.named, List.forall_mem_singleton.mpr valid.named⟩
    utc := List.forall_mem_append.mpr ⟨follows.utc, List.forall_mem_singleton.mpr valid.utc⟩
    stores := fun deviceId => by
      rw [← follows.stores_registered]
      exact congrArg (·.storeFor deviceId) observed.registry
    lastSeen := fun deviceId => by
      rw [observed.lastSeen, lastEvent_concat, OrderedDict.get?_set, follows.lastSeen]
      split <;> rfl
    states := follows.states_observed newer observed }

/-- The subjects of the detections: the event's own device, if it was offline, and the devices that
cross, each at the store of its last registration. -/
theorem subjects (follows : Follows deployment events state) (named : event.payload.storeId ≠ "")
    {detections : List DetectionEvent} {after : Components κ}
    (observed : Observed deployment state.components event detections after) :
    (detections.map DetectionEvent.payload).map subject =
      (if state.components.detector.state.get? event.payload.deviceId = some .offline then
        [(detectionTypeDeviceOnline, some event.payload.deviceId, some event.payload.storeId)]
      else []) ++
      ((crossed deployment state.components event).map Prod.fst).map fun deviceId =>
        (detectionTypeDeviceOffline, some deviceId, lastStore (events ++ [event]) deviceId) := by
  have ownStore : (registered event state.components).world.registry.storeFor
      event.payload.deviceId = some event.payload.storeId := by
    rw [follows.stores_registered, lastStore, lastEvent_concat, if_pos rfl, Option.map_some]
  rw [observed.payloads, List.map_append, List.map_map, List.map_map]
  congr 1
  · rw [OfflineDetector.onlineReports, OfflineDetector.registered_eq_some.mpr ⟨ownStore, named⟩]
    split <;> rfl
  · refine List.map_congr_left fun entry crosses => ?_
    obtain ⟨_, _, _, isRegistered⟩ := OfflineDetector.mem_crossings.mp crosses
    obtain ⟨storeId, found⟩ := Option.isSome_iff_exists.mp isRegistered
    have store := (OfflineDetector.registered_eq_some.mp found).1
    rw [follows.stores_registered] at store
    simp only [Function.comp_apply, subject, OfflineDetector.offlineReport,
      OfflineDetector.offlinePayload, found, Option.getD_some, store]

end Follows

section Run

variable {events : List Registration}

theorem stateAfter_concat (deployment : Deployment κ ρ) (events : List Registration)
    (event : Registration) :
    deployment.stateAfter (events ++ [event]) =
      (RealtimePipeline.process deployment.pipeline event (deployment.stateAfter events)).2 :=
  List.foldl_concat ..

theorem ValidRun.prefixed {front back : List Registration}
    (valid : deployment.ValidRun (front ++ back)) : deployment.ValidRun front := by
  intro before event after split
  exact valid before event (after ++ back) (by rw [split, List.append_assoc]; rfl)

theorem newest_le {front back : List Registration} {event : Registration}
    (inOrder : InOrder (front ++ event :: back)) (utc : event.eventTimestamp.offset = 0) :
    newest front ≤ event.eventTimestamp.micros := by
  rw [newest]
  cases ends : front.getLast? with
  | none =>
      have lower := event.eventTimestamp.min_le_wall
      rw [Datetime.micros, utc, Int.sub_zero]
      exact lower
  | some last =>
      exact (List.pairwise_append.mp inOrder).2.2 last (List.mem_of_getLast? ends) event
        List.mem_cons_self

theorem follows_run (valid : deployment.ValidRun events) (inOrder : InOrder events) :
    Follows deployment events (deployment.stateAfter events) := by
  induction events using List.reverseRecOn with
  | nil => exact follows_start deployment
  | append_singleton events event ih =>
      have follows := ih valid.prefixed (List.pairwise_append.mp inOrder).1
      have here := valid events event [] rfl
      obtain ⟨result, after, processed, next, _⟩ := follows.process here (newest_le inOrder here.utc)
      rw [stateAfter_concat, processed]
      exact next

theorem Follows.offline_iff (follows : Follows deployment events (deployment.stateAfter events))
    {deviceId : Uuid} {last : Registration} (found : lastEvent events deviceId = some last) :
    deployment.Offline events deviceId ↔
      deployment.threshold < newest events - last.eventTimestamp.micros := by
  rw [Offline, follows.states, found, Option.map_some, Option.some.injEq, stateOf]
  split
  · rename_i silent
    exact ⟨fun _ => silent, fun _ => rfl⟩
  · rename_i heard
    simp only [reduceCtorEq, heard]

theorem le_newest (inOrder : InOrder events) {member : Registration} (listed : member ∈ events) :
    member.eventTimestamp.micros ≤ newest events := by
  cases events using List.reverseRecOn with
  | nil => cases listed
  | append_singleton front last =>
      rw [newest_concat]
      rcases List.mem_append.mp listed with before | same
      · exact (List.pairwise_append.mp inOrder).2.2 member before last (List.mem_singleton_self _)
      · exact (congrArg (·.eventTimestamp.micros) (List.mem_singleton.mp same)).le

theorem lastEvent_append {front back : List Registration} {deviceId : Uuid}
    (absent : ∀ event ∈ back, event.payload.deviceId ≠ deviceId) :
    lastEvent (front ++ back) deviceId = lastEvent front deviceId := by
  have none : back.filter (fun event => event.payload.deviceId = deviceId) = [] :=
    List.filter_eq_nil_iff.mpr fun event member => by simpa using absent event member
  rw [lastEvent, List.filter_append, none, List.append_nil, lastEvent]

theorem exact_of_follows {event : Registration}
    (follows : Follows deployment events (deployment.stateAfter events))
    (valid : deployment.Valid (deployment.stateAfter events).components.world.clock event)
    (newer : newest events ≤ event.eventTimestamp.micros) : deployment.Exact events event := by
  obtain ⟨result, after, processed, next, observed⟩ := follows.process valid newer
  have reached : deployment.stateAfter (events ++ [event]) = after := by
    rw [stateAfter_concat, processed]
  have returned : deployment.detections events event = result.detections := by
    rw [detections, processed]
  have nextFollows : Follows deployment (events ++ [event])
      (deployment.stateAfter (events ++ [event])) := reached ▸ next
  refine ⟨⟨result, after, processed⟩, ?_, ?_⟩
  · intro deviceId last found
    rw [nextFollows.offline_iff found, newest_concat]
  · let state := deployment.stateAfter events
    refine ⟨(crossed deployment state.components event).map Prod.fst, ?_, ?_, ?_⟩
    · have unique := (state.components.detector.refresh event.payload.deviceId
        event.eventTimestamp).lastSeen.nodup
      exact unique.sublist (List.filter_sublist.map _)
    · intro deviceId
      rw [Offline, Offline, reached, observed.states]
      constructor
      · intro crosses
        obtain ⟨_, last, found, seen, _⟩ := follows.mem_crossed.mp crosses
        rw [if_pos crosses, follows.states, found, Option.map_some, seen]
        exact ⟨(by simp only [Option.some.injEq, reduceCtorEq, not_false_eq_true]), rfl⟩
      · rintro ⟨notBefore, offline⟩
        split at offline
        · assumption
        · rw [OrderedDict.get?_set] at offline
          split at offline
          · cases offline
          · exact absurd offline notBefore
    · rw [returned]
      exact follows.subjects valid.named observed

/-- A device reported offline was not offline before the event, and is after it. -/
theorem Exact.of_reportsOffline {event : Registration} (exact : deployment.Exact events event)
    {deviceId : Uuid} (reports : deployment.ReportsOffline events event deviceId) :
    ¬ deployment.Offline events deviceId ∧ deployment.Offline (events ++ [event]) deviceId := by
  obtain ⟨detection, listed, offline, about⟩ := reports
  obtain ⟨crossed, _, crosses, subjects⟩ := exact.reported
  have member : subject detection.payload ∈
      ((deployment.detections events event).map DetectionEvent.payload).map subject :=
    List.mem_map_of_mem (List.mem_map_of_mem listed)
  rw [subjects] at member
  apply (crosses deviceId).mp
  rcases List.mem_append.mp member with online | member
  · split at online
    · have same := congrArg Prod.fst (List.mem_singleton.mp online)
      rw [subject, offline] at same
      exact absurd same.symm OfflineDetector.online_ne_offline
    · cases online
  · obtain ⟨other, isCrossed, same⟩ := List.mem_map.mp member
    have sameDevice : some other = detection.payload.deviceId := (Prod.mk.inj (Prod.mk.inj same).2).1
    rw [about] at sameDevice
    exact Option.some.inj sameDevice ▸ isCrossed

/-- A device stays offline until an event of its own. -/
theorem Offline.stays {front back : List Registration} {deviceId : Uuid}
    (valid : deployment.ValidRun (front ++ back)) (inOrder : InOrder (front ++ back))
    (offline : deployment.Offline front deviceId)
    (absent : ∀ event ∈ back, event.payload.deviceId ≠ deviceId) :
    deployment.Offline (front ++ back) deviceId := by
  have before := follows_run valid.prefixed (List.pairwise_append.mp inOrder).1
  have known : ∃ last, lastEvent front deviceId = some last := by
    rw [Offline, before.states] at offline
    obtain ⟨last, found, _⟩ := Option.map_eq_some_iff.mp offline
    exact ⟨last, found⟩
  obtain ⟨last, found⟩ := known
  have gap := (before.offline_iff found).mp offline
  have stillLast : lastEvent (front ++ back) deviceId = some last := (lastEvent_append absent).trans found
  refine ((follows_run valid inOrder).offline_iff stillLast).mpr ?_
  have later : newest front ≤ newest (front ++ back) := by
    cases front using List.reverseRecOn with
    | nil => cases found
    | append_singleton init event =>
        rw [newest_concat]
        apply le_newest inOrder
        exact List.mem_append_left _ (List.mem_append_right _ (List.mem_singleton_self _))
  omega

/-- On valid registrations in order, every event leaves exactly the devices offline that have been
silent for longer than the threshold, and reports exactly the devices whose state it changes; no
device is reported offline twice without an event of its own in between. -/
theorem offline_detection_exact (deployment : Deployment κ ρ) (events : List Registration)
    (valid : deployment.ValidRun events) (inOrder : InOrder events) :
    (∀ before event after, events = before ++ event :: after → deployment.Exact before event) ∧
      ∀ before first middle second after deviceId,
        events = before ++ first :: (middle ++ second :: after) →
        deployment.ReportsOffline before first deviceId →
        deployment.ReportsOffline (before ++ first :: middle) second deviceId →
          ∃ own ∈ middle, own.payload.deviceId = deviceId := by
  have exact : ∀ before event after, events = before ++ event :: after →
      deployment.Exact before event := by
    rintro before event after rfl
    have here := valid before event after rfl
    exact exact_of_follows (follows_run valid.prefixed (List.pairwise_append.mp inOrder).1) here
      (newest_le inOrder here.utc)
  refine ⟨exact, ?_⟩
  rintro before first middle second after deviceId split reports again
  by_contra none
  have absent : ∀ event ∈ middle, event.payload.deviceId ≠ deviceId :=
    fun event member own => none ⟨event, member, own⟩
  have offline := ((exact before first _ split).of_reportsOffline reports).2
  have spread : events = (before ++ [first] ++ middle) ++ second :: after := by
    rw [split, List.append_assoc, List.append_assoc]
    rfl
  have stays : deployment.Offline (before ++ [first] ++ middle) deviceId := by
    rw [spread] at valid inOrder
    exact Offline.stays valid.prefixed (List.pairwise_append.mp inOrder).1 offline absent
  rw [List.append_assoc, List.singleton_append] at stays
  exact ((exact (before ++ first :: middle) second after (by
    rw [split, List.append_assoc]
    rfl)).of_reportsOffline again).1 stays

end Run

section Samples

open OfflineDetector (sampleRules sampleInstant secondOfDay_lt firstDevice secondDevice)
open RealtimePipeline (sampleDigits)

def sampleDeployment : Deployment Unit Unit where
  settings := ⟨300, 60, OfflineDetector.sampleDetector.threshold_pos⟩
  rules := sampleRules
  features := ⟨fun components => (.epoch, components), some, fun _ => none, fun _ => 0⟩
  digits := sampleDigits
  clock := ()

def sampleRegistration (serial : Nat) (deviceId : Uuid) (seconds : Nat) : Registration where
  eventId := 0x11111111111141118111111111110000#128 + BitVec.ofNat 128 serial
  eventType := "sip.registration"
  schemaVersion := "v1"
  traceId := 0x22222222222242228222222222220000#128 + BitVec.ofNat 128 serial
  eventTimestamp := .utc (sampleInstant (seconds % 86400) (secondOfDay_lt seconds))
  payload := ⟨deviceId, "store-1"⟩

/-- The second device, 400 seconds after the first, finds it silent; then the first reports again. -/
def sampleRegistrations : List Registration :=
  [sampleRegistration 1 firstDevice 0, sampleRegistration 2 secondDevice 400,
    sampleRegistration 3 firstDevice 500]

theorem sampleRegistrations_valid : sampleDeployment.ValidRun sampleRegistrations := by
  have notLast : (sampleRules.now ()).1.micros + BaseEvent.maxClockSkew ≤ maxMicros := by decide
  have notBefore : sampleDeployment.rules.NotBefore () (sampleRules.now ()).1 :=
    fun _ => ⟨le_rfl, notLast⟩
  intro before event after split
  have member : event ∈ sampleRegistrations := by
    rw [split]
    exact List.mem_append_right before List.mem_cons_self
  simp only [sampleRegistrations, List.mem_cons, List.not_mem_nil, or_false] at member
  rcases member with rfl | rfl | rfl
  all_goals exact ⟨rfl, by decide, rfl, by decide, ⟨_, rfl, notBefore⟩, Or.inr (by decide)⟩

theorem offline_detection_exact_sample :
    (∀ before event after, sampleRegistrations = before ++ event :: after →
        sampleDeployment.Exact before event) ∧
      ∀ before first middle second after deviceId,
        sampleRegistrations = before ++ first :: (middle ++ second :: after) →
        sampleDeployment.ReportsOffline before first deviceId →
        sampleDeployment.ReportsOffline (before ++ first :: middle) second deviceId →
          ∃ own ∈ middle, own.payload.deviceId = deviceId := by
  refine offline_detection_exact sampleDeployment sampleRegistrations sampleRegistrations_valid ?_
  rw [InOrder]
  decide

example : sampleDeployment.Offline (sampleRegistrations.take 2) firstDevice := by decide +kernel

end Samples

end Deployment

end ProductionPipeline

end SignalForge
