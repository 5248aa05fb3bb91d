import SignalForge.OfflineDetectorRun

/-! What the scan can do about one device, and what one event does to the offline detector where the
stores stay as they are while it is processed and every detection can be built. -/

set_option autoImplicit false

namespace SignalForge.OfflineDetector

variable {ω π : Type} {detector : OfflineDetector ω π} {rules : DetectionRules ω}

/-- The world keeps to `held` while the event is processed: the stores are those of `lookup`, and a
detection about the event can be built. -/
structure Steady (detector : OfflineDetector ω π) (rules : DetectionRules ω)
    (event : TelemetryEvent π) (lookup : Uuid → Option String) (held : ω → Prop) : Prop where
  looked : ∀ {world}, held world → ∀ deviceId,
    detector.storeLookup deviceId world = (.ok (lookup deviceId), world)
  kept : ∀ {world}, held world → held (rules.now world).2
  timely : ∀ {world}, held world →
    BaseEvent.checkClockSkew event.eventTimestamp (rules.now world).1 = .ok ()
  utc : event.eventTimestamp.offset = 0
  versioned : Detections.isVersion4Or5 event.eventId = true

/-- A device the scan takes from seen to offline. -/
def crosses (lookup : Uuid → Option String) (threshold : Int) (event : TelemetryEvent π)
    (state : State) (entry : Uuid × Datetime) : Bool :=
  state.state.get? entry.1 = some .seen &&
    threshold < event.eventTimestamp.micros - entry.2.micros &&
      (registered (lookup entry.1)).isSome

/-- What is reported of a device that crosses. -/
def offlineReport (detector : OfflineDetector ω π) (rules : DetectionRules ω)
    (lookup : Uuid → Option String) (event : TelemetryEvent π) (entry : Uuid × Datetime) :
    DetectionEventPayload :=
  offlinePayload detector rules.sha1 entry.1 ((registered (lookup entry.1)).getD "")
    (event.eventTimestamp.micros - entry.2.micros) event

/-- What is reported of the event's own device, by its state before. -/
def onlineReports (rules : DetectionRules ω) (lookup : Uuid → Option String)
    (event : TelemetryEvent π) (deviceId : Uuid) (previous : Option DeviceState) :
    List DetectionEventPayload :=
  if previous = some .offline then
    (registered (lookup deviceId)).toList.map fun storeId =>
      onlinePayload rules.sha1 deviceId storeId event
  else []

variable {event : TelemetryEvent π} {lookup : Uuid → Option String} {held : ω → Prop}

theorem registered_eq_some {store : Option String} {storeId : String} :
    registered store = some storeId ↔ store = some storeId ∧ storeId ≠ "" := by
  rw [registered, Option.filter_eq_some_iff, decide_eq_true_eq]

/-- A detection about the event can be built. -/
structure Reportable (rules : DetectionRules ω) (event : TelemetryEvent π) (world : ω) : Prop where
  utc : event.eventTimestamp.offset = 0
  versioned : Detections.isVersion4Or5 event.eventId = true
  timely : BaseEvent.checkClockSkew event.eventTimestamp (rules.now world).1 = .ok ()

/-- A payload about the event: only the event's own time and id can be refused. -/
structure About (payload : DetectionEventPayload) (event : TelemetryEvent π) : Prop where
  detectionId : Detections.isVersion4Or5 payload.detectionId = true
  dotted : Detections.isDottedName payload.detectionType = true
  detectedAt : payload.detectedAt = event.eventTimestamp
  named : payload.storeId ≠ ""
  sourceEventId : payload.sourceEventId = event.eventId
  worded : payload.thresholdBreached ≠ ""

theorem About.returns {payload : DetectionEventPayload} (about : About payload event) (world : ω) :
    (build rules payload event).Returns world ↔ Reportable rules event world := by
  rw [build, Detections.makeDetection_returns, Detections.refusedFields_eq_nil, about.detectedAt,
    about.sourceEventId]
  constructor
  · rintro ⟨⟨_, _, utc, _, versioned, _⟩, _, timely⟩
    exact ⟨utc, versioned, timely⟩
  · rintro ⟨utc, versioned, timely⟩
    exact ⟨⟨about.detectionId, about.dotted, utc, about.named, versioned, about.worded⟩,
      ⟨_, rfl⟩, timely⟩

theorem About.accepted {payload : DetectionEventPayload} (about : About payload event)
    (utc : event.eventTimestamp.offset = 0)
    (versioned : Detections.isVersion4Or5 event.eventId = true) :
    Detections.refusedFields payload = [] := by
  rw [Detections.refusedFields_eq_nil, about.detectedAt, about.sourceEventId]
  exact ⟨about.detectionId, about.dotted, utc, about.named, versioned, about.worded⟩

theorem offlinePayload_about (detector : OfflineDetector ω π) (sha1 : List UInt8 → BitVec 160)
    (event : TelemetryEvent π) (deviceId : Uuid) {storeId : String} (named : storeId ≠ "")
    (silentFor : Int) :
    About (offlinePayload detector sha1 deviceId storeId silentFor event) event := by
  have worded : "no events for " ++ toString (silentSeconds silentFor) ++ "s (threshold " ++
      toString detector.thresholdSeconds ++ "s)" ≠ "" :=
    fun none => absurd (String.append_eq_empty_iff.mp none).2 (by decide)
  have dotted : Detections.isDottedName detectionTypeDeviceOffline = true := by decide +kernel
  exact ⟨Detections.isVersion4Or5_derive .., dotted, rfl, named, rfl, worded⟩

theorem onlinePayload_about (sha1 : List UInt8 → BitVec 160) (event : TelemetryEvent π)
    (deviceId : Uuid) {storeId : String} (named : storeId ≠ "") :
    About (onlinePayload sha1 deviceId storeId event) event := by
  have worded : "device reporting again after silence" ≠ "" := by decide
  have dotted : Detections.isDottedName detectionTypeDeviceOnline = true := by decide +kernel
  exact ⟨Detections.isVersion4Or5_derive .., dotted, rfl, named, rfl, worded⟩

/-- A device the scan looks up: seen, and silent for longer than the threshold. -/
def silent (threshold : Int) (event : TelemetryEvent π) (state : State)
    (entry : Uuid × Datetime) : Bool :=
  state.state.get? entry.1 = some .seen && threshold < event.eventTimestamp.micros - entry.2.micros

theorem outside_apply {α : Type} (call : Call Raised ω α) (running : Running ω) :
    outside call running =
      ((call running.world).1, { running with world := (call running.world).2 }) := rfl

theorem outside_singleton (call : Call Raised ω DetectionEvent) (running : Running ω) :
    (outside call >>= fun detection => pure [detection]) running =
      ((call running.world).1.map ([·]), { running with world := (call running.world).2 }) := by
  rw [Call.bind_apply, outside_apply]
  rcases call running.world with ⟨_ | detection, after⟩ <;> rfl

/-- What the scan does about one device. -/
inductive Scanned (detector : OfflineDetector ω π) (rules : DetectionRules ω) (threshold : Int)
    (event : TelemetryEvent π) (running : Running ω) (entry : Uuid × Datetime) :
    Except Raised (List DetectionEvent) × Running ω → Prop
  | idle (heard : silent threshold event running.detector entry = false) :
      Scanned detector rules threshold event running entry (.ok [], running)
  | lost {reason : Raised} {between : ω}
      (quiet : silent threshold event running.detector entry = true)
      (failed : detector.storeLookup entry.1 running.world = (.error reason, between)) :
      Scanned detector rules threshold event running entry
        (.error reason, { running with world := between })
  | unregistered {store : Option String} {between : ω}
      (quiet : silent threshold event running.detector entry = true)
      (looked : detector.storeLookup entry.1 running.world = (.ok store, between))
      (nowhere : registered store = none) :
      Scanned detector rules threshold event running entry
        (.ok [], { running with world := between })
  | marked {store : Option String} {storeId : String} {between : ω}
      {payload : DetectionEventPayload}
      (quiet : silent threshold event running.detector entry = true)
      (looked : detector.storeLookup entry.1 running.world = (.ok store, between))
      (found : registered store = some storeId)
      (reported : payload = offlinePayload detector rules.sha1 entry.1 storeId
        (event.eventTimestamp.micros - entry.2.micros) event)
      (about : About payload event) :
      Scanned detector rules threshold event running entry
        (((build rules payload event) between).1.map ([·]),
          ⟨running.detector.markOffline entry.1, ((build rules payload event) between).2⟩)

theorem scanDevice_cases (threshold : Int) (running : Running ω) (entry : Uuid × Datetime)
    (known : (running.detector.state.get? entry.1).isSome) :
    Scanned detector rules threshold event running entry
      (scanDevice detector rules threshold event entry.1 entry.2 running) := by
  obtain ⟨state, found⟩ := Option.isSome_iff_exists.mp known
  rw [scanDevice, Call.bind_of_ok (Call.read_apply ..)]
  simp only [found]
  cases state with
  | offline => exact .idle (by simp [silent, found])
  | seen =>
      simp only
      split
      · rename_i near
        exact .idle (by simp [silent, Int.not_lt.mpr near])
      · rename_i far
        have quiet : silent threshold event running.detector entry = true := by
          simp [silent, found, Int.not_le.mp far]
        rw [scanSilent]
        rcases looked : detector.storeLookup entry.1 running.world with ⟨reason | store, between⟩
        · have failed : outside (detector.storeLookup entry.1) running =
              (.error reason, { running with world := between }) := by
            rw [outside_apply, looked]
          rw [Call.bind_of_error failed]
          exact .lost quiet looked
        · have returned : outside (detector.storeLookup entry.1) running =
              (.ok store, { running with world := between }) := by
            rw [outside_apply, looked]
          rw [Call.bind_of_ok returned]
          cases store' : registered store with
          | none => exact .unregistered quiet looked store'
          | some storeId =>
              have about := offlinePayload_about detector rules.sha1 event entry.1
                (registered_eq_some.mp store').2
                (event.eventTimestamp.micros - entry.2.micros)
              show Scanned detector rules threshold event running entry
                ((outside (build rules (offlinePayload detector rules.sha1 entry.1 storeId
                    (event.eventTimestamp.micros - entry.2.micros) event) event) >>=
                  fun detection => pure [detection]) ⟨running.detector.markOffline entry.1, between⟩)
              rw [outside_singleton]
              exact .marked quiet looked store' rfl about

namespace Steady

theorem build_ok (steady : Steady detector rules event lookup held)
    {payload : DetectionEventPayload} (accepted : Detections.refusedFields payload = [])
    {running : Running ω} (here : held running.world) :
    ∃ detection world, outside (build rules payload event) running =
        (.ok detection, { running with world }) ∧
      held world ∧ detection.payload = payload := by
  obtain ⟨detection, world, made⟩ := Detections.makeDetection_returns.mpr
    ⟨accepted, ⟨_, rfl⟩, steady.timely here⟩
  obtain ⟨same, _, after⟩ := Detections.makeDetection_ok made
  refine ⟨detection, world, ?_, after ▸ steady.kept here, same⟩
  exact Call.zoom_eq_ok.mpr ⟨world, made, rfl⟩

theorem lookup_ok (steady : Steady detector rules event lookup held) {running : Running ω}
    (here : held running.world) (deviceId : Uuid) :
    outside (detector.storeLookup deviceId) running = (.ok (lookup deviceId), running) :=
  Call.zoom_eq_ok.mpr ⟨running.world, steady.looked here deviceId, rfl⟩

theorem recover_ok (steady : Steady detector rules event lookup held) (deviceId : Uuid)
    (previous : Option DeviceState) {running : Running ω} (here : held running.world) :
    ∃ detections world, recover detector rules deviceId previous event running =
        (.ok detections, { running with world }) ∧
      held world ∧
      detections.map DetectionEvent.payload = onlineReports rules lookup event deviceId previous := by
  rw [recover, onlineReports]
  split
  · rw [Call.bind_of_ok (steady.lookup_ok here deviceId)]
    cases found : registered (lookup deviceId) with
    | none => exact ⟨[], running.world, rfl, here, rfl⟩
    | some storeId =>
        obtain ⟨detection, world, built, kept, payload⟩ :=
          steady.build_ok ((onlinePayload_about rules.sha1 event deviceId
            (registered_eq_some.mp found).2).accepted steady.utc steady.versioned) here
        refine ⟨[detection], world, Call.bind_of_ok built _, kept, ?_⟩
        simp only [List.map_cons, List.map_nil, payload, Option.toList_some]
  · exact ⟨[], running.world, rfl, here, rfl⟩

theorem scanDevice_ok (steady : Steady detector rules event lookup held) (threshold : Int)
    (entry : Uuid × Datetime) {running : Running ω} (here : held running.world)
    (known : (running.detector.state.get? entry.1).isSome) :
    ∃ detections after, scanDevice detector rules threshold event entry.1 entry.2 running =
        (.ok detections, after) ∧
      held after.world ∧ after.detector.lastSeen = running.detector.lastSeen ∧
      if crosses lookup threshold event running.detector entry then
        detections.map DetectionEvent.payload = [offlineReport detector rules lookup event entry] ∧
          after.detector = running.detector.markOffline entry.1
      else detections = [] ∧ after.detector = running.detector := by
  have crossing : crosses lookup threshold event running.detector entry =
      (silent threshold event running.detector entry && (registered (lookup entry.1)).isSome) := rfl
  have scanned : Scanned detector rules threshold event running entry _ :=
    scanDevice_cases threshold running entry known
  rw [crossing]
  generalize scanDevice detector rules threshold event entry.1 entry.2 running = result at scanned ⊢
  have steadyStore := steady.looked here entry.1
  cases scanned with
  | idle heard => exact ⟨[], running, rfl, here, rfl, by simp [heard]⟩
  | lost quiet failed =>
      rw [steadyStore] at failed
      cases failed
  | unregistered quiet looked nowhere =>
      rw [steadyStore] at looked
      cases looked
      exact ⟨[], running, rfl, here, rfl, by simp [nowhere]⟩
  | @marked store storeId between payload quiet looked found reported about =>
      rw [steadyStore] at looked
      cases looked
      have built : (build rules payload event).Returns running.world :=
        (about.returns running.world).mpr ⟨steady.utc, steady.versioned, steady.timely here⟩
      obtain ⟨detection, world, made⟩ := built
      obtain ⟨same, _, after⟩ := Detections.makeDetection_ok made
      rw [made]
      refine ⟨[detection], _, rfl, after ▸ steady.kept here, rfl, ?_⟩
      simp [quiet, found, same, reported, offlineReport]

/-- The scan reports the devices that cross, in the order in which they were first seen, and takes
them offline. -/
theorem scan_ok (steady : Steady detector rules event lookup held) (threshold : Int)
    (entries : List (Uuid × Datetime)) (distinct : (entries.map Prod.fst).Nodup)
    {running : Running ω} (here : held running.world)
    (known : ∀ entry ∈ entries, (running.detector.state.get? entry.1).isSome) :
    ∃ detections after, scan detector rules threshold event entries running =
        (.ok detections, after) ∧
      held after.world ∧ after.detector.lastSeen = running.detector.lastSeen ∧
      detections.map DetectionEvent.payload =
        (entries.filter (crosses lookup threshold event running.detector)).map
          (offlineReport detector rules lookup event) ∧
      ∀ deviceId, after.detector.state.get? deviceId =
        if deviceId ∈
            (entries.filter (crosses lookup threshold event running.detector)).map Prod.fst then
          some .offline
        else running.detector.state.get? deviceId := by
  induction entries generalizing running with
  | nil => exact ⟨[], running, rfl, here, rfl, rfl, fun _ => by simp⟩
  | cons entry rest ih =>
      obtain ⟨apart, distinct⟩ := List.nodup_cons.mp distinct
      obtain ⟨first, between, firstReturned, firstHeld, firstSeen, decided⟩ :=
        steady.scanDevice_ok threshold entry here (known entry List.mem_cons_self)
      have frame : ∀ deviceId, deviceId ≠ entry.1 →
          between.detector.state.get? deviceId = running.detector.state.get? deviceId := by
        intro deviceId different
        split at decided
        · rw [decided.2]
          exact OrderedDict.get?_set_of_ne _ _ different
        · rw [decided.2]
      have elsewhere : ∀ other ∈ rest, other.1 ≠ entry.1 :=
        fun other member same => apart (same ▸ List.mem_map_of_mem member)
      have sameCrossings : rest.filter (crosses lookup threshold event between.detector) =
          rest.filter (crosses lookup threshold event running.detector) := by
        apply List.filter_congr
        intro other member
        rw [crosses, crosses, frame _ (elsewhere other member)]
      obtain ⟨later, after, laterReturned, laterHeld, laterSeen, payloads, states⟩ :=
        ih distinct firstHeld fun other member => by
          rw [frame _ (elsewhere other member)]
          exact known other (List.mem_cons_of_mem _ member)
      refine ⟨first ++ later, after, ?_, laterHeld, laterSeen.trans firstSeen, ?_, ?_⟩
      · rw [scan, Call.bind_of_ok firstReturned, Call.bind_of_ok laterReturned]
        rfl
      · rw [List.map_append, payloads, sameCrossings]
        split at decided
        · rename_i crossed
          rw [List.filter_cons_of_pos crossed, decided.1]
          rfl
        · rename_i stays
          rw [List.filter_cons_of_neg stays, decided.1]
          rfl
      · intro deviceId
        rw [states, sameCrossings]
        by_cases inRest : deviceId ∈
            (rest.filter (crosses lookup threshold event running.detector)).map Prod.fst
        · rw [if_pos inRest, if_pos]
          obtain ⟨other, listed, rfl⟩ := List.mem_map.mp inRest
          obtain ⟨member, crossed⟩ := List.mem_filter.mp listed
          exact List.mem_map_of_mem
            (List.mem_filter.mpr ⟨List.mem_cons_of_mem _ member, crossed⟩)
        · rw [if_neg inRest]
          split at decided
          · rename_i crossed
            rw [List.filter_cons_of_pos crossed, List.map_cons, decided.2]
            by_cases same : deviceId = entry.1
            · rw [if_pos (same ▸ List.mem_cons_self), same]
              exact OrderedDict.get?_set_self ..
            · rw [if_neg fun member => (List.mem_cons.mp member).elim same inRest]
              exact OrderedDict.get?_set_of_ne _ _ same
          · rename_i stays
            rw [List.filter_cons_of_neg stays, if_neg inRest, decided.2]

end Steady

/-- Every device last seen has a state, and the other way round. -/
def Tracked (state : State) : Prop :=
  ∀ deviceId, (state.lastSeen.get? deviceId).isSome ↔ (state.state.get? deviceId).isSome

theorem tracked_initial : Tracked State.initial := fun _ => Iff.rfl

theorem Tracked.refresh {state : State} (tracked : Tracked state) (deviceId : Uuid)
    (moment : Datetime) : Tracked (state.refresh deviceId moment) := by
  intro other
  simp only [State.refresh, OrderedDict.get?_set]
  split
  · exact Iff.rfl
  · exact tracked other

theorem Tracked.known {state : State} (tracked : Tracked state) :
    ∀ entry ∈ state.lastSeen.entries, (state.state.get? entry.1).isSome := by
  intro entry member
  apply (tracked entry.1).mp
  exact Option.isSome_iff_exists.mpr ⟨entry.2, (OrderedDict.get?_eq_some_iff ..).mpr member⟩

/-- The devices the event takes offline. -/
def crossings (lookup : Uuid → Option String) (threshold : Int) (event : TelemetryEvent π)
    (state : State) : List (Uuid × Datetime) :=
  state.lastSeen.entries.filter (crosses lookup threshold event state)

theorem mem_crossings {threshold : Int} {state : State} {deviceId : Uuid} {last : Datetime} :
    (deviceId, last) ∈ crossings lookup threshold event state ↔
      state.lastSeen.get? deviceId = some last ∧ state.state.get? deviceId = some .seen ∧
        threshold < event.eventTimestamp.micros - last.micros ∧
          (registered (lookup deviceId)).isSome := by
  rw [crossings, List.mem_filter, OrderedDict.get?_eq_some_iff, crosses, Bool.and_eq_true,
    Bool.and_eq_true, decide_eq_true_eq, decide_eq_true_eq, and_assoc]

/-- The device of the event is no longer silent at its own event. -/
theorem crossings_refresh_ne {threshold : Int} (positive : 0 < threshold) {state : State}
    {deviceId : Uuid} {entry : Uuid × Datetime}
    (member : entry ∈ crossings lookup threshold event
      (state.refresh deviceId event.eventTimestamp)) : entry.1 ≠ deviceId := by
  obtain ⟨crossed, last⟩ := entry
  rintro rfl
  obtain ⟨seen, _, gap, _⟩ := mem_crossings.mp member
  have fresh : event.eventTimestamp = last := by
    simpa only [State.refresh, OrderedDict.get?_set_self, Option.some.injEq] using seen
  rw [fresh] at gap
  omega

namespace Steady

/-- An event of a device: it is seen again, with a recovery if it was offline; then the devices
silent for longer than the threshold are reported and go offline. -/
theorem observeDevice_ok (steady : Steady detector rules event lookup held) (deviceId : Uuid)
    {threshold : Int} (converted : timedeltaSeconds detector.thresholdSeconds = .ok threshold)
    {running : Running ω} (here : held running.world) (tracked : Tracked running.detector) :
    let refreshed := running.detector.refresh deviceId event.eventTimestamp
    ∃ detections after, observeDevice detector rules event deviceId running =
        (.ok detections, after) ∧
      held after.world ∧ after.detector.lastSeen = refreshed.lastSeen ∧
      detections.map DetectionEvent.payload =
        onlineReports rules lookup event deviceId (running.detector.state.get? deviceId) ++
          (crossings lookup threshold event refreshed).map
            (offlineReport detector rules lookup event) ∧
      ∀ other, after.detector.state.get? other =
        if other ∈ (crossings lookup threshold event refreshed).map Prod.fst then some .offline
        else refreshed.state.get? other := by
  intro refreshed
  have refreshing : update (State.refresh deviceId event.eventTimestamp) running =
      (.ok (), { running with detector := refreshed }) := rfl
  have stillHere : held (Running.world { running with detector := refreshed }) := here
  obtain ⟨recovery, world, recovered, recoveredHeld, online⟩ := steady.recover_ok deviceId
    (running.detector.state.get? deviceId) stillHere
  obtain ⟨detections, after, scanned, scannedHeld, seen, offline, states⟩ :=
    steady.scan_ok threshold refreshed.lastSeen.entries refreshed.lastSeen.nodup
      (show held (Running.world ⟨refreshed, world⟩) from recoveredHeld)
      (tracked.refresh deviceId _).known
  refine ⟨recovery ++ detections, after, ?_, scannedHeld, seen, ?_, states⟩
  · rw [observeDevice, Call.bind_of_ok (Call.read_apply ..), Call.bind_of_ok refreshing,
      Call.bind_of_ok recovered, converted, Call.bind_of_ok (Call.lift_apply ..),
      Call.bind_of_ok (Call.read_apply ..), Call.bind_of_ok scanned]
    rfl
  · rw [List.map_append, online, offline]
    rfl

end Steady

end SignalForge.OfflineDetector
