import SignalForge.OfflineDetectorStep

/-! What a call of the offline detector that raises leaves behind. The device of the event is
written first and a silent device is marked before its detection is built, so only a call that
raises before any of these changes leaves the state as it was. -/

set_option autoImplicit false

namespace SignalForge.OfflineDetector

variable {ω π : Type}

def silentDevices (threshold : Int) (event : TelemetryEvent π) (state : State)
    (entries : List (Uuid × Datetime)) : List Uuid :=
  (entries.filter (silent threshold event state)).map Prod.fst

/-- Every lookup of the devices in turn returns, and of each that has a store a detection can be
built. -/
def Reports (detector : OfflineDetector ω π) (rules : DetectionRules ω)
    (event : TelemetryEvent π) : List Uuid → ω → ω → Prop
  | [], world, after => after = world
  | deviceId :: rest, world, after =>
      ∃ store between, detector.storeLookup deviceId world = (.ok store, between) ∧
        match registered store with
        | none => Reports detector rules event rest between after
        | some _ => Reportable rules event between ∧
            Reports detector rules event rest (rules.now between).2 after

/-- A lookup of the devices in turn raises before any of them has a store. -/
def LookupRaises (detector : OfflineDetector ω π) : List Uuid → ω → Prop
  | [], _ => False
  | deviceId :: rest, world =>
      match detector.storeLookup deviceId world with
      | (.error _, _) => True
      | (.ok store, between) => registered store = none ∧ LookupRaises detector rest between

section

variable {detector : OfflineDetector ω π} {rules : DetectionRules ω} {event : TelemetryEvent π}

variable {deviceId : Uuid} {rest : List Uuid} {world between : ω} {store : Option String}

theorem not_reports_cons {reason : Raised}
    (failed : detector.storeLookup deviceId world = (.error reason, between)) (after : ω) :
    ¬ Reports detector rules event (deviceId :: rest) world after := by
  rintro ⟨store, between, looked, _⟩
  rw [failed] at looked
  cases looked

theorem reports_cons_unregistered
    (looked : detector.storeLookup deviceId world = (.ok store, between))
    (nowhere : registered store = none) (after : ω) :
    Reports detector rules event (deviceId :: rest) world after ↔
      Reports detector rules event rest between after := by
  simp only [Reports, looked, Prod.mk.injEq, Except.ok.injEq, exists_eq_left', and_assoc,
    exists_and_left, nowhere]

theorem reports_cons_registered {storeId : String}
    (looked : detector.storeLookup deviceId world = (.ok store, between))
    (found : registered store = some storeId) (after : ω) :
    Reports detector rules event (deviceId :: rest) world after ↔
      Reportable rules event between ∧
        Reports detector rules event rest (rules.now between).2 after := by
  simp only [Reports, looked, Prod.mk.injEq, Except.ok.injEq, exists_eq_left', and_assoc,
    exists_and_left, found]

theorem reports_append (first second : List Uuid) (world after : ω) :
    Reports detector rules event (first ++ second) world after ↔
      ∃ between, Reports detector rules event first world between ∧
        Reports detector rules event second between after := by
  induction first generalizing world with
  | nil => simp only [List.nil_append, Reports, exists_eq_left]
  | cons deviceId rest ih =>
      rw [List.cons_append]
      rcases looked : detector.storeLookup deviceId world with ⟨reason | store, between⟩
      · refine iff_of_false (not_reports_cons looked after) ?_
        exact fun ⟨middle, here, _⟩ => not_reports_cons looked middle here
      · cases found : registered store with
        | none => simp only [reports_cons_unregistered looked found, ih]
        | some storeId => simp only [reports_cons_registered looked found, ih, and_assoc,
            exists_and_left]

theorem silent_congr {threshold : Int} {state state' : State} {entry : Uuid × Datetime}
    (same : state.state.get? entry.1 = state'.state.get? entry.1) :
    silent threshold event state entry = silent threshold event state' entry := by
  unfold silent
  rw [same]

theorem silent_seen {threshold : Int} {state : State} {entry : Uuid × Datetime}
    (quiet : silent threshold event state entry = true) :
    state.state.get? entry.1 = some .seen := by
  unfold silent at quiet
  simp only [Bool.and_eq_true, decide_eq_true_eq] at quiet
  exact quiet.1

theorem Scanned.known {threshold : Int} {running : Running ω} {entry : Uuid × Datetime}
    {result : Except Raised (List DetectionEvent) × Running ω}
    (scanned : Scanned detector rules threshold event running entry result) (deviceId : Uuid) :
    (result.2.detector.state.get? deviceId).isSome ↔
      (running.detector.state.get? deviceId).isSome := by
  cases scanned with
  | idle heard => exact Iff.rfl
  | lost quiet failed => exact Iff.rfl
  | unregistered quiet looked nowhere => exact Iff.rfl
  | marked quiet looked found reported about =>
      simp only [State.markOffline, OrderedDict.get?_set]
      split
      · rename_i same
        rw [same, silent_seen quiet]
        exact Iff.rfl
      · exact Iff.rfl

/-- Scanning one device leaves the others alone. -/
theorem Scanned.frame {threshold : Int} {running : Running ω} {entry : Uuid × Datetime}
    {result : Except Raised (List DetectionEvent) × Running ω}
    (scanned : Scanned detector rules threshold event running entry result) {deviceId : Uuid}
    (apart : deviceId ≠ entry.1 ∨ silent threshold event running.detector entry = false) :
    result.2.detector.state.get? deviceId = running.detector.state.get? deviceId := by
  cases scanned with
  | idle heard => rfl
  | lost quiet failed => rfl
  | unregistered quiet looked nowhere => rfl
  | marked quiet looked found reported about =>
      have different : deviceId ≠ entry.1 := by
        rcases apart with different | heard
        · exact different
        · rw [heard] at quiet
          cases quiet
      exact OrderedDict.get?_set_of_ne _ _ different

/-- The scan of the first device and then of the rest. -/
theorem scan_cons_result (threshold : Int) (entry : Uuid × Datetime)
    (rest : List (Uuid × Datetime)) (running : Running ω) :
    scan detector rules threshold event (entry :: rest) running =
      match scanDevice detector rules threshold event entry.1 entry.2 running with
      | (.error reason, between) => (.error reason, between)
      | (.ok detected, between) =>
          ((scan detector rules threshold event rest between).1.map (detected ++ ·),
            (scan detector rules threshold event rest between).2) := by
  rw [scan, Call.bind_apply]
  rcases scanDevice detector rules threshold event entry.1 entry.2 running with
    ⟨reason | detected, between⟩
  · rfl
  · simp only [Call.bind_apply]
    rcases scan detector rules threshold event rest between with ⟨reason | later, after⟩ <;> rfl

/-- Whether or not it raises, the scan leaves a device alone that is not silent. -/
theorem scan_frame (threshold : Int) (entries : List (Uuid × Datetime)) (running : Running ω)
    (known : ∀ entry ∈ entries, (running.detector.state.get? entry.1).isSome) (deviceId : Uuid)
    (heard : ∀ entry ∈ entries, entry.1 = deviceId →
      silent threshold event running.detector entry = false) :
    (scan detector rules threshold event entries running).2.detector.state.get? deviceId =
      running.detector.state.get? deviceId := by
  induction entries generalizing running with
  | nil => rfl
  | cons entry rest ih =>
      have scanned : Scanned detector rules threshold event running entry _ :=
        scanDevice_cases threshold running entry (known entry List.mem_cons_self)
      have here : (scanDevice detector rules threshold event entry.1 entry.2
          running).2.detector.state.get? deviceId = running.detector.state.get? deviceId := by
        apply scanned.frame
        by_cases same : entry.1 = deviceId
        · exact Or.inr (heard entry List.mem_cons_self same)
        · exact Or.inl fun equal => same equal.symm
      have stillKnown := fun other (member : other ∈ rest) =>
        (scanned.known other.1).mpr (known other (List.mem_cons_of_mem _ member))
      rw [scan_cons_result]
      rcases outcome : scanDevice detector rules threshold event entry.1 entry.2 running with
        ⟨reason | detected, between⟩
      · rw [outcome] at here
        exact here
      · rw [outcome] at here stillKnown
        refine (ih between stillKnown ?_).trans here
        intro other member same
        rw [← heard other (List.mem_cons_of_mem _ member) same]
        exact silent_congr (by rw [same]; exact here)

section Due

variable {threshold : Int} {state state' : State} {entry : Uuid × Datetime}
  {entries : List (Uuid × Datetime)}

theorem silentDevices_cons_of_quiet (quiet : silent threshold event state entry = true) :
    silentDevices threshold event state (entry :: entries) =
      entry.1 :: silentDevices threshold event state entries := by
  unfold silentDevices
  rw [List.filter_cons_of_pos quiet, List.map_cons]

theorem silentDevices_cons_of_heard (heard : silent threshold event state entry = false) :
    silentDevices threshold event state (entry :: entries) =
      silentDevices threshold event state entries := by
  unfold silentDevices
  rw [List.filter_cons_of_neg (by simp [heard])]

theorem silentDevices_congr
    (same : ∀ entry ∈ entries, state.state.get? entry.1 = state'.state.get? entry.1) :
    silentDevices threshold event state entries =
      silentDevices threshold event state' entries := by
  unfold silentDevices
  exact congrArg _ (List.filter_congr fun entry member => silent_congr (same entry member))

end Due

/-- The result of a scan for the devices: it returns exactly when all is reported, and where it
raises, the detector is as it was exactly when a lookup raised before any device had a store. -/
def Accounts (detector : OfflineDetector ω π) (rules : DetectionRules ω)
    (event : TelemetryEvent π) (due : List Uuid) (running : Running ω)
    (result : Except Raised (List DetectionEvent) × Running ω) : Prop :=
  ((∃ detections, result.1 = .ok detections) ↔
    ∃ after, Reports detector rules event due running.world after) ∧
  ∀ reason, result.1 = .error reason →
    (result.2.detector = running.detector ↔ LookupRaises detector due running.world)

/-- A device marked stays offline, whatever the rest of the scan does. -/
theorem accounts_marked {threshold : Int} {entry : Uuid × Datetime}
    {rest : List (Uuid × Datetime)} {running : Running ω} {store : Option String}
    {storeId : String} {between : ω} {payload : DetectionEventPayload}
    (others : ∀ other ∈ rest, other.1 ≠ entry.1)
    (known : ∀ other ∈ rest, (running.detector.state.get? other.1).isSome)
    (quiet : silent threshold event running.detector entry = true)
    (looked : detector.storeLookup entry.1 running.world = (.ok store, between))
    (found : registered store = some storeId) (about : About payload event)
    (marked : scanDevice detector rules threshold event entry.1 entry.2 running =
      (((build rules payload event) between).1.map ([·]),
        ⟨running.detector.markOffline entry.1, ((build rules payload event) between).2⟩))
    (later : ∀ after, Accounts detector rules event
      (silentDevices threshold event running.detector rest)
      ⟨running.detector.markOffline entry.1, after⟩
      (scan detector rules threshold event rest ⟨running.detector.markOffline entry.1, after⟩)) :
    Accounts detector rules event
      (entry.1 :: silentDevices threshold event running.detector rest) running
      (scan detector rules threshold event (entry :: rest) running) := by
  have offline : (running.detector.markOffline entry.1).state.get? entry.1 = some .offline :=
    OrderedDict.get?_set_self ..
  have changed : ∀ after : State, after.state.get? entry.1 = some .offline →
      after ≠ running.detector := by
    intro after marked same
    rw [same, silent_seen quiet] at marked
    cases marked
  have stays : ¬ LookupRaises detector (entry.1 ::
      silentDevices threshold event running.detector rest) running.world := by
    simp only [LookupRaises, looked, found, reduceCtorEq, false_and, not_false_eq_true]
  have built : (build rules payload event).Returns between ↔ _ := about.returns between
  rw [scan_cons_result, marked]
  simp only [Accounts, reports_cons_registered looked found]
  rcases outcome : build rules payload event between with ⟨reason | detection, after⟩
  · refine ⟨iff_of_false (fun ⟨_, returned⟩ => by cases returned) ?_, ?_⟩
    · rintro ⟨_, reportable, _⟩
      obtain ⟨detection, after, returned⟩ := built.mpr reportable
      rw [outcome] at returned
      cases returned
    · intro _ _
      exact iff_of_false (changed _ offline) stays
  · have reportable := built.mp ⟨detection, after, outcome⟩
    have moved : after = (rules.now between).2 := (Detections.makeDetection_ok outcome).2.2
    have single : (Except.ok detection : Except Raised DetectionEvent).map ([·]) =
        .ok [detection] := rfl
    have stillKnown : ∀ other ∈ rest,
        ((running.detector.markOffline entry.1).state.get? other.1).isSome := by
      intro other member
      rw [State.markOffline, OrderedDict.get?_set_of_ne _ _ (others other member)]
      exact known other member
    simp only [single, Except.map_returns, Except.map_raises, reportable, true_and, ← moved]
    refine ⟨(later after).1, fun reason failed => iff_of_false ?_ stays⟩
    apply changed
    rw [scan_frame threshold rest _ stillKnown entry.1
      fun other member same => (others other member same).elim]
    exact offline

theorem scan_accounts (threshold : Int) (entries : List (Uuid × Datetime))
    (distinct : (entries.map Prod.fst).Nodup) (running : Running ω)
    (known : ∀ entry ∈ entries, (running.detector.state.get? entry.1).isSome) :
    Accounts detector rules event (silentDevices threshold event running.detector entries) running
      (scan detector rules threshold event entries running) := by
  induction entries generalizing running with
  | nil =>
      refine ⟨iff_of_true ⟨[], rfl⟩ ⟨running.world, rfl⟩, ?_⟩
      intro reason failed
      cases failed
  | cons entry rest ih =>
      obtain ⟨apart, distinct⟩ := List.nodup_cons.mp distinct
      have others : ∀ other ∈ rest, other.1 ≠ entry.1 :=
        fun other member same => apart (same ▸ List.mem_map_of_mem member)
      have knownLater := fun other (member : other ∈ rest) =>
        known other (List.mem_cons_of_mem _ member)
      have scanned : Scanned detector rules threshold event running entry _ :=
        scanDevice_cases threshold running entry (known entry List.mem_cons_self)
      generalize here : scanDevice detector rules threshold event entry.1 entry.2 running = outcome
        at scanned
      cases scanned with
      | idle heard =>
          rw [scan_cons_result, here, silentDevices_cons_of_heard heard]
          simp only [Accounts, Except.map_returns, Except.map_raises]
          exact ih distinct running knownLater
      | @lost reason between quiet failed =>
          rw [scan_cons_result, here, silentDevices_cons_of_quiet quiet]
          refine ⟨iff_of_false (fun ⟨_, returned⟩ => by cases returned) ?_, ?_⟩
          · exact fun ⟨after, reports⟩ => not_reports_cons failed after reports
          · intro _ _
            simp only [LookupRaises, failed]
      | @unregistered store between quiet looked nowhere =>
          rw [scan_cons_result, here, silentDevices_cons_of_quiet quiet]
          simp only [Accounts, Except.map_returns, Except.map_raises,
            reports_cons_unregistered looked nowhere, LookupRaises, looked, nowhere, true_and]
          exact ih distinct { running with world := between } knownLater
      | @marked store storeId between payload quiet looked found _ about =>
          rw [silentDevices_cons_of_quiet quiet]
          refine accounts_marked others knownLater quiet looked found about here fun after => ?_
          have apart : ∀ other ∈ rest, (running.detector.markOffline entry.1).state.get? other.1 =
              running.detector.state.get? other.1 :=
            fun other member => OrderedDict.get?_set_of_ne _ _ (others other member)
          rw [← silentDevices_congr apart]
          refine ih distinct ⟨running.detector.markOffline entry.1, after⟩ fun other member => ?_
          rw [apart other member]
          exact knownLater other member

/-- The event says of its device what the detector already holds. -/
def Repeats (state : State) (deviceId : Uuid) (event : TelemetryEvent π) : Prop :=
  state.lastSeen.get? deviceId = some event.eventTimestamp ∧
    state.state.get? deviceId = some .seen

theorem refresh_eq_iff (state : State) (deviceId : Uuid) (event : TelemetryEvent π) :
    state.refresh deviceId event.eventTimestamp = state ↔ Repeats state deviceId event := by
  constructor
  · intro same
    have seen : state.lastSeen.get? deviceId = some event.eventTimestamp := by
      rw [← same]
      exact OrderedDict.get?_set_self ..
    have marked : state.state.get? deviceId = some .seen := by
      rw [← same]
      exact OrderedDict.get?_set_self ..
    exact ⟨seen, marked⟩
  · rintro ⟨seen, marked⟩
    unfold State.refresh
    rw [OrderedDict.set_of_get? _ seen, OrderedDict.set_of_get? _ marked]

/-- The device of the event is looked up if it was offline. -/
def recoveryDevices (previous : Option DeviceState) (deviceId : Uuid) : List Uuid :=
  if previous = some .offline then [deviceId] else []

/-- The recovery returns exactly when it is reported, or there is none. -/
theorem recover_outcome (deviceId : Uuid) (previous : Option DeviceState) (running : Running ω)
    (after : ω) :
    (∃ detections, recover detector rules deviceId previous event running =
        (.ok detections, { running with world := after })) ↔
      Reports detector rules event (recoveryDevices previous deviceId) running.world after := by
  unfold recover recoveryDevices
  split
  · rcases looked : detector.storeLookup deviceId running.world with ⟨reason | store, between⟩
    · have failed : outside (detector.storeLookup deviceId) running =
          (.error reason, { running with world := between }) := by
        rw [outside_apply, looked]
      rw [Call.bind_of_error failed]
      refine iff_of_false (fun ⟨_, returned⟩ => by cases returned) ?_
      rintro ⟨store, middle, found, _⟩
      rw [looked] at found
      cases found
    · have returned : outside (detector.storeLookup deviceId) running =
          (.ok store, { running with world := between }) := by
        rw [outside_apply, looked]
      rw [Call.bind_of_ok returned]
      simp only [Reports, looked, Prod.mk.injEq, Except.ok.injEq, exists_eq_left', and_assoc,
        exists_and_left]
      cases found : registered store with
      | none =>
          constructor
          · rintro ⟨_, same⟩
            cases same
            rfl
          · rintro rfl
            exact ⟨[], rfl⟩
      | some storeId =>
          have about := onlinePayload_about rules.sha1 event deviceId (registered_eq_some.mp found).2
          have built : (build rules _ event).Returns between ↔ _ := about.returns between
          simp only [outside_singleton]
          constructor
          · rintro ⟨detections, same⟩
            obtain ⟨returned, world⟩ := Prod.mk.inj same
            obtain ⟨detection, made⟩ := Except.map_returns.mp ⟨_, returned⟩
            have outcome : build rules _ event between = (.ok detection, _) := Prod.ext made rfl
            have moved := (Detections.makeDetection_ok outcome).2.2
            exact ⟨built.mp ⟨_, _, outcome⟩, (congrArg Running.world world).symm.trans moved⟩
          · rintro ⟨reportable, rfl⟩
            obtain ⟨detection, world, outcome⟩ := built.mpr reportable
            rw [outcome, (Detections.makeDetection_ok outcome).2.2]
            exact ⟨[detection], rfl⟩
  · constructor
    · rintro ⟨_, same⟩
      exact (congrArg Running.world (Prod.mk.inj same).2).symm
    · rintro rfl
      exact ⟨[], rfl⟩

/-- The devices the event has looked up, in order: its own if it was offline, and then every
device silent for longer than the threshold. -/
def lookedUp (threshold : Int) (event : TelemetryEvent π) (deviceId : Uuid) (state : State) :
    List Uuid :=
  let refreshed := state.refresh deviceId event.eventTimestamp
  recoveryDevices (state.state.get? deviceId) deviceId ++
    silentDevices threshold event refreshed refreshed.lastSeen.entries

/-- Every lookup the event makes returns, and every detection it makes due can be built. -/
def Completes (detector : OfflineDetector ω π) (rules : DetectionRules ω) (running : Running ω)
    (event : TelemetryEvent π) (deviceId : Uuid) : Prop :=
  ∃ threshold after, timedeltaSeconds detector.thresholdSeconds = .ok threshold ∧
    Reports detector rules event (lookedUp threshold event deviceId running.detector)
      running.world after

/-- Nothing is written before the call raises: the event repeats what is held of its device, and
a lookup raises before any device has a store. -/
def RaisesFirst (detector : OfflineDetector ω π) (running : Running ω) (event : TelemetryEvent π)
    (deviceId : Uuid) : Prop :=
  Repeats running.detector deviceId event ∧
    ∀ threshold, timedeltaSeconds detector.thresholdSeconds = .ok threshold →
      LookupRaises detector (lookedUp threshold event deviceId running.detector) running.world

/-- A call that raises leaves the detector as it was. -/
def KeptOnRaise (detector : OfflineDetector ω π) (rules : DetectionRules ω) (running : Running ω)
    (event : TelemetryEvent π) : Prop :=
  ∀ reason, (observeEvent detector rules event running).1 = .error reason →
    (observeEvent detector rules event running).2.detector = running.detector

/-- The device of an event is not silent at it. -/
theorem refresh_heard {threshold : Int} (positive : 0 < threshold) (state : State)
    (deviceId : Uuid) {entry : Uuid × Datetime}
    (listed : entry ∈ (state.refresh deviceId event.eventTimestamp).lastSeen.entries)
    (same : entry.1 = deviceId) :
    silent threshold event (state.refresh deviceId event.eventTimestamp) entry = false := by
  have seen := (OrderedDict.get?_eq_some_iff _ entry.1 entry.2).mpr listed
  rw [same] at seen
  have fresh : (state.refresh deviceId event.eventTimestamp).lastSeen.get? deviceId =
      some event.eventTimestamp := OrderedDict.get?_set_self ..
  rw [fresh, Option.some.injEq] at seen
  have near : ¬ threshold < event.eventTimestamp.micros - entry.2.micros := by
    rw [← seen]
    omega
  simp only [silent, near, decide_false, Bool.and_false]

/-- The scan of every device heard of. -/
abbrev scanAll (detector : OfflineDetector ω π) (rules : DetectionRules ω) (threshold : Int)
    (event : TelemetryEvent π) (running : Running ω) :
    Except Raised (List DetectionEvent) × Running ω :=
  scan detector rules threshold event running.detector.lastSeen.entries running

/-- Past the refresh nothing puts the device of the event back as it was. -/
theorem repeats_of_scan_same {threshold : Int} (positive : 0 < threshold) (deviceId : Uuid)
    (running between : Running ω) (tracked : Tracked running.detector)
    (refreshed : between.detector = running.detector.refresh deviceId event.eventTimestamp)
    (same : (scanAll detector rules threshold event between).2.detector = running.detector) :
    Repeats running.detector deviceId event := by
  have known := (tracked.refresh deviceId event.eventTimestamp).known
  rw [← refreshed] at known
  constructor
  · have kept : (scanAll detector rules threshold event between).2.detector.lastSeen =
        between.detector.lastSeen := frames_scan _ _ _ between
    rw [← same, kept, refreshed]
    exact OrderedDict.get?_set_self ..
  · rw [← same, scan_frame threshold _ between known deviceId, refreshed]
    · exact OrderedDict.get?_set_self ..
    · rw [refreshed]
      exact fun entry listed named => refresh_heard positive running.detector deviceId listed named

/-- The state with the device of the event refreshed. -/
def refreshed (running : Running ω) (deviceId : Uuid) (event : TelemetryEvent π) : Running ω :=
  { running with detector := running.detector.refresh deviceId event.eventTimestamp }

/-- The recovery of the event's device. -/
def recovery (detector : OfflineDetector ω π) (rules : DetectionRules ω)
    (event : TelemetryEvent π) (deviceId : Uuid) (running : Running ω) :
    Except Raised (List DetectionEvent) × Running ω :=
  recover detector rules deviceId (running.detector.state.get? deviceId) event
    (refreshed running deviceId event)

/-- What observing an event of the device comes to. -/
inductive Observed (detector : OfflineDetector ω π) (rules : DetectionRules ω)
    (event : TelemetryEvent π) (deviceId : Uuid) (running : Running ω) :
    Except Raised (List DetectionEvent) × Running ω → Prop
  | unrecovered {reason : Raised} {between : Running ω}
      (recovered : recovery detector rules event deviceId running = (.error reason, between))
      (frames : between.detector = (refreshed running deviceId event).detector) :
      Observed detector rules event deviceId running (.error reason, between)
  | unconverted {reason : Raised} {recoveries : List DetectionEvent} {between : Running ω}
      (recovered : recovery detector rules event deviceId running = (.ok recoveries, between))
      (frames : between.detector = (refreshed running deviceId event).detector)
      (converted : timedeltaSeconds detector.thresholdSeconds = .error reason) :
      Observed detector rules event deviceId running (.error reason, between)
  | scanned {recoveries : List DetectionEvent} {between : Running ω} {threshold : Int}
      (recovered : recovery detector rules event deviceId running = (.ok recoveries, between))
      (frames : between.detector = (refreshed running deviceId event).detector)
      (converted : timedeltaSeconds detector.thresholdSeconds = .ok threshold) :
      Observed detector rules event deviceId running
        ((scanAll detector rules threshold event between).1.map (recoveries ++ ·),
          (scanAll detector rules threshold event between).2)

theorem observeDevice_cases (deviceId : Uuid) (running : Running ω) :
    Observed detector rules event deviceId running
      (observeDevice detector rules event deviceId running) := by
  have frames : (recovery detector rules event deviceId running).2.detector =
      (refreshed running deviceId event).detector := frames_recover _ _ _ _
  have refreshing : update (State.refresh deviceId event.eventTimestamp) running =
      (.ok (), refreshed running deviceId event) := rfl
  rw [observeDevice, Call.bind_of_ok (Call.read_apply ..), Call.bind_of_ok refreshing]
  rcases recovered : recovery detector rules event deviceId running with
    ⟨reason | recoveries, between⟩
  · have raised : recover detector rules deviceId (running.detector.state.get? deviceId) event
        (refreshed running deviceId event) = (.error reason, between) := recovered
    rw [recovered] at frames
    rw [Call.bind_of_error raised]
    exact .unrecovered recovered frames
  · have returned : recover detector rules deviceId (running.detector.state.get? deviceId) event
        (refreshed running deviceId event) = (.ok recoveries, between) := recovered
    rw [recovered] at frames
    rw [Call.bind_of_ok returned]
    rcases converted : timedeltaSeconds detector.thresholdSeconds with reason | threshold
    · rw [Call.bind_of_error (Call.lift_apply ..)]
      exact .unconverted recovered frames converted
    · rw [Call.bind_of_ok (Call.lift_apply ..), Call.bind_of_ok (Call.read_apply ..)]
      have finished : Observed detector rules event deviceId running _ :=
        .scanned recovered frames converted
      rw [Call.bind_apply]
      rcases outcome : scan detector rules threshold event between.detector.lastSeen.entries
        between with ⟨reason | detections, after⟩ <;> rw [scanAll, outcome] at finished <;>
        exact finished

section Scanned

variable {deviceId : Uuid} {running between : Running ω} {recoveries : List DetectionEvent}
  {threshold : Int}

/-- A recovery that returned was reported, and took the world to where it is. -/
theorem reports_recovery
    (recovered : recovery detector rules event deviceId running = (.ok recoveries, between))
    (frames : between.detector = (refreshed running deviceId event).detector) (middle : ω) :
    Reports detector rules event
        (recoveryDevices (running.detector.state.get? deviceId) deviceId) running.world middle ↔
      middle = between.world := by
  have outcome : (∃ detections, recovery detector rules event deviceId running =
      (.ok detections, ⟨(refreshed running deviceId event).detector, middle⟩)) ↔ _ :=
    recover_outcome deviceId (running.detector.state.get? deviceId)
      (refreshed running deviceId event) middle
  refine outcome.symm.trans ?_
  rw [recovered]
  constructor
  · rintro ⟨_, same⟩
    exact (congrArg Running.world (Prod.mk.inj same).2).symm
  · rintro rfl
    refine ⟨recoveries, ?_⟩
    rw [← frames]

theorem lookedUp_eq (frames : between.detector = (refreshed running deviceId event).detector) :
    lookedUp threshold event deviceId running.detector =
      recoveryDevices (running.detector.state.get? deviceId) deviceId ++
        silentDevices threshold event between.detector between.detector.lastSeen.entries := by
  rw [frames]
  rfl

theorem scan_accounts_refreshed (tracked : Tracked running.detector)
    (frames : between.detector = (refreshed running deviceId event).detector) :
    Accounts detector rules event
      (silentDevices threshold event between.detector between.detector.lastSeen.entries) between
      (scanAll detector rules threshold event between) := by
  have known := (tracked.refresh deviceId event.eventTimestamp).known
  exact scan_accounts threshold between.detector.lastSeen.entries between.detector.lastSeen.nodup
    between (by rw [frames]; exact known)

/-- Past the recovery the event completes exactly when the scan returns. -/
theorem completes_iff (tracked : Tracked running.detector)
    (recovered : recovery detector rules event deviceId running = (.ok recoveries, between))
    (frames : between.detector = (refreshed running deviceId event).detector)
    (converted : timedeltaSeconds detector.thresholdSeconds = .ok threshold) :
    Completes detector rules running event deviceId ↔ ∃ detections,
      (scanAll detector rules threshold event between).1 = .ok detections := by
  have accounts : Accounts detector rules event
      (silentDevices threshold event between.detector between.detector.lastSeen.entries) between
      (scanAll detector rules threshold event between) :=
    scan_accounts_refreshed tracked frames
  have reported := reports_recovery recovered frames
  refine Iff.trans ?_ accounts.1.symm
  constructor
  · rintro ⟨other, final, returned, reports⟩
    rw [converted, Except.ok.injEq] at returned
    rw [← returned, lookedUp_eq frames] at reports
    obtain ⟨middle, here, there⟩ := (reports_append _ _ _ _).mp reports
    rw [(reported middle).mp here] at there
    exact ⟨final, there⟩
  · rintro ⟨final, there⟩
    refine ⟨threshold, final, converted, ?_⟩
    rw [lookedUp_eq frames]
    exact (reports_append _ _ _ _).mpr ⟨between.world, (reported _).mpr rfl, there⟩

/-- Where the scan raises, the detector is as it was before the event exactly when nothing was
written before a lookup raised. -/
theorem raisesFirst_iff (tracked : Tracked running.detector)
    (recovered : recovery detector rules event deviceId running = (.ok recoveries, between))
    (frames : between.detector = (refreshed running deviceId event).detector)
    (converted : timedeltaSeconds detector.thresholdSeconds = .ok threshold) {reason : Raised}
    (failed : (scanAll detector rules threshold event between).1 = .error reason) :
    (scanAll detector rules threshold event between).2.detector = running.detector ↔
      RaisesFirst detector running event deviceId := by
  have kept : (refreshed running deviceId event).detector = running.detector ↔
      Repeats running.detector deviceId event := refresh_eq_iff running.detector deviceId event
  have positive := timedeltaSeconds_pos detector.threshold_pos converted
  have accounts : Accounts detector rules event
      (silentDevices threshold event between.detector between.detector.lastSeen.entries) between
      (scanAll detector rules threshold event between) :=
    scan_accounts_refreshed tracked frames
  have unchanged := accounts.2 reason failed
  have alone : Repeats running.detector deviceId event →
      lookedUp threshold event deviceId running.detector =
          silentDevices threshold event between.detector between.detector.lastSeen.entries ∧
        between.world = running.world := by
    intro repeats
    have reported := (reports_recovery recovered frames between.world).mpr rfl
    rw [repeats.2] at reported
    refine ⟨?_, reported⟩
    rw [lookedUp_eq frames, repeats.2]
    rfl
  constructor
  · intro same
    have repeats := repeats_of_scan_same positive deviceId running between tracked frames same
    refine ⟨repeats, fun other returned => ?_⟩
    rw [converted, Except.ok.injEq] at returned
    rw [← returned, (alone repeats).1, ← (alone repeats).2]
    exact unchanged.mp (same.trans (frames.trans (kept.mpr repeats)).symm)
  · rintro ⟨repeats, raises⟩
    have raised := raises threshold converted
    rw [(alone repeats).1, ← (alone repeats).2] at raised
    exact (unchanged.mpr raised).trans (frames.trans (kept.mpr repeats))

end Scanned

theorem observeDevice_kept (deviceId : Uuid) (running : Running ω)
    (tracked : Tracked running.detector) :
    (∀ reason, (observeDevice detector rules event deviceId running).1 = .error reason →
      (observeDevice detector rules event deviceId running).2.detector = running.detector) ↔
      Completes detector rules running event deviceId ∨
        RaisesFirst detector running event deviceId := by
  have kept : (refreshed running deviceId event).detector = running.detector ↔
      Repeats running.detector deviceId event := refresh_eq_iff running.detector deviceId event
  have observed : Observed detector rules event deviceId running _ :=
    observeDevice_cases deviceId running
  generalize observeDevice detector rules event deviceId running = result at observed ⊢
  cases observed with
  | @unrecovered reason between recovered frames =>
      -- the device was offline, and is now seen
      have noneLost : ¬ Repeats running.detector deviceId event := by
        intro repeats
        rw [recovery, repeats.2] at recovered
        cases recovered
      refine iff_of_false ?_ ?_
      · exact fun unchanged => noneLost (kept.mp (frames.symm.trans (unchanged reason rfl)))
      · rintro (⟨threshold, after, _, reports⟩ | ⟨repeats, _⟩)
        · obtain ⟨middle, here, _⟩ := (reports_append _ _ _ _).mp reports
          obtain ⟨_, returned⟩ := (recover_outcome deviceId _
            (refreshed running deviceId event) middle).mpr here
          have raised : recover detector rules deviceId (running.detector.state.get? deviceId) event
              (refreshed running deviceId event) = (.error reason, between) := recovered
          rw [raised] at returned
          cases returned
        · exact noneLost repeats
  | @unconverted reason recoveries between recovered frames converted =>
      constructor
      · intro unchanged
        refine Or.inr ⟨kept.mp (frames.symm.trans (unchanged reason rfl)), ?_⟩
        intro threshold returned
        rw [converted] at returned
        cases returned
      · rintro (⟨threshold, _, returned, _⟩ | ⟨repeats, _⟩)
        · rw [converted] at returned
          cases returned
        · exact fun _ _ => frames.trans (kept.mpr repeats)
  | @scanned recoveries between threshold recovered frames converted =>
      have completes := completes_iff tracked recovered frames converted
      simp only [Except.map_raises]
      rcases outcome : (scanAll detector rules threshold event between).1 with reason | detections
      · rw [completes, raisesFirst_iff tracked recovered frames converted outcome |>.symm]
        constructor
        · exact fun unchanged => Or.inr (unchanged reason rfl)
        · rintro (⟨_, returned⟩ | same)
          · rw [outcome] at returned
            cases returned
          · exact fun _ _ => same
      · exact iff_of_true (fun _ failed => by cases failed)
          (Or.inl (completes.mpr ⟨detections, outcome⟩))

/-- The devices with a state are those there were, whatever the scan raises. -/
theorem scan_known (threshold : Int) (entries : List (Uuid × Datetime)) (running : Running ω)
    (deviceId : Uuid) :
    ((scan detector rules threshold event entries running).2.detector.state.get? deviceId).isSome ↔
      (running.detector.state.get? deviceId).isSome := by
  induction entries generalizing running with
  | nil => exact Iff.rfl
  | cons entry rest ih =>
      have here : ((scanDevice detector rules threshold event entry.1 entry.2
          running).2.detector.state.get? deviceId).isSome ↔
            (running.detector.state.get? deviceId).isSome := by
        cases found : running.detector.state.get? entry.1 with
        | none =>
            rw [scanDevice, Call.bind_of_ok (Call.read_apply ..), found]
            exact Iff.rfl
        | some state =>
            exact (scanDevice_cases threshold running entry (by rw [found]; rfl)).known deviceId
      rw [scan_cons_result]
      rcases outcome : scanDevice detector rules threshold event entry.1 entry.2 running with
        ⟨reason | detected, between⟩
      · rw [outcome] at here
        exact here
      · rw [outcome] at here
        exact (ih between).trans here

theorem observeDevice_tracked (deviceId : Uuid) (running : Running ω)
    (tracked : Tracked running.detector) :
    Tracked (observeDevice detector rules event deviceId running).2.detector := by
  intro other
  have refreshed := tracked.refresh deviceId event.eventTimestamp other
  rw [lastSeen_observeDevice]
  refine refreshed.trans ?_
  have observed : Observed detector rules event deviceId running _ :=
    observeDevice_cases deviceId running
  generalize observeDevice detector rules event deviceId running = result at observed ⊢
  cases observed with
  | unrecovered recovered frames => rw [frames]; rfl
  | unconverted recovered frames converted => rw [frames]; rfl
  | @scanned recoveries between threshold recovered frames converted =>
      have scanned : ((scanAll detector rules threshold event between).2.detector.state.get?
          other).isSome ↔ _ := scan_known _ _ between other
      refine Iff.trans ?_ scanned.symm
      rw [frames]
      rfl

theorem observeEvent_tracked (running : Running ω) (tracked : Tracked running.detector) :
    Tracked (observeEvent detector rules event running).2.detector := by
  rw [observeEvent, Call.bind_apply, Call.lift_apply]
  rcases detector.deviceIdExtractor event with reason | _ | deviceId
  · exact tracked
  · exact tracked
  · exact observeDevice_tracked deviceId running tracked

theorem Reached.tracked {history : List (TelemetryEvent π)} {running : Running ω}
    (reached : Reached detector rules history running) : Tracked running.detector := by
  induction reached with
  | start world => exact tracked_initial
  | observe event _ ih => exact observeEvent_tracked _ ih
  | change world _ ih => exact ih

/-- When a call that raises leaves the detector as it was. -/
def Keeps (detector : OfflineDetector ω π) (rules : DetectionRules ω) (running : Running ω)
    (event : TelemetryEvent π) : Prop :=
  ∀ deviceId, detector.deviceIdExtractor event = .ok (some deviceId) →
    Completes detector rules running event deviceId ∨ RaisesFirst detector running event deviceId

theorem keptOnRaise_iff (running : Running ω) (tracked : Tracked running.detector) :
    KeptOnRaise detector rules running event ↔ Keeps detector rules running event := by
  unfold KeptOnRaise Keeps
  rw [observeEvent, Call.bind_apply, Call.lift_apply]
  rcases detector.deviceIdExtractor event with reason | _ | deviceId
  · exact iff_of_true (fun _ _ => rfl) fun _ named => by cases named
  · exact iff_of_true (fun _ failed => by cases failed) fun _ named => by cases named
  · simp only [Except.ok.injEq, Option.some.injEq, forall_eq']
    exact observeDevice_kept deviceId running tracked

end

end SignalForge.OfflineDetector
