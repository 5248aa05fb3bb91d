import SignalForge.Alternation
import SignalForge.IdentityRoles
import SignalForge.OfflineCountAgreement

/-! The detections a run of the offline detector emits: those of each device alternate, and each tells
its device and its event. -/

set_option autoImplicit false

namespace SignalForge

namespace OfflineDetector

variable {ω π : Type} {detector : OfflineDetector ω π} {rules : DetectionRules ω}
  {lookup : Uuid → Option String} {threshold : Int} {event : TelemetryEvent π}

/-- The text a detection's id is derived from. -/
def transitionName (payload : DetectionEventPayload) : Str :=
  Identity.nameOf
    (if payload.detectionType = detectionTypeDeviceOffline then "detection.device_offline"
      else "detection.device_online")
    [payload.storeId.toList, (payload.deviceId.getD 0).text, payload.sourceEventId.text]

/-- The device and the event of a detection. -/
def subject (payload : DetectionEventPayload) : Option Uuid × Uuid :=
  (payload.deviceId, payload.sourceEventId)

/-- A detection about the event, of some device, under the id of its text. -/
structure Emitted (sha1 : List UInt8 → BitVec 160) (event : TelemetryEvent π)
    (payload : DetectionEventPayload) : Prop where
  device : payload.deviceId.isSome
  sourceEvent : payload.sourceEventId = event.eventId
  derived : payload.detectionId =
    Uuid.uuid5 sha1 (Identity.rootNamespace sha1) (transitionName payload)

/-- The store may hold any character; the device and the event are behind the last two bars. -/
theorem subject_of_transitionName {first second : DetectionEventPayload}
    (device : first.deviceId.isSome) (otherDevice : second.deviceId.isSome)
    (same : transitionName first = transitionName second) : subject first = subject second := by
  obtain ⟨deviceId, known⟩ := Option.isSome_iff_exists.mp device
  obtain ⟨otherId, otherKnown⟩ := Option.isSome_iff_exists.mp otherDevice
  have role : ∀ payload : DetectionEventPayload, '|' ∉ (if payload.detectionType =
      detectionTypeDeviceOffline then "detection.device_offline"
        else "detection.device_online").toList := by
    intro payload
    split <;> decide
  obtain ⟨_, _, devices, events⟩ := Text.joined_inside (role first) (role second)
    (IdentityRole.bar_not_mem_uuid _) (IdentityRole.bar_not_mem_uuid _)
    (IdentityRole.bar_not_mem_uuid _) (IdentityRole.bar_not_mem_uuid _) same
  rw [known, otherKnown, Option.getD_some, Option.getD_some] at devices
  rw [subject, subject, known, otherKnown, Uuid.text_injective devices,
    Uuid.text_injective events]

/-- What an event's call is to report: the recovery of its device, then the devices that cross. -/
def reports (detector : OfflineDetector ω π) (rules : DetectionRules ω)
    (lookup : Uuid → Option String) (threshold : Int) (event : TelemetryEvent π) (deviceId : Uuid)
    (before : State) : List DetectionEventPayload :=
  onlineReports rules lookup event deviceId (before.state.get? deviceId) ++
    (crossings lookup threshold event (before.refresh deviceId event.eventTimestamp)).map
      (offlineReport detector rules lookup event)

theorem emitted_of_reports {deviceId : Uuid} {before : State} {payload : DetectionEventPayload}
    (member : payload ∈ reports detector rules lookup threshold event deviceId before) :
    Emitted rules.sha1 event payload := by
  rcases List.mem_append.mp member with online | offline
  · rw [onlineReports] at online
    split at online
    · obtain ⟨storeId, _, rfl⟩ := List.mem_map.mp online
      exact ⟨rfl, rfl, rfl⟩
    · cases online
  · obtain ⟨entry, _, rfl⟩ := List.mem_map.mp offline
    exact ⟨rfl, rfl, rfl⟩

theorem crossings_nodup (lookup : Uuid → Option String) (threshold : Int)
    (event : TelemetryEvent π) (state : State) :
    ((crossings lookup threshold event state).map Prod.fst).Nodup :=
  state.lastSeen.nodup.sublist (List.filter_sublist.map Prod.fst)

/-- No device is reported twice at one event. -/
theorem reports_subjects_nodup (positive : 0 < threshold) (deviceId : Uuid) (before : State) :
    ((reports detector rules lookup threshold event deviceId before).map subject).Nodup := by
  rw [reports, List.map_append, List.nodup_append, List.map_map]
  refine ⟨?_, ?_, ?_⟩
  · rw [onlineReports]
    split
    · cases registered (lookup deviceId) with
      | none => exact List.nodup_nil
      | some storeId => exact List.nodup_singleton _
    · exact List.nodup_nil
  · have apart : Function.Injective fun deviceId : Uuid => (some deviceId, event.eventId) :=
      fun _ _ same => Option.some.inj (Prod.mk.inj same).1
    have mapped := List.Nodup.map apart (crossings_nodup lookup threshold event
      (before.refresh deviceId event.eventTimestamp))
    rwa [List.map_map] at mapped
  · intro first online second offline same
    obtain ⟨payload, member, rfl⟩ := List.mem_map.mp online
    obtain ⟨entry, crossed, rfl⟩ := List.mem_map.mp offline
    have own : payload.deviceId = some deviceId := by
      rw [onlineReports] at member
      split at member
      · obtain ⟨_, _, rfl⟩ := List.mem_map.mp member
        rfl
      · cases member
    have devices := (Prod.mk.inj same).1
    rw [own] at devices
    exact crossings_refresh_ne positive crossed (Option.some.inj devices).symm

/-- The types of the detections of a device. -/
def typesOf (payloads : List DetectionEventPayload) (deviceId : Uuid) : List String :=
  (payloads.filter fun payload => payload.deviceId = some deviceId).map
    DetectionEventPayload.detectionType

theorem typesOf_append (payloads more : List DetectionEventPayload) (deviceId : Uuid) :
    typesOf (payloads ++ more) deviceId = typesOf payloads deviceId ++ typesOf more deviceId := by
  rw [typesOf, List.filter_append, List.map_append, typesOf, typesOf]

theorem typesOf_onlineReports (deviceId other : Uuid) (previous : Option DeviceState) :
    typesOf (onlineReports rules lookup event deviceId previous) other =
      if other = deviceId ∧ previous = some .offline ∧ (registered (lookup deviceId)).isSome then
        [detectionTypeDeviceOnline]
      else [] := by
  by_cases offline : previous = some .offline
  · rw [onlineReports, if_pos offline]
    cases registered (lookup deviceId) with
    | none => simp [typesOf]
    | some storeId =>
        by_cases same : other = deviceId
        · simp [typesOf, onlinePayload, offline, same]
        · simp [typesOf, onlinePayload, same, Ne.symm same]
  · rw [onlineReports, if_neg offline, if_neg fun both => offline both.2.1]
    rfl

theorem typesOf_offlineReports {entries : List (Uuid × Datetime)}
    (nodup : (entries.map Prod.fst).Nodup) (other : Uuid) :
    typesOf (entries.map (offlineReport detector rules lookup event)) other =
      if other ∈ entries.map Prod.fst then [detectionTypeDeviceOffline] else [] := by
  induction entries with
  | nil => rfl
  | cons entry rest ih =>
      obtain ⟨fresh, nodup⟩ := List.nodup_cons.mp nodup
      have own : (offlineReport detector rules lookup event entry).deviceId = some entry.1 := rfl
      rw [typesOf] at ih
      rw [List.map_cons, List.map_cons, typesOf]
      by_cases same : entry.1 = other
      · subst same
        rw [List.filter_cons_of_pos (by simp [own]), List.map_cons, ih nodup, if_neg fresh,
          if_pos List.mem_cons_self]
        rfl
      · rw [List.filter_cons_of_neg (by simpa [own] using same), ih nodup]
        simp only [List.mem_cons, Ne.symm same, false_or]

/-- An event adds to the detections of its own device a recovery, and to those of each device that
crosses that it went offline. -/
theorem typesOf_reports (deviceId other : Uuid) (before : State) :
    typesOf (reports detector rules lookup threshold event deviceId before) other =
      (if other = deviceId ∧ before.state.get? deviceId = some .offline ∧
          (registered (lookup deviceId)).isSome then [detectionTypeDeviceOnline] else []) ++
        if other ∈ (crossings lookup threshold event
          (before.refresh deviceId event.eventTimestamp)).map Prod.fst then
            [detectionTypeDeviceOffline] else [] := by
  rw [reports, typesOf_append, typesOf_onlineReports, typesOf_offlineReports (crossings_nodup ..)]

end OfflineDetector

namespace OfflineDashboard

open OfflineDetector (registered crossings reports typesOf subject transitionName Emitted)

variable {κ π : Type}

/-- What the detector answers an arrival with. -/
def answers (detector : OfflineDetector (Fleet κ) π) (rules : DetectionRules κ)
    (dashboard : OfflineDashboard κ) : Arrival π → List DetectionEvent
  | .registration _ => []
  | .device event => Call.answered (detector.observeEvent (Fleet.rules rules) event) dashboard.running

def emittedFrom (detector : OfflineDetector (Fleet κ) π) (rules : DetectionRules κ)
    (dashboard : OfflineDashboard κ) : List (Arrival π) → List DetectionEvent
  | [] => []
  | arrival :: rest =>
      answers detector rules dashboard arrival ++
        emittedFrom detector rules (step detector rules dashboard arrival) rest

/-- The payloads of the detections emitted over a run. -/
def emitted (detector : OfflineDetector (Fleet κ) π) (rules : DetectionRules κ) (clock : κ)
    (arrivals : List (Arrival π)) : List DetectionEventPayload :=
  (emittedFrom detector rules (start clock) arrivals).map DetectionEvent.payload

/-- The ids of the events among the arrivals. -/
def eventIds (arrivals : List (Arrival π)) : List Uuid :=
  arrivals.filterMap fun
    | .registration _ => none
    | .device event => some event.eventId

/-- What the emitted detections of each device owe to its state. -/
structure InTurn (dashboard : OfflineDashboard κ) (payloads : List DetectionEventPayload) :
    Prop where
  named : ∀ deviceId storeId, dashboard.registry.storeFor deviceId = some storeId → storeId ≠ ""
  placed : ∀ deviceId, dashboard.Offline deviceId → (dashboard.registry.storeFor deviceId).isSome
  alternates : ∀ deviceId, Alternates detectionTypeDeviceOffline detectionTypeDeviceOnline
    (typesOf payloads deviceId)
  odd : ∀ deviceId, (typesOf payloads deviceId).length % 2 = 1 ↔ dashboard.Offline deviceId

variable {detector : OfflineDetector (Fleet κ) π} {rules : DetectionRules κ}
  {dashboard : OfflineDashboard κ} {payloads : List DetectionEventPayload}

theorem inTurn_start (clock : κ) : InTurn (start clock) [] where
  named _ _ found := by cases found
  placed _ offline := by cases offline
  alternates _ := Alternates.nil
  odd _ := iff_of_false Nat.zero_ne_one fun offline => by cases offline

theorem emittedFrom_concat (arrivals : List (Arrival π)) (arrival : Arrival π) :
    emittedFrom detector rules dashboard (arrivals ++ [arrival]) =
      emittedFrom detector rules dashboard arrivals ++
        answers detector rules (arrivals.foldl (step detector rules) dashboard) arrival := by
  induction arrivals generalizing dashboard with
  | nil => exact List.append_nil _
  | cons first rest ih =>
      rw [List.cons_append, emittedFrom, ih, emittedFrom, List.append_assoc, List.foldl_cons]

theorem emitted_concat (clock : κ) (arrivals : List (Arrival π)) (arrival : Arrival π) :
    emitted detector rules clock (arrivals ++ [arrival]) =
      emitted detector rules clock arrivals ++
        (answers detector rules (run detector rules clock arrivals) arrival).map
          DetectionEvent.payload := by
  rw [emitted, emittedFrom_concat, List.map_append, ← emitted, run]

theorem InTurn.register (inTurn : InTurn dashboard payloads) (sound : Sound detector dashboard)
    {payload : RegistrationPayload} (named : payload.storeId ≠ "") :
    InTurn (dashboard.register payload) payloads where
  named deviceId storeId found := by
    rw [storeFor_register payload sound.consistent] at found
    split at found
    · cases found
      exact named
    · exact inTurn.named deviceId storeId found
  placed deviceId offline := by
    rw [storeFor_register payload sound.consistent]
    split
    · rfl
    · exact inTurn.placed deviceId offline
  alternates := inTurn.alternates
  odd := inTurn.odd

/-- What an event of a device adds: the payloads the detector is to report, and the states. -/
structure Answered (detector : OfflineDetector (Fleet κ) π) (rules : DetectionRules κ)
    (dashboard after : OfflineDashboard κ) (event : TelemetryEvent π) (deviceId : Uuid)
    (threshold : Int) (added : List DetectionEventPayload) : Prop where
  registry : after.registry = dashboard.registry
  added : added = reports detector (Fleet.rules rules) dashboard.registry.storeFor threshold event
    deviceId dashboard.running.detector
  states : ∀ other, after.running.detector.state.get? other =
    if other ∈ (crossings dashboard.registry.storeFor threshold event
        (dashboard.running.detector.refresh deviceId event.eventTimestamp)).map Prod.fst then
      some .offline
    else (dashboard.running.detector.refresh deviceId event.eventTimestamp).state.get? other

theorem observe_answered {event : TelemetryEvent π} {deviceId : Uuid}
    (looksUp : Fleet.LooksUp detector)
    (buildable : Fleet.Buildable rules dashboard.running.world.clock event)
    (sound : Sound detector dashboard)
    (named : OfflineDetector.deviceOf detector event = some deviceId) {threshold : Int}
    (converted : timedeltaSeconds detector.thresholdSeconds = .ok threshold) :
    Answered detector rules dashboard (dashboard.observe detector rules event) event deviceId
      threshold ((answers detector rules dashboard (.device event)).map DetectionEvent.payload) := by
  obtain ⟨detections, after, returned, ⟨sameRegistry, _⟩, _, payloads, states⟩ :=
    (buildable.steady looksUp).observeDevice_ok deviceId converted ⟨rfl, 0, rfl⟩ sound.tracked
  rw [observe, answers, observeEvent_eq detector named, Call.answered]
  simp only [returned]
  exact ⟨sameRegistry, payloads, states⟩

namespace Answered

variable {after : OfflineDashboard κ} {event : TelemetryEvent π} {deviceId : Uuid} {threshold : Int}
  {added : List DetectionEventPayload}

theorem offline_iff
    (answered : Answered detector rules dashboard after event deviceId threshold added)
    (other : Uuid) :
    after.Offline other ↔
      other ∈ (crossings dashboard.registry.storeFor threshold event
        (dashboard.running.detector.refresh deviceId event.eventTimestamp)).map Prod.fst ∨
        other ≠ deviceId ∧ dashboard.Offline other := by
  rw [Offline, answered.states]
  split
  · rename_i crossed
    exact iff_of_true rfl (Or.inl crossed)
  · rename_i stays
    rw [or_iff_right stays, OfflineDetector.State.refresh, OrderedDict.get?_set]
    split
    · rename_i own
      exact iff_of_false (fun seen => by cases seen) fun both => both.1 own
    · rename_i apart
      exact (and_iff_right apart).symm

/-- A device that crosses is another than the event's, was not offline and has a store. -/
theorem crossing (positive : 0 < threshold) {other : Uuid}
    (crossed : other ∈ (crossings dashboard.registry.storeFor threshold event
      (dashboard.running.detector.refresh deviceId event.eventTimestamp)).map Prod.fst) :
    other ≠ deviceId ∧ ¬ dashboard.Offline other ∧
      (registered (dashboard.registry.storeFor other)).isSome := by
  obtain ⟨entry, member, rfl⟩ := List.mem_map.mp crossed
  have apart := OfflineDetector.crossings_refresh_ne positive member
  obtain ⟨_, seen, _, placed⟩ := OfflineDetector.mem_crossings.mp member
  rw [OfflineDetector.State.refresh, OrderedDict.get?_set_of_ne _ _ apart] at seen
  refine ⟨apart, ?_, placed⟩
  intro offline
  rw [Offline, seen] at offline
  cases offline

/-- A device that was offline comes back with a recovery; one that crosses goes offline with a
detection; any other gets none and stays as it is. -/
theorem turn (answered : Answered detector rules dashboard after event deviceId threshold added)
    (inTurn : InTurn dashboard payloads) (positive : 0 < threshold) (other : Uuid) :
    Alternates detectionTypeDeviceOffline detectionTypeDeviceOnline
        (typesOf (payloads ++ added) other) ∧
      ((typesOf (payloads ++ added) other).length % 2 = 1 ↔ after.Offline other) := by
  have odd := inTurn.odd other
  rw [answered.offline_iff, OfflineDetector.typesOf_append, answered.added,
    OfflineDetector.typesOf_reports]
  by_cases crossed : other ∈ (crossings dashboard.registry.storeFor threshold event
      (dashboard.running.detector.refresh deviceId event.eventTimestamp)).map Prod.fst
  · obtain ⟨apart, notOffline, _⟩ := crossing positive crossed
    have even : ¬ (typesOf payloads other).length % 2 = 1 := fun odd' => notOffline (odd.mp odd')
    rw [if_neg fun both => apart both.1, if_pos crossed, List.nil_append, List.length_append,
      List.length_singleton]
    refine ⟨(inTurn.alternates other).concat (if_pos ?_).symm, iff_of_true ?_ (Or.inl crossed)⟩ <;>
      omega
  · rw [if_neg crossed, List.append_nil, or_iff_right crossed]
    by_cases recovers : other = deviceId ∧ dashboard.Offline other
    · obtain ⟨rfl, offline⟩ := recovers
      have placed : (registered (dashboard.registry.storeFor other)).isSome := by
        obtain ⟨storeId, found⟩ := Option.isSome_iff_exists.mp (inTurn.placed other offline)
        rw [OfflineDetector.registered_eq_some.mpr ⟨found, inTurn.named other storeId found⟩]
        rfl
      rw [if_pos ⟨rfl, offline, placed⟩, List.length_append, List.length_singleton]
      have length := odd.mpr offline
      refine ⟨(inTurn.alternates other).concat (if_neg ?_).symm, iff_of_false ?_ fun both => both.1 rfl⟩ <;>
        omega
    · rw [if_neg, List.append_nil]
      · refine ⟨inTurn.alternates other, odd.trans ?_⟩
        exact (and_iff_right_of_imp fun offline own => recovers ⟨own, offline⟩).symm
      · rintro ⟨rfl, offline, _⟩
        exact recovers ⟨rfl, offline⟩

theorem inTurn (answered : Answered detector rules dashboard after event deviceId threshold added)
    (inTurn : InTurn dashboard payloads) (positive : 0 < threshold) :
    InTurn after (payloads ++ added) where
  named := by
    rw [answered.registry]
    exact inTurn.named
  placed other offline := by
    rw [answered.registry]
    rcases (answered.offline_iff other).mp offline with crossed | ⟨_, before⟩
    · obtain ⟨storeId, placed⟩ := Option.isSome_iff_exists.mp (crossing positive crossed).2.2
      rw [(OfflineDetector.registered_eq_some.mp placed).1]
      rfl
    · exact inTurn.placed other before
  alternates other := (answered.turn inTurn positive other).1
  odd other := (answered.turn inTurn positive other).2

end Answered

/-- An event is answered with nothing and no device goes offline or comes back, or it is answered with
what the detector is to report. -/
theorem observe_cases (event : TelemetryEvent π) (looksUp : Fleet.LooksUp detector)
    (buildable : Fleet.Buildable rules dashboard.running.world.clock event)
    (sound : Sound detector dashboard) :
    (answers detector rules dashboard (.device event) = [] ∧
      (dashboard.observe detector rules event).registry = dashboard.registry ∧
      ∀ other, (dashboard.observe detector rules event).Offline other ↔ dashboard.Offline other) ∨
    ∃ deviceId threshold, 0 < threshold ∧
      Answered detector rules dashboard (dashboard.observe detector rules event) event deviceId
        threshold ((answers detector rules dashboard (.device event)).map DetectionEvent.payload) := by
  cases named : OfflineDetector.deviceOf detector event with
  | none =>
      rw [observe_nameless detector named]
      exact Or.inl ⟨(observeEvent_nameless rules detector named dashboard.running).2, rfl,
        fun _ => Iff.rfl⟩
  | some deviceId =>
      cases converted : timedeltaSeconds detector.thresholdSeconds with
      | ok threshold =>
          exact Or.inr ⟨deviceId, threshold, timedeltaSeconds_pos detector.threshold_pos converted,
            observe_answered looksUp buildable sound named converted⟩
      | error reason =>
          rw [observe_unconverted sound named converted]
          refine Or.inl ⟨?_, rfl, ?_⟩
          · rw [answers, Call.answered, observeEvent_unconverted rules sound named converted]
          · intro other
            rw [Offline, OfflineDetector.State.refresh, OrderedDict.get?_set]
            split
            · rename_i own
              exact iff_of_false (fun seen => by cases seen)
                (own ▸ sound.silent reason converted deviceId)
            · exact Iff.rfl

theorem InTurn.observe {event : TelemetryEvent π} (inTurn : InTurn dashboard payloads)
    (looksUp : Fleet.LooksUp detector)
    (buildable : Fleet.Buildable rules dashboard.running.world.clock event)
    (sound : Sound detector dashboard) :
    InTurn (dashboard.observe detector rules event)
      (payloads ++ (answers detector rules dashboard (.device event)).map DetectionEvent.payload) := by
  rcases observe_cases event looksUp buildable sound with
    ⟨nothing, registry, states⟩ | ⟨deviceId, threshold, positive, answered⟩
  · rw [nothing, List.map_nil, List.append_nil]
    refine ⟨?_, ?_, inTurn.alternates, fun other => (inTurn.odd other).trans (states other).symm⟩
    · rw [registry]
      exact inTurn.named
    · intro other offline
      rw [registry]
      exact inTurn.placed other ((states other).mp offline)
  · exact answered.inTurn inTurn positive

/-- The emitted detections tell their devices and their events. -/
structure Identified (sha1 : List UInt8 → BitVec 160) (arrivals : List (Arrival π))
    (payloads : List DetectionEventPayload) : Prop where
  device : ∀ payload ∈ payloads, payload.deviceId.isSome
  derived : ∀ payload ∈ payloads, payload.detectionId =
    Uuid.uuid5 sha1 (Identity.rootNamespace sha1) (transitionName payload)
  source : ∀ payload ∈ payloads, payload.sourceEventId ∈ eventIds arrivals
  subjects : (eventIds arrivals).Nodup → (payloads.map subject).Nodup

namespace Identified

variable {sha1 : List UInt8 → BitVec 160} {arrivals : List (Arrival π)}

theorem nil : Identified sha1 arrivals [] where
  device _ absent := by cases absent
  derived _ absent := by cases absent
  source _ absent := by cases absent
  subjects _ := List.nodup_nil

theorem eventIds_concat (arrivals : List (Arrival π)) (event : TelemetryEvent π) :
    eventIds (arrivals ++ [.device event]) = eventIds arrivals ++ [event.eventId] :=
  List.filterMap_append

/-- An arrival that adds no detection. -/
theorem quiet (identified : Identified sha1 arrivals payloads) (arrival : Arrival π) :
    Identified sha1 (arrivals ++ [arrival]) payloads where
  device := identified.device
  derived := identified.derived
  source payload member := by
    rw [eventIds, List.filterMap_append]
    exact List.mem_append_left _ (identified.source payload member)
  subjects distinct := by
    rw [eventIds, List.filterMap_append] at distinct
    exact identified.subjects distinct.of_append_left

/-- Detections about an event whose id is new. -/
theorem concat (identified : Identified sha1 arrivals payloads) {event : TelemetryEvent π}
    {added : List DetectionEventPayload} (about : ∀ payload ∈ added, Emitted sha1 event payload)
    (apart : (added.map subject).Nodup) :
    Identified sha1 (arrivals ++ [.device event]) (payloads ++ added) where
  device payload member := by
    rcases List.mem_append.mp member with before | new
    · exact identified.device payload before
    · exact (about payload new).device
  derived payload member := by
    rcases List.mem_append.mp member with before | new
    · exact identified.derived payload before
    · exact (about payload new).derived
  source payload member := by
    rw [eventIds_concat]
    rcases List.mem_append.mp member with before | new
    · exact List.mem_append_left _ (identified.source payload before)
    · exact List.mem_append_right _ (List.mem_singleton.mpr (about payload new).sourceEvent)
  subjects distinct := by
    rw [eventIds_concat] at distinct
    rw [List.map_append]
    refine List.nodup_append.mpr ⟨identified.subjects distinct.of_append_left, apart, ?_⟩
    intro first before second new same
    obtain ⟨payload, member, rfl⟩ := List.mem_map.mp before
    obtain ⟨other, otherMember, rfl⟩ := List.mem_map.mp new
    have fresh := (List.nodup_append.mp distinct).2.2 _ (identified.source payload member) _
      (List.mem_singleton_self event.eventId)
    exact fresh ((Prod.mk.inj same).2.trans (about other otherMember).sourceEvent)

/-- Detections of different devices or events have different ids, where ids collide for no two of
their texts. -/
theorem ids_nodup (identified : Identified sha1 arrivals payloads)
    (distinct : (eventIds arrivals).Nodup)
    (collisionFree : Identity.CollisionFree sha1 (payloads.map transitionName)) :
    (payloads.map DetectionEventPayload.detectionId).Nodup := by
  have subjects := identified.subjects distinct
  rw [List.Nodup, List.pairwise_map] at subjects ⊢
  refine subjects.imp_of_mem ?_
  intro first second member other apart same
  apply apart
  rw [identified.derived first member, identified.derived second other] at same
  exact OfflineDetector.subject_of_transitionName (identified.device first member)
    (identified.device second other)
    (collisionFree _ (List.mem_map_of_mem member) _ (List.mem_map_of_mem other) same)

end Identified

/-- What holds of the detections emitted so far and of the states. -/
theorem emitted_inTurn (looksUp : Fleet.LooksUp detector) (clock : κ) (arrivals : List (Arrival π))
    (buildable : BuildableRun detector rules clock arrivals)
    (named : ∀ payload, Arrival.registration payload ∈ arrivals → payload.storeId ≠ "") :
    InTurn (run detector rules clock arrivals) (emitted detector rules clock arrivals) ∧
      Identified rules.sha1 arrivals (emitted detector rules clock arrivals) := by
  induction arrivals using List.reverseRecOn with
  | nil => exact ⟨inTurn_start clock, .nil⟩
  | append_singleton arrivals arrival ih =>
      have before : BuildableRun detector rules clock arrivals :=
        fun front event back split => buildable front event (back ++ [arrival]) (by
          rw [split, List.append_assoc, List.cons_append])
      have sound := sound_run looksUp clock arrivals before
      obtain ⟨inTurn, identified⟩ :=
        ih before fun payload member => named payload (List.mem_append_left _ member)
      rw [run_concat, emitted_concat]
      cases arrival with
      | registration payload =>
          rw [answers, List.map_nil, List.append_nil]
          have given := named payload (List.mem_append_right _ (List.mem_singleton_self _))
          exact ⟨inTurn.register sound given, identified.quiet _⟩
      | device event =>
          have built := buildable arrivals event [] rfl
          refine ⟨inTurn.observe looksUp built sound, ?_⟩
          rcases observe_cases event looksUp built sound with
            ⟨nothing, _⟩ | ⟨deviceId, threshold, positive, answered⟩
          · rw [nothing, List.map_nil, List.append_nil]
            exact identified.quiet _
          · rw [answered.added]
            exact identified.concat (fun payload => OfflineDetector.emitted_of_reports)
              (OfflineDetector.reports_subjects_nodup positive deviceId _)

/-- Over every run the detections of each device alternate, the first of them that it went offline; and
where no event id comes twice, no detection id does. -/
theorem emitted_alternate (looksUp : Fleet.LooksUp detector) (clock : κ)
    (arrivals : List (Arrival π)) (buildable : BuildableRun detector rules clock arrivals)
    (named : ∀ payload, Arrival.registration payload ∈ arrivals → payload.storeId ≠ "") :
    (∀ deviceId, Alternates detectionTypeDeviceOffline detectionTypeDeviceOnline
        (typesOf (emitted detector rules clock arrivals) deviceId)) ∧
      ((eventIds arrivals).Nodup →
        Identity.CollisionFree rules.sha1
            ((emitted detector rules clock arrivals).map transitionName) →
          ((emitted detector rules clock arrivals).map DetectionEventPayload.detectionId).Nodup) := by
  obtain ⟨inTurn, identified⟩ := emitted_inTurn looksUp clock arrivals buildable named
  exact ⟨inTurn.alternates, identified.ids_nodup⟩

section Samples

open OfflineDetector (sampleRules sampleEvent firstDevice secondDevice secondOfDay_lt)

def eventAt (serial : Nat) (deviceId : Uuid) (seconds : Nat) : TelemetryEvent Uuid :=
  sampleEvent serial deviceId (seconds % 86400) (secondOfDay_lt seconds)

/-- A device that goes offline, is moved to a store with a bar in its name, and reports again. -/
def returningArrivals : List (Arrival Uuid) :=
  [.registration ⟨firstDevice, "store-1"⟩, .device (eventAt 1 firstDevice 0),
    .device (eventAt 2 secondDevice 400), .registration ⟨firstDevice, "store|2"⟩,
    .device (eventAt 3 firstDevice 100)]

theorem returningArrivals_buildable :
    BuildableRun sampleDetector sampleRules () returningArrivals := by
  intro before event after split
  have member : .device event ∈ returningArrivals := by
    rw [split]
    exact List.mem_append_right before List.mem_cons_self
  simp only [returningArrivals, List.mem_cons, reduceCtorEq, Arrival.device.injEq, false_or,
    List.not_mem_nil, or_false] at member
  rcases member with rfl | rfl | rfl <;> exact ⟨rfl, by decide, sampleRules_timely _ (by decide)⟩

theorem emitted_alternate_sample :
    (∀ deviceId, Alternates detectionTypeDeviceOffline detectionTypeDeviceOnline
        (typesOf (emitted sampleDetector sampleRules () returningArrivals) deviceId)) ∧
      ((emitted sampleDetector sampleRules () returningArrivals).map
        DetectionEventPayload.detectionId).Nodup := by
  have named : ∀ payload, Arrival.registration payload ∈ returningArrivals → payload.storeId ≠ "" := by
    intro payload member
    simp only [returningArrivals, List.mem_cons, reduceCtorEq, Arrival.registration.injEq, false_or,
      List.not_mem_nil, or_false] at member
    rcases member with rfl | rfl <;> decide
  obtain ⟨alternates, distinct⟩ :=
    emitted_alternate (fun _ => rfl) () returningArrivals returningArrivals_buildable named
  exact ⟨alternates, distinct (by decide) (by decide +kernel)⟩

end Samples

end OfflineDashboard

end SignalForge
