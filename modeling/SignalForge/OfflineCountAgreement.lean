import SignalForge.Fleet
import SignalForge.ProjectionFolds

/-! The offline devices of each store as the dashboard shows them, beside the states the detector
keeps and the stores devices are registered to. -/

set_option autoImplicit false

namespace SignalForge

open OfflineDetector (DeviceState Running)

/-- A registration, or an event a detector observes. -/
inductive Arrival (π : Type) where
  | registration (payload : RegistrationPayload)
  | device (event : TelemetryEvent π)

/-- The detector and the fleet, and the store behind the dashboard. -/
structure OfflineDashboard (κ : Type) where
  running : Running (Fleet κ)
  store : ProjectionStore

namespace OfflineDashboard

variable {κ π : Type}

def start (clock : κ) : OfflineDashboard κ where
  running := ⟨.initial, ⟨.empty, clock⟩⟩
  store := .empty

def registry (dashboard : OfflineDashboard κ) : DeviceRegistry := dashboard.running.world.registry

def register (payload : RegistrationPayload) (dashboard : OfflineDashboard κ) :
    OfflineDashboard κ :=
  let running := dashboard.running
  let registry := (DeviceRegistry.observeRegistration payload dashboard.registry).2
  { dashboard with running := { running with world := { running.world with registry } } }

/-- The detections of an event are folded into the projection in order. -/
def observe (detector : OfflineDetector (Fleet κ) π) (rules : DetectionRules κ)
    (event : TelemetryEvent π) (dashboard : OfflineDashboard κ) : OfflineDashboard κ :=
  let call := detector.observeEvent (Fleet.rules rules) event
  { running := (call dashboard.running).2
    store := routeDetections [OfflineCountProjection.observe]
      (Call.answered call dashboard.running) dashboard.store }

def step (detector : OfflineDetector (Fleet κ) π) (rules : DetectionRules κ)
    (dashboard : OfflineDashboard κ) : Arrival π → OfflineDashboard κ
  | .registration payload => dashboard.register payload
  | .device event => dashboard.observe detector rules event

def run (detector : OfflineDetector (Fleet κ) π) (rules : DetectionRules κ) (clock : κ)
    (arrivals : List (Arrival π)) : OfflineDashboard κ :=
  arrivals.foldl (step detector rules) (start clock)

def Offline (dashboard : OfflineDashboard κ) (deviceId : Uuid) : Prop :=
  dashboard.running.detector.state.get? deviceId = some .offline

/-- The dashboard has the device among the offline devices of the store. -/
def Listed (dashboard : OfflineDashboard κ) (deviceId : Uuid) (storeId : String) : Prop :=
  ∃ ids, OfflineCountProjection.offlineDeviceIds dashboard.store storeId = .ok ids ∧
    deviceId.text ∈ ids

/-- Exactly the devices the detector holds offline are listed, each at the store it is registered
to and at no other. -/
structure Agrees (dashboard : OfflineDashboard κ) : Prop where
  listed_iff : ∀ deviceId, (∃ storeId, dashboard.Listed deviceId storeId) ↔
    dashboard.Offline deviceId
  listed_at : ∀ deviceId storeId, dashboard.Listed deviceId storeId →
    dashboard.registry.storeFor deviceId = some storeId

/-- A device that is offline is registered to the store it is in already. -/
def KeepsStore (dashboard : OfflineDashboard κ) (payload : RegistrationPayload) : Prop :=
  dashboard.Offline payload.deviceId →
    dashboard.registry.storeFor payload.deviceId = some payload.storeId

/-- What holds whether or not devices move. -/
structure Sound (detector : OfflineDetector (Fleet κ) π) (dashboard : OfflineDashboard κ) :
    Prop where
  consistent : DeviceRegistry.Consistent dashboard.registry
  tracked : OfflineDetector.Tracked dashboard.running.detector
  keeps : KeepsIds OfflineCountProjection.view dashboard.store
  named : ∀ deviceId storeId, dashboard.Listed deviceId storeId → storeId ≠ ""
  /-- With a threshold that is no timedelta every scan raises. -/
  silent : ∀ reason, timedeltaSeconds detector.thresholdSeconds = .error reason →
    ∀ deviceId, ¬ dashboard.Offline deviceId

variable {detector : OfflineDetector (Fleet κ) π} {rules : DetectionRules κ}

theorem listed_iff_held {dashboard : OfflineDashboard κ}
    (keeps : KeepsIds OfflineCountProjection.view dashboard.store) (deviceId : Uuid)
    (storeId : String) :
    dashboard.Listed deviceId storeId ↔
      heldIds OfflineCountProjection.view dashboard.store (storeId, deviceId.text) = some () := by
  have loaded : OfflineCountProjection.offlineDeviceIds dashboard.store storeId =
      .ok (idsAt OfflineCountProjection.view dashboard.store storeId) := keeps.load storeId
  simp only [Listed, loaded, Except.ok.injEq, exists_eq_left', heldIds]
  split
  · rename_i member
    exact ⟨fun _ => rfl, fun _ => member⟩
  · rename_i absent
    exact ⟨fun member => absurd member absent, fun held => by cases held⟩

theorem listed_of_items {dashboard : OfflineDashboard κ} {deviceId : Uuid} {storeId : String}
    {texts : List Str}
    (items : (OfflineCountProjection.offlineDeviceIds dashboard.store storeId).toOption.map
      SortedSet.items = some texts)
    (member : deviceId.text ∈ texts) : dashboard.Listed deviceId storeId := by
  cases read : OfflineCountProjection.offlineDeviceIds dashboard.store storeId with
  | error reason =>
      rw [read] at items
      cases items
  | ok ids =>
      rw [read] at items
      have same : ids.items = texts := Option.some.inj items
      exact ⟨ids, read, by rwa [SortedSet.mem_def, same]⟩

theorem run_concat (clock : κ) (arrivals : List (Arrival π)) (arrival : Arrival π) :
    run detector rules clock (arrivals ++ [arrival]) =
      step detector rules (run detector rules clock arrivals) arrival :=
  List.foldl_concat ..

theorem agrees_start (clock : κ) : Agrees (start clock) where
  listed_iff deviceId := by
    constructor
    · rintro ⟨storeId, listed⟩
      rw [listed_iff_held (keepsIds_empty _)] at listed
      cases listed
    · intro offline
      cases offline
  listed_at deviceId storeId listed := by
    rw [listed_iff_held (keepsIds_empty _)] at listed
    cases listed

theorem sound_start (clock : κ) : Sound detector (start clock) where
  consistent := DeviceRegistry.consistent_empty
  tracked := OfflineDetector.tracked_initial
  keeps := keepsIds_empty _
  named deviceId storeId listed := by
    rw [listed_iff_held (keepsIds_empty _)] at listed
    cases listed
  silent _ _ _ offline := by cases offline

section Register

variable {dashboard : OfflineDashboard κ} (payload : RegistrationPayload)

theorem storeFor_register (consistent : DeviceRegistry.Consistent dashboard.registry)
    (deviceId : Uuid) :
    (dashboard.register payload).registry.storeFor deviceId =
      if deviceId = payload.deviceId then some payload.storeId
      else dashboard.registry.storeFor deviceId := by
  obtain ⟨after, returned, _, stores⟩ := DeviceRegistry.observeRegistration_ok consistent payload
  rw [register, registry, returned]
  exact stores deviceId

theorem Sound.register (sound : Sound detector dashboard) :
    Sound detector (dashboard.register payload) where
  consistent := by
    obtain ⟨after, returned, consistent, _⟩ :=
      DeviceRegistry.observeRegistration_ok sound.consistent payload
    rw [OfflineDashboard.register, registry, returned]
    exact consistent
  tracked := sound.tracked
  keeps := sound.keeps
  named := sound.named
  silent := sound.silent

/-- A registration keeps the agreement exactly when it leaves an offline device where it is. -/
theorem Agrees.register_iff (agrees : Agrees dashboard)
    (consistent : DeviceRegistry.Consistent dashboard.registry) :
    Agrees (dashboard.register payload) ↔ dashboard.KeepsStore payload := by
  constructor
  · intro after offline
    obtain ⟨storeId, listed⟩ := (agrees.listed_iff payload.deviceId).mpr offline
    have moved := after.listed_at payload.deviceId storeId listed
    rw [storeFor_register payload consistent, if_pos rfl] at moved
    rw [agrees.listed_at payload.deviceId storeId listed, moved]
  · intro keepsStore
    refine ⟨agrees.listed_iff, fun deviceId storeId listed => ?_⟩
    have before := agrees.listed_at deviceId storeId listed
    rw [storeFor_register payload consistent]
    split
    · rename_i same
      rw [← keepsStore ((agrees.listed_iff _).mp ⟨storeId, same ▸ listed⟩), ← same, before]
    · exact before

end Register

section Writes

open OfflineCountProjection (writeOf)

theorem writeOf_offline {sha1 : List UInt8 → BitVec 160} {deviceId : Uuid} {storeId : String}
    {silentFor : Int} {event : TelemetryEvent π} {detection : DetectionEvent}
    (payload : detection.payload =
      OfflineDetector.offlinePayload detector sha1 deviceId storeId silentFor event) :
    writeOf detection = some ⟨(storeId, deviceId.text), some ()⟩ := by
  rw [writeOf, OfflineCountProjection.transition, payload]
  rfl

theorem writeOf_online {sha1 : List UInt8 → BitVec 160} {deviceId : Uuid} {storeId : String}
    {event : TelemetryEvent π} {detection : DetectionEvent}
    (payload : detection.payload = OfflineDetector.onlinePayload sha1 deviceId storeId event) :
    writeOf detection = some ⟨(storeId, deviceId.text), none⟩ := by
  rw [writeOf, OfflineCountProjection.transition, payload]
  rfl

variable {sha : DetectionRules (Fleet κ)} {lookup : Uuid → Option String} {threshold : Int}
  {event : TelemetryEvent π} {deviceId : Uuid} {before refreshed : OfflineDetector.State}
  {detections : List DetectionEvent}

/-- The writes an event's detections come to: its own device goes from its store if it was offline,
and the devices that cross come to theirs. -/
theorem mem_writes
    (payloads : detections.map DetectionEvent.payload =
      OfflineDetector.onlineReports sha lookup event deviceId (before.state.get? deviceId) ++
        (OfflineDetector.crossings lookup threshold event refreshed).map
          (OfflineDetector.offlineReport detector sha lookup event))
    (write : PointWrite (String × Str) Unit) :
    write ∈ detections.filterMap writeOf ↔
      (before.state.get? deviceId = some .offline ∧ ∃ storeId,
        OfflineDetector.registered (lookup deviceId) = some storeId ∧
          write = ⟨(storeId, deviceId.text), none⟩) ∨
      ∃ entry ∈ OfflineDetector.crossings lookup threshold event refreshed, ∃ storeId,
        OfflineDetector.registered (lookup entry.1) = some storeId ∧
          write = ⟨(storeId, entry.1.text), some ()⟩ := by
  have crossed : ∀ entry ∈ OfflineDetector.crossings lookup threshold event refreshed,
      ∃ storeId, OfflineDetector.registered (lookup entry.1) = some storeId :=
    fun entry member =>
      Option.isSome_iff_exists.mp (OfflineDetector.mem_crossings.mp member).2.2.2
  constructor
  · intro written
    obtain ⟨detection, member, written⟩ := List.mem_filterMap.mp written
    have listed : detection.payload ∈ detections.map DetectionEvent.payload :=
      List.mem_map_of_mem member
    rw [payloads] at listed
    rcases List.mem_append.mp listed with online | offline
    · left
      rw [OfflineDetector.onlineReports] at online
      split at online
      · rename_i wasOffline
        obtain ⟨storeId, found, payload⟩ := List.mem_map.mp online
        rw [writeOf_online payload.symm] at written
        exact ⟨wasOffline, storeId, Option.mem_toList.mp found, (Option.some.inj written).symm⟩
      · cases online
    · right
      obtain ⟨entry, entryCrosses, payload⟩ := List.mem_map.mp offline
      obtain ⟨storeId, found⟩ := crossed entry entryCrosses
      rw [OfflineDetector.offlineReport, found] at payload
      rw [writeOf_offline payload.symm] at written
      exact ⟨entry, entryCrosses, storeId, found, (Option.some.inj written).symm⟩
  · have reported : ∀ payload ∈ detections.map DetectionEvent.payload,
        ∃ detection ∈ detections, detection.payload = payload :=
      fun payload member => List.mem_map.mp member
    rw [payloads] at reported
    rintro (⟨wasOffline, storeId, found, rfl⟩ | ⟨entry, entryCrosses, storeId, found, rfl⟩)
    · obtain ⟨detection, member, payload⟩ := reported
        (OfflineDetector.onlinePayload sha.sha1 deviceId storeId event) (by
          apply List.mem_append_left
          rw [OfflineDetector.onlineReports, if_pos wasOffline, found]
          exact List.mem_singleton_self _)
      exact List.mem_filterMap.mpr ⟨detection, member, writeOf_online payload⟩
    · obtain ⟨detection, member, payload⟩ := reported
        (OfflineDetector.offlineReport detector sha lookup event entry)
        (List.mem_append_right _ (List.mem_map_of_mem entryCrosses))
      rw [OfflineDetector.offlineReport, found] at payload
      exact List.mem_filterMap.mpr ⟨detection, member, writeOf_offline payload⟩

end Writes

section Observe

variable {dashboard : OfflineDashboard κ} {event : TelemetryEvent π} {deviceId : Uuid}

theorem observeEvent_nameless (rules : DetectionRules κ) (detector : OfflineDetector (Fleet κ) π)
    (nameless : OfflineDetector.deviceOf detector event = none) (running : Running (Fleet κ)) :
    (detector.observeEvent (Fleet.rules rules) event running).2 = running ∧
      Call.answered (detector.observeEvent (Fleet.rules rules) event) running = [] := by
  rw [OfflineDetector.deviceOf] at nameless
  have call : ∃ result, detector.observeEvent (Fleet.rules rules) event running =
      (result, running) ∧ (result = .ok [] ∨ ∃ reason, result = .error reason) := by
    rw [OfflineDetector.observeEvent, Call.bind_apply, Call.lift_apply]
    rcases extracted : detector.deviceIdExtractor event with reason | _ | deviceId
    · exact ⟨_, rfl, Or.inr ⟨reason, rfl⟩⟩
    · exact ⟨_, rfl, Or.inl rfl⟩
    · rw [extracted] at nameless
      cases nameless
  obtain ⟨result, returned, answer⟩ := call
  rw [Call.answered, returned]
  rcases answer with rfl | ⟨reason, rfl⟩ <;> exact ⟨rfl, rfl⟩

/-- An event that names no device, or whose device cannot be read, changes nothing. -/
theorem observe_nameless (detector : OfflineDetector (Fleet κ) π)
    (nameless : OfflineDetector.deviceOf detector event = none) :
    dashboard.observe detector rules event = dashboard := by
  obtain ⟨same, nothing⟩ := observeEvent_nameless rules detector nameless dashboard.running
  rw [observe, same, nothing]
  rfl

theorem observeEvent_eq (detector : OfflineDetector (Fleet κ) π)
    (named : OfflineDetector.deviceOf detector event = some deviceId) :
    detector.observeEvent (Fleet.rules rules) event =
      detector.observeDevice (Fleet.rules rules) event deviceId := by
  rw [OfflineDetector.deviceOf] at named
  rw [OfflineDetector.observeEvent]
  rcases extracted : detector.deviceIdExtractor event with reason | found
  · rw [extracted] at named
    cases named
  · rw [extracted] at named
    simp only at named
    rw [named]
    rfl

/-- What an event of a device does to the dashboard. -/
structure Observed (dashboard after : OfflineDashboard κ) (event : TelemetryEvent π)
    (deviceId : Uuid) (threshold : Int) : Prop where
  registry : after.registry = dashboard.registry
  lastSeen : after.running.detector.lastSeen =
    (dashboard.running.detector.refresh deviceId event.eventTimestamp).lastSeen
  states : ∀ other, after.running.detector.state.get? other =
    if other ∈ (OfflineDetector.crossings dashboard.registry.storeFor threshold event
        (dashboard.running.detector.refresh deviceId event.eventTimestamp)).map Prod.fst then
      some .offline
    else (dashboard.running.detector.refresh deviceId event.eventTimestamp).state.get? other
  keeps : KeepsIds OfflineCountProjection.view after.store
  writes : ∃ writes, heldIds OfflineCountProjection.view after.store =
      PointWrite.applyAll (heldIds OfflineCountProjection.view dashboard.store) writes ∧
    ∀ write, write ∈ writes ↔
      (dashboard.Offline deviceId ∧ ∃ storeId,
        OfflineDetector.registered (dashboard.registry.storeFor deviceId) = some storeId ∧
          write = ⟨(storeId, deviceId.text), none⟩) ∨
      ∃ entry ∈ OfflineDetector.crossings dashboard.registry.storeFor threshold event
          (dashboard.running.detector.refresh deviceId event.eventTimestamp), ∃ storeId,
        OfflineDetector.registered (dashboard.registry.storeFor entry.1) = some storeId ∧
          write = ⟨(storeId, entry.1.text), some ()⟩

theorem observe_observed (looksUp : Fleet.LooksUp detector)
    (buildable : Fleet.Buildable rules dashboard.running.world.clock event)
    (sound : Sound detector dashboard)
    (named : OfflineDetector.deviceOf detector event = some deviceId) {threshold : Int}
    (converted : timedeltaSeconds detector.thresholdSeconds = .ok threshold) :
    Observed dashboard (dashboard.observe detector rules event) event deviceId threshold := by
  obtain ⟨detections, after, returned, ⟨sameRegistry, _⟩, seen, payloads, states⟩ :=
    (buildable.steady looksUp).observeDevice_ok deviceId converted ⟨rfl, 0, rfl⟩ sound.tracked
  rw [observe, observeEvent_eq detector named, Call.answered]
  simp only [returned]
  have folds := OfflineCountProjection.observe_writes
  exact {
    registry := sameRegistry
    lastSeen := seen
    states := states
    keeps := folds.kept_fold sound.keeps detections
    writes := ⟨_, folds.view_fold sound.keeps detections, mem_writes payloads⟩ }

namespace Observed

variable {after : OfflineDashboard κ} {threshold : Int}

theorem sound (observed : Observed dashboard after event deviceId threshold)
    (sound : Sound detector dashboard)
    (converted : timedeltaSeconds detector.thresholdSeconds = .ok threshold) :
    Sound detector after where
  consistent := observed.registry ▸ sound.consistent
  tracked := by
    intro other
    rw [observed.lastSeen, observed.states]
    have refreshed := sound.tracked.refresh deviceId event.eventTimestamp
    split
    · rename_i crossed
      obtain ⟨entry, member, rfl⟩ := List.mem_map.mp crossed
      have seen := (OfflineDetector.mem_crossings.mp member).1
      simp only [seen, Option.isSome_some]
    · exact refreshed other
  keeps := observed.keeps
  named := by
    intro other storeId listed
    rw [listed_iff_held observed.keeps] at listed
    obtain ⟨writes, held, written⟩ := observed.writes
    rw [held] at listed
    rcases PointWrite.applyAll_cases _ writes (storeId, other.text) with kept | ⟨write, member, on, new⟩
    · rw [kept] at listed
      exact sound.named other storeId ((listed_iff_held sound.keeps ..).mpr listed)
    · rw [new] at listed
      rcases (written write).mp member with ⟨_, store, _, rfl⟩ | ⟨entry, _, store, found, rfl⟩
      · cases listed
      · obtain rfl := (Prod.mk.inj on).1
        exact (OfflineDetector.registered_eq_some.mp found).2
  silent := by
    intro reason failed
    rw [converted] at failed
    cases failed

/-- The device of the event is at no store: a write takes it away, or it was at none. -/
theorem own_unlisted (observed : Observed dashboard after event deviceId threshold)
    (sound : Sound detector dashboard) (agrees : Agrees dashboard) (positive : 0 < threshold)
    (storeId : String) : ¬ after.Listed deviceId storeId := by
  obtain ⟨writes, held, written⟩ := observed.writes
  rw [listed_iff_held observed.keeps, held]
  by_cases present : ∃ write ∈ writes, write.key = (storeId, deviceId.text)
  · have gone : PointWrite.applyAll (heldIds OfflineCountProjection.view dashboard.store) writes
        (storeId, deviceId.text) = none := PointWrite.applyAll_of_agree present (by
        intro write member on
        rcases (written write).mp member with ⟨_, store, _, rfl⟩ | ⟨entry, crossed, store, _, rfl⟩
        · rfl
        · exact absurd (Uuid.text_injective (Prod.mk.inj on).2)
            (OfflineDetector.crossings_refresh_ne positive crossed))
    rw [gone]
    exact fun held => by cases held
  · rw [PointWrite.applyAll_of_absent fun write member on => present ⟨write, member, on⟩,
      ← listed_iff_held sound.keeps]
    intro listed
    have store := agrees.listed_at deviceId storeId listed
    have offline := (agrees.listed_iff deviceId).mp ⟨storeId, listed⟩
    have found :=
      OfflineDetector.registered_eq_some.mpr ⟨store, sound.named deviceId storeId listed⟩
    exact present ⟨_, (written _).mpr (Or.inl ⟨offline, storeId, found, rfl⟩), rfl⟩

/-- Another device is where it was, or it crosses and is at the store it is registered to. -/
theorem other_listed_iff (observed : Observed dashboard after event deviceId threshold)
    (sound : Sound detector dashboard) {other : Uuid} (apart : other ≠ deviceId)
    (storeId : String) :
    after.Listed other storeId ↔ dashboard.Listed other storeId ∨
      (other ∈ (OfflineDetector.crossings dashboard.registry.storeFor threshold event
          (dashboard.running.detector.refresh deviceId event.eventTimestamp)).map Prod.fst ∧
        dashboard.registry.storeFor other = some storeId) := by
  obtain ⟨writes, held, written⟩ := observed.writes
  rw [listed_iff_held observed.keeps, held]
  by_cases present : ∃ write ∈ writes, write.key = (storeId, other.text)
  · have crossing : ∀ write ∈ writes, write.key = (storeId, other.text) →
        write.value = some () ∧
          other ∈ (OfflineDetector.crossings dashboard.registry.storeFor threshold event
            (dashboard.running.detector.refresh deviceId event.eventTimestamp)).map Prod.fst ∧
          dashboard.registry.storeFor other = some storeId := by
      intro write member on
      rcases (written write).mp member with ⟨_, store, _, rfl⟩ | ⟨entry, crossed, store, found, rfl⟩
      · exact absurd (Uuid.text_injective (Prod.mk.inj on).2).symm apart
      · obtain ⟨sameStore, sameText⟩ := Prod.mk.inj on
        obtain rfl := Uuid.text_injective sameText
        exact ⟨rfl, List.mem_map_of_mem crossed,
          sameStore ▸ (OfflineDetector.registered_eq_some.mp found).1⟩
    rw [PointWrite.applyAll_of_agree present fun write member on => (crossing write member on).1]
    obtain ⟨write, member, on⟩ := present
    exact ⟨fun _ => Or.inr (crossing write member on).2, fun _ => rfl⟩
  · rw [PointWrite.applyAll_of_absent fun write member on => present ⟨write, member, on⟩,
      ← listed_iff_held sound.keeps]
    refine ⟨Or.inl, ?_⟩
    rintro (listed | ⟨crossed, store⟩)
    · exact listed
    · obtain ⟨entry, member, rfl⟩ := List.mem_map.mp crossed
      obtain ⟨named, isRegistered⟩ := Option.isSome_iff_exists.mp
        (OfflineDetector.mem_crossings.mp member).2.2.2
      have same := (OfflineDetector.registered_eq_some.mp isRegistered).1
      rw [store] at same
      cases same
      exact absurd ⟨_, (written _).mpr (Or.inr ⟨entry, member, storeId, isRegistered, rfl⟩), rfl⟩
        present

/-- The device of the event is at no store; one that crosses is at the store it is registered to;
any other is where it was. -/
theorem listed_iff (observed : Observed dashboard after event deviceId threshold)
    (sound : Sound detector dashboard) (agrees : Agrees dashboard) (positive : 0 < threshold)
    (other : Uuid) (storeId : String) :
    after.Listed other storeId ↔
      other ≠ deviceId ∧ (dashboard.Listed other storeId ∨
        (other ∈ (OfflineDetector.crossings dashboard.registry.storeFor threshold event
            (dashboard.running.detector.refresh deviceId event.eventTimestamp)).map Prod.fst ∧
          dashboard.registry.storeFor other = some storeId)) := by
  by_cases own : other = deviceId
  · subst own
    exact iff_of_false (observed.own_unlisted sound agrees positive storeId)
      fun both => both.1 rfl
  · rw [observed.other_listed_iff sound own]
    exact (and_iff_right own).symm

/-- An event of a device keeps the agreement. -/
theorem agrees (observed : Observed dashboard after event deviceId threshold)
    (sound : Sound detector dashboard) (agrees : Agrees dashboard) (positive : 0 < threshold) :
    Agrees after where
  listed_iff other := by
    simp only [observed.listed_iff sound agrees positive, Offline, observed.states]
    constructor
    · rintro ⟨storeId, notOwn, listed | ⟨crossed, _⟩⟩
      · split
        · rfl
        · have offline := (agrees.listed_iff other).mp ⟨storeId, listed⟩
          exact (OrderedDict.get?_set_of_ne _ _ notOwn).trans offline
      · rw [if_pos crossed]
    · intro offline
      split at offline
      · rename_i crossed
        obtain ⟨entry, member, rfl⟩ := List.mem_map.mp crossed
        obtain ⟨storeId, named⟩ := Option.isSome_iff_exists.mp
          (OfflineDetector.mem_crossings.mp member).2.2.2
        exact ⟨storeId, OfflineDetector.crossings_refresh_ne positive member,
          Or.inr ⟨crossed, (OfflineDetector.registered_eq_some.mp named).1⟩⟩
      · simp only [OfflineDetector.State.refresh, OrderedDict.get?_set] at offline
        split at offline
        · cases offline
        · rename_i notOwn
          obtain ⟨storeId, listed⟩ := (agrees.listed_iff other).mpr offline
          exact ⟨storeId, notOwn, Or.inl listed⟩
  listed_at other storeId listed := by
    rw [observed.registry]
    rcases (observed.listed_iff sound agrees positive other storeId).mp listed with
      ⟨_, before | ⟨_, store⟩⟩
    · exact agrees.listed_at other storeId before
    · exact store

end Observed

theorem observeEvent_unconverted (rules : DetectionRules κ) (sound : Sound detector dashboard)
    (named : OfflineDetector.deviceOf detector event = some deviceId) {reason : Raised}
    (failed : timedeltaSeconds detector.thresholdSeconds = .error reason) :
    detector.observeEvent (Fleet.rules rules) event dashboard.running =
      (.error reason, { dashboard.running with
        detector := dashboard.running.detector.refresh deviceId event.eventTimestamp }) := by
  have notOffline : dashboard.running.detector.state.get? deviceId ≠ some .offline :=
    sound.silent reason failed deviceId
  rw [observeEvent_eq detector named, OfflineDetector.observeDevice,
    Call.bind_of_ok (Call.read_apply ..), OfflineDetector.recover, if_neg notOffline, failed]
  rfl

/-- With a threshold that is no timedelta the device is seen, and nothing is reported. -/
theorem observe_unconverted (sound : Sound detector dashboard)
    (named : OfflineDetector.deviceOf detector event = some deviceId) {reason : Raised}
    (failed : timedeltaSeconds detector.thresholdSeconds = .error reason) :
    dashboard.observe detector rules event = { dashboard with
      running := { dashboard.running with
        detector := dashboard.running.detector.refresh deviceId event.eventTimestamp } } := by
  rw [observe, Call.answered, observeEvent_unconverted rules sound named failed]
  rfl

end Observe

section Run

/-- Every event finds what building a detection about it needs. -/
def BuildableRun (detector : OfflineDetector (Fleet κ) π) (rules : DetectionRules κ) (clock : κ)
    (arrivals : List (Arrival π)) : Prop :=
  ∀ before event after, arrivals = before ++ .device event :: after →
    Fleet.Buildable rules (run detector rules clock before).running.world.clock event

/-- No registration moves a device that is offline. -/
def KeepsStores (detector : OfflineDetector (Fleet κ) π) (rules : DetectionRules κ) (clock : κ)
    (arrivals : List (Arrival π)) : Prop :=
  ∀ before payload after, arrivals = before ++ .registration payload :: after →
    (run detector rules clock before).KeepsStore payload

theorem sound_observe {dashboard : OfflineDashboard κ} {event : TelemetryEvent π}
    (looksUp : Fleet.LooksUp detector)
    (buildable : Fleet.Buildable rules dashboard.running.world.clock event)
    (sound : Sound detector dashboard) : Sound detector (dashboard.observe detector rules event) := by
  cases named : OfflineDetector.deviceOf detector event with
  | none => rwa [observe_nameless detector named]
  | some deviceId =>
      cases converted : timedeltaSeconds detector.thresholdSeconds with
      | ok threshold =>
          exact (observe_observed looksUp buildable sound named converted).sound sound converted
      | error reason =>
          rw [observe_unconverted sound named converted]
          refine ⟨sound.consistent, sound.tracked.refresh deviceId _, sound.keeps, sound.named, ?_⟩
          intro reason failed other offline
          simp only [Offline, OfflineDetector.State.refresh, OrderedDict.get?_set] at offline
          split at offline
          · cases offline
          · exact sound.silent reason failed other offline

theorem agrees_observe {dashboard : OfflineDashboard κ} {event : TelemetryEvent π}
    (looksUp : Fleet.LooksUp detector)
    (buildable : Fleet.Buildable rules dashboard.running.world.clock event)
    (sound : Sound detector dashboard) (agrees : Agrees dashboard) :
    Agrees (dashboard.observe detector rules event) := by
  cases named : OfflineDetector.deviceOf detector event with
  | none => rwa [observe_nameless detector named]
  | some deviceId =>
      cases converted : timedeltaSeconds detector.thresholdSeconds with
      | ok threshold =>
          exact (observe_observed looksUp buildable sound named converted).agrees sound agrees
            (timedeltaSeconds_pos detector.threshold_pos converted)
      | error reason =>
          rw [observe_unconverted sound named converted]
          refine ⟨fun other => (agrees.listed_iff other).trans ?_, agrees.listed_at⟩
          simp only [Offline, OfflineDetector.State.refresh, OrderedDict.get?_set]
          split
          · rename_i same
            have notOffline := sound.silent reason converted deviceId
            simp only [Offline] at notOffline
            simp only [same, notOffline, Option.some.injEq, reduceCtorEq]
          · exact Iff.rfl

theorem sound_run (looksUp : Fleet.LooksUp detector) (clock : κ) (arrivals : List (Arrival π))
    (buildable : BuildableRun detector rules clock arrivals) :
    Sound detector (run detector rules clock arrivals) := by
  induction arrivals using List.reverseRecOn with
  | nil => exact sound_start clock
  | append_singleton arrivals arrival ih =>
      have before := ih fun front event back split => buildable front event (back ++ [arrival]) (by
        rw [split, List.append_assoc, List.cons_append])
      rw [run_concat]
      cases arrival with
      | registration payload => exact before.register payload
      | device event => exact sound_observe looksUp (buildable arrivals event [] rfl) before

/-- The dashboard agrees with the detector and the registry after every arrival exactly when no
registration moves a device that is offline. -/
theorem agrees_iff_keepsStores {detector : OfflineDetector (Fleet κ) π} {rules : DetectionRules κ}
    (looksUp : Fleet.LooksUp detector) (clock : κ) (arrivals : List (Arrival π))
    (buildable : BuildableRun detector rules clock arrivals) :
    (∀ before after, arrivals = before ++ after → Agrees (run detector rules clock before)) ↔
      KeepsStores detector rules clock arrivals := by
  have soundAt : ∀ before after, arrivals = before ++ after →
      Sound detector (run detector rules clock before) := by
    rintro before after rfl
    apply sound_run looksUp clock before
    intro front event back split
    exact buildable front event (back ++ after) (by rw [split, List.append_assoc]; rfl)
  constructor
  · intro agrees before payload after split
    have here := agrees before (.registration payload :: after) split
    have next := agrees (before ++ [.registration payload]) after (by
      rw [split, List.append_assoc]
      rfl)
    rw [run_concat] at next
    exact (here.register_iff payload (soundAt before _ split).consistent).mp next
  · intro keepsStores before
    induction before using List.reverseRecOn with
    | nil => exact fun _ _ => agrees_start clock
    | append_singleton before arrival ih =>
        intro after split
        rw [List.append_assoc, List.singleton_append] at split
        have agrees := ih (arrival :: after) split
        have sound := soundAt before _ split
        rw [run_concat]
        cases arrival with
        | registration payload =>
            exact (agrees.register_iff payload sound.consistent).mpr
              (keepsStores before payload after split)
        | device event =>
            exact agrees_observe looksUp (buildable before event after split) sound agrees

end Run

section Samples

open OfflineDetector (sampleRules sampleEvent firstDevice secondDevice)

def sampleDetector : OfflineDetector (Fleet Unit) Uuid :=
  Fleet.offlineDetector 300 OfflineDetector.sampleDetector.threshold_pos fun event => .ok (some event.payload)

/-- The second device, 400 seconds after the first, finds it silent; then the first device is
registered once more. -/
def sampleArrivals (lastStore : String) : List (Arrival Uuid) :=
  [.registration ⟨firstDevice, "store-1"⟩, .device (sampleEvent 1 firstDevice 0 (by decide)),
    .device (sampleEvent 2 secondDevice 400 (by decide)), .registration ⟨firstDevice, lastStore⟩]

theorem sampleRules_timely (clock : Unit) {moment : Datetime}
    (early : moment.micros ≤ (sampleRules.now ()).1.micros) : sampleRules.Timely clock moment := by
  intro readings
  have early : moment.micros ≤ (sampleRules.now ()).1.micros + BaseEvent.maxClockSkew := by
    simp only [BaseEvent.maxClockSkew, microsPerSecond]
    omega
  exact BaseEvent.checkClockSkew_eq_ok.mpr
    ⟨(by decide : (sampleRules.now ()).1.micros + BaseEvent.maxClockSkew ≤ maxMicros), early⟩

theorem sampleArrivals_buildable (lastStore : String) :
    BuildableRun sampleDetector sampleRules () (sampleArrivals lastStore) := by
  intro before event after split
  have member : .device event ∈ sampleArrivals lastStore := by
    rw [split]
    exact List.mem_append_right before List.mem_cons_self
  simp only [sampleArrivals, List.mem_cons, reduceCtorEq, Arrival.device.injEq, false_or,
    List.not_mem_nil, or_false] at member
  rcases member with rfl | rfl
  · exact ⟨rfl, by decide, sampleRules_timely _ (by decide)⟩
  · exact ⟨rfl, by decide, sampleRules_timely _ (by decide)⟩

theorem agrees_iff_keepsStores_sample :
    (∀ before after, sampleArrivals "store-1" = before ++ after →
        Agrees (run sampleDetector sampleRules () before)) ↔
      KeepsStores sampleDetector sampleRules () (sampleArrivals "store-1") :=
  agrees_iff_keepsStores (fun _ => rfl) () _ (sampleArrivals_buildable "store-1")

/-- Moved while it is offline, the device stays listed at the store it left. -/
theorem moved_device_stays_listed :
    ∃ arrivals, BuildableRun sampleDetector sampleRules () arrivals ∧
      ¬ Agrees (run sampleDetector sampleRules () arrivals) := by
  refine ⟨sampleArrivals "store-2", sampleArrivals_buildable "store-2", fun agrees => ?_⟩
  have ids : (OfflineCountProjection.offlineDeviceIds
      (run sampleDetector sampleRules () (sampleArrivals "store-2")).store "store-1").toOption.map
        SortedSet.items = some [firstDevice.text] := by decide +kernel
  have moved : (run sampleDetector sampleRules () (sampleArrivals "store-2")).registry.storeFor
      firstDevice = some "store-2" := by decide +kernel
  have listed := listed_of_items ids (List.mem_singleton_self _)
  rw [agrees.listed_at firstDevice "store-1" listed] at moved
  exact absurd moved (by decide)

end Samples

end OfflineDashboard

end SignalForge
