import SignalForge.OfflineDetectorRun
import SignalForge.ProjectionFolds

/-! Detections delivered to the offline count and the active outages over a channel that delivers
some of them again. -/

set_option autoImplicit false

namespace SignalForge.ProjectionRedelivery

open Delivery (delivered firstCopies AtLeastOnce)
open PointWrite (Writes)

/-- Each detection offered to both projections in turn. -/
def deliver (detections : List DetectionEvent) : ProjectionStore :=
  routeDetections [OfflineCountProjection.observe, ActiveOutageProjection.observe] detections .empty

/-- The offline devices of every store and the stores in outage are the same. -/
structure SameViews (left right : ProjectionStore) : Prop where
  offline : ∀ storeId, OfflineCountProjection.offlineDeviceIds left storeId =
    OfflineCountProjection.offlineDeviceIds right storeId
  outage : ActiveOutageProjection.storesInOutage left = ActiveOutageProjection.storesInOutage right

def offer (store : ProjectionStore) (detection : DetectionEvent) : ProjectionStore :=
  (ActiveOutageProjection.observe detection (OfflineCountProjection.observe detection store).2).2

/-- The stores in outage, whatever the time kept with them. -/
def inOutage (store : ProjectionStore) (storeId : String) : Option Unit :=
  (store.get ActiveOutageProjection.view storeId).map fun _ => ()

/-- What a detection says of a store: that it is in outage, or that it is not. -/
def outageChange (detection : DetectionEvent) : Option (PointWrite String Unit) :=
  (ActiveOutageProjection.writeOf detection).map fun write =>
    ⟨write.key, write.value.map fun _ => ()⟩

/-- What a detection says of a device at a store: that it is offline, or that it is not. -/
def offlineChange (detection : DetectionEvent) : Option (PointWrite (String × Str) Unit) :=
  OfflineCountProjection.writeOf detection

theorem offer_writes_offline :
    Writes offer (KeepsIds OfflineCountProjection.view) (heldIds OfflineCountProjection.view)
      offlineChange := by
  have untouched : ∀ (store : ProjectionStore) (detection : DetectionEvent) key,
      (ActiveOutageProjection.observe detection store).2.get OfflineCountProjection.view key =
        store.get OfflineCountProjection.view key :=
    fun store detection key => ActiveOutageProjection.observe_other detection store (by decide) key
  apply OfflineCountProjection.observe_writes.before fun store detection =>
    (ActiveOutageProjection.observe detection store).2
  · intro store detection keeps key
    rw [untouched]
    exact keeps key
  · intro store detection _
    funext held
    rw [heldIds, heldIds, idsAt_congr (untouched store detection held.1)]

theorem offer_writes_outage :
    Writes offer (KeepsIds OfflineCountProjection.view) inOutage outageChange := by
  have untouched : ∀ {store : ProjectionStore} (detection : DetectionEvent),
      KeepsIds OfflineCountProjection.view store → ∀ key,
        (OfflineCountProjection.observe detection store).2.get ActiveOutageProjection.view key =
          store.get ActiveOutageProjection.view key :=
    fun detection keeps key => OfflineCountProjection.observe_other detection keeps (by decide) key
  have presence := ActiveOutageProjection.observe_writes.mapValue fun _ => ()
  refine ⟨offer_writes_offline.kept_step, ?_, ?_⟩
  · intro store detection keeps silent
    refine (presence.none_step trivial silent).trans ?_
    funext key
    rw [inOutage, untouched detection keeps]
  · intro store detection write keeps written
    refine (presence.some_step trivial written).trans ?_
    congr 1
    funext key
    rw [inOutage, untouched detection keeps]

theorem deliver_keeps (detections : List DetectionEvent) :
    KeepsIds OfflineCountProjection.view (deliver detections) :=
  offer_writes_offline.kept_fold (keepsIds_empty _) detections

theorem heldIds_deliver (detections : List DetectionEvent) :
    heldIds OfflineCountProjection.view (deliver detections) =
      Delivery.viewOf offlineChange detections :=
  offer_writes_offline.view_fold (keepsIds_empty _) detections

theorem inOutage_deliver (detections : List DetectionEvent) :
    inOutage (deliver detections) = Delivery.viewOf outageChange detections :=
  offer_writes_outage.view_fold (keepsIds_empty _) detections

theorem offline_congr {left right : ProjectionStore}
    (keepsLeft : KeepsIds OfflineCountProjection.view left)
    (keepsRight : KeepsIds OfflineCountProjection.view right) :
    (∀ storeId, OfflineCountProjection.offlineDeviceIds left storeId =
        OfflineCountProjection.offlineDeviceIds right storeId) ↔
      heldIds OfflineCountProjection.view left = heldIds OfflineCountProjection.view right := by
  have loadedLeft : ∀ storeId, OfflineCountProjection.offlineDeviceIds left storeId =
      .ok (idsAt OfflineCountProjection.view left storeId) := keepsLeft.load
  have loadedRight : ∀ storeId, OfflineCountProjection.offlineDeviceIds right storeId =
      .ok (idsAt OfflineCountProjection.view right storeId) := keepsRight.load
  constructor
  · intro same
    funext ⟨storeId, id⟩
    have ids := same storeId
    rw [loadedLeft, loadedRight, Except.ok.injEq] at ids
    rw [heldIds, heldIds, ids]
  · intro same storeId
    have raw := keepsRight.get_congr keepsLeft same storeId
    rw [loadedLeft, loadedRight, idsAt_congr raw]

theorem outage_congr {left right : ProjectionStore} :
    ActiveOutageProjection.storesInOutage left = ActiveOutageProjection.storesInOutage right ↔
      inOutage left = inOutage right := by
  constructor
  · intro same
    funext storeId
    have listed : (left.get ActiveOutageProjection.view storeId).isSome =
        (right.get ActiveOutageProjection.view storeId).isSome := by
      rw [Bool.eq_iff_iff, ← ProjectionStore.mem_keys, ← ProjectionStore.mem_keys]
      exact iff_of_eq (congrArg (storeId ∈ ·) same)
    rw [inOutage, inOutage]
    cases foundLeft : left.get ActiveOutageProjection.view storeId <;>
      cases foundRight : right.get ActiveOutageProjection.view storeId <;>
      simp_all
  · intro same
    apply ProjectionStore.keys_eq (ProjectionStore.keys_ascending ..) (ProjectionStore.keys_nodup ..)
    intro storeId
    have here := congrArg Option.isSome (congrFun same storeId)
    simp only [inOutage, Option.isSome_map] at here
    exact (ProjectionStore.mem_keys ..).trans (iff_of_eq (congrArg (· = true) here.symm))

theorem sameViews_iff (left right : List DetectionEvent) :
    SameViews (deliver left) (deliver right) ↔
      Delivery.viewOf offlineChange left = Delivery.viewOf offlineChange right ∧
        Delivery.viewOf outageChange left = Delivery.viewOf outageChange right := by
  rw [← heldIds_deliver, ← heldIds_deliver, ← inOutage_deliver, ← inOutage_deliver,
    ← offline_congr (deliver_keeps left) (deliver_keeps right), ← outage_congr]
  exact ⟨fun same => ⟨same.offline, same.outage⟩, fun same => ⟨same.1, same.2⟩⟩

/-- What the detection says of a device or a store is what the newest first copy about that device
or store says. -/
structure UpToDate (firsts : List DetectionEvent) (detection : DetectionEvent) : Prop where
  offline : Delivery.Current offlineChange firsts detection
  outage : Delivery.Current outageChange firsts detection

/-- After every delivery both views are those of the first copies alone exactly when every detection
delivered again still says what is newest about its device or store. -/
theorem redelivery_iff (history : List (Delivery DetectionEvent)) (channel : AtLeastOnce history) :
    (∀ before after, history = before ++ after →
        SameViews (deliver (delivered before)) (deliver (firstCopies before))) ↔
      ∀ before detection after, history = before ++ .again detection :: after →
        UpToDate (firstCopies before) detection := by
  have offline := Delivery.view_of_firsts_iff offlineChange history
  have outage := Delivery.view_of_firsts_iff outageChange history
  simp only [sameViews_iff]
  constructor
  · intro same before detection after split
    have known := channel before detection after split
    have offlineHere := offline.mp (fun front back located => (same front back located).1)
    have outageHere := outage.mp (fun front back located => (same front back located).2)
    exact ⟨(Delivery.absorbed_iff_current known).mp (offlineHere before detection after split),
      (Delivery.absorbed_iff_current known).mp (outageHere before detection after split)⟩
  · intro upToDate before after split
    constructor
    · refine offline.mpr (fun front detection back located => ?_) before after split
      exact (Delivery.absorbed_iff_current (channel front detection back located)).mpr
        (upToDate front detection back located).offline
    · refine outage.mpr (fun front detection back located => ?_) before after split
      exact (Delivery.absorbed_iff_current (channel front detection back located)).mpr
        (upToDate front detection back located).outage

section Samples

open OfflineDetector (sampleDetector sampleRules sampleEvent secondOfDay_lt firstDevice secondDevice)

/-- The first device goes silent for 400 seconds and then reports again. -/
def sampleDetections : List DetectionEvent :=
  Call.answered (OfflineDetector.observeAll sampleDetector sampleRules
    [sampleEvent 1 firstDevice 0 (secondOfDay_lt 0),
      sampleEvent 2 secondDevice 400 (secondOfDay_lt 400),
      sampleEvent 3 firstDevice 500 (secondOfDay_lt 500)]) ⟨.initial, ()⟩

theorem sampleDetections_types :
    sampleDetections.map (fun detection => detection.payload.detectionType) =
      [detectionTypeDeviceOffline, detectionTypeDeviceOnline] := by decide +kernel

theorem sampleDetections_ne_nil : sampleDetections ≠ [] := by
  intro none
  have types := sampleDetections_types
  rw [none] at types
  cases types

/-- Both detections are delivered, and one of them once more. -/
def sampleHistory (again : DetectionEvent) : List (Delivery DetectionEvent) :=
  sampleDetections.map .first ++ [.again again]

theorem sampleHistory_channel {detection : DetectionEvent} (member : detection ∈ sampleDetections) :
    AtLeastOnce (sampleHistory detection) := by
  apply (Delivery.atLeastOnce_firsts sampleDetections).again
  rwa [Delivery.firstCopies_firsts]

theorem redelivery_iff_sample :
    (∀ before after,
        sampleHistory (sampleDetections.getLast sampleDetections_ne_nil) = before ++ after →
          SameViews (deliver (delivered before)) (deliver (firstCopies before))) ↔
      ∀ before detection after,
        sampleHistory (sampleDetections.getLast sampleDetections_ne_nil) =
            before ++ .again detection :: after →
          UpToDate (firstCopies before) detection :=
  redelivery_iff _ (sampleHistory_channel (List.getLast_mem _))

/-- A second copy of the offline detection, after the device came back, has it offline again. -/
theorem late_copy_reverts :
    ∃ history, AtLeastOnce history ∧
      ¬ SameViews (deliver (delivered history)) (deliver (firstCopies history)) := by
  refine ⟨sampleHistory (sampleDetections.head sampleDetections_ne_nil),
    sampleHistory_channel (List.head_mem _), fun same => ?_⟩
  have ids := congrArg (fun ids => ids.toOption.map SortedSet.items) (same.offline "store-1")
  exact absurd ids (by decide +kernel)

end Samples

end SignalForge.ProjectionRedelivery
