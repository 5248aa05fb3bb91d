import SignalForge.Binary64
import SignalForge.Detections
import SignalForge.ProjectionStore

/-! The dashboard projections: the offline devices of each store, the stores in outage, and the
anomalies of each signal in each minute. Each folds detections into views of a store. -/

set_option autoImplicit false

namespace SignalForge

/-- The text of a UUID stands in JSON as it is. -/
theorem plain_text (id : Uuid) : JsonArray.Plain id.text := by
  intro c member
  have digits : ∀ digit < 16, Nat.digitChar digit ≠ '"' ∧ Nat.digitChar digit ≠ '\\' ∧
      32 ≤ (Nat.digitChar digit).toNat := by decide
  rcases Uuid.mem_text member with rfl | ⟨digit, inside, rfl⟩
  · decide
  · exact digits digit inside

/-- The ids a raw value holds; none where there is no value. -/
def loadIds (raw : Option String) : Except Raised (SortedSet Str) :=
  match raw with
  | none => .ok .empty
  | some text => (JsonArray.loads text).map SortedSet.ofList

/-- `json.dumps(sorted(ids))`. -/
def dumpIds (ids : SortedSet Str) : String := JsonArray.dumps ids.items

namespace OfflineCountProjection

def view : String := "offline_count"

def load (store : ProjectionStore) (storeId : String) : Except Raised (SortedSet Str) :=
  loadIds (store.get view storeId)

/-- The last offline device gone, its store's key is dropped. -/
def save (storeId : String) (offline : SortedSet Str) (store : ProjectionStore) : ProjectionStore :=
  if offline.items = [] then store.delete view storeId
  else store.put view storeId (dumpIds offline)

/-- The store and the device a detection is about, with whether it went offline. -/
def transition (detection : DetectionEvent) : Option (String × Uuid × Bool) :=
  let payload := detection.payload
  if payload.detectionType = detectionTypeDeviceOffline ∨
      payload.detectionType = detectionTypeDeviceOnline then
    payload.deviceId.map fun deviceId =>
      (payload.storeId, deviceId, payload.detectionType = detectionTypeDeviceOffline)
  else none

def mark (deviceId : Uuid) (wentOffline : Bool) (offline : SortedSet Str) : SortedSet Str :=
  if wentOffline then offline.insert deviceId.text else offline.erase deviceId.text

def observe (detection : DetectionEvent) : Call Raised ProjectionStore Unit :=
  match transition detection with
  | none => pure ()
  | some (storeId, deviceId, wentOffline) => do
      let store ← Call.read id
      let offline ← Call.lift (load store storeId)
      Call.write (save storeId (mark deviceId wentOffline offline))

def offlineDeviceIds (store : ProjectionStore) (storeId : String) : Except Raised (SortedSet Str) :=
  load store storeId

def offlineCount (store : ProjectionStore) (storeId : String) : Except Raised Nat :=
  (load store storeId).map fun offline => offline.items.length

def storesWithOffline (store : ProjectionStore) : List String := store.keys view

end OfflineCountProjection

namespace ActiveOutageProjection

def view : String := "active_outage"

def observe (detection : DetectionEvent) : Call Raised ProjectionStore Unit :=
  let payload := detection.payload
  if payload.detectionType = detectionTypeStoreOutage then
    Call.write fun store => store.put view payload.storeId (payload.detectedAt.isoformat "T")
  else if payload.detectionType = detectionTypeStoreRecovered then
    Call.write fun store => store.delete view payload.storeId
  else pure ()

def storesInOutage (store : ProjectionStore) : List String := store.keys view

def activeOutageCount (store : ProjectionStore) : Nat := (store.keys view).length

def isInOutage (store : ProjectionStore) (storeId : String) : Bool :=
  (store.get view storeId).isSome

end ActiveOutageProjection

namespace AnomalyRateProjection

def view : String := "anomaly_rate"

def bucketSeconds : Int := 60

/-- The minute a moment falls in, its timestamp and that over 60 rounded by `round`. -/
def bucketStartBy (round : ℚ → ℚ) (moment : Datetime) : Except Raised Datetime :=
  let timestamp := round (moment.micros / microsPerSecond)
  let floored := ⌊round (timestamp / bucketSeconds)⌋ * bucketSeconds
  match Instant.ofMicros (floored * microsPerSecond) with
  | .ok instant => .ok (.utc instant)
  | .error _ => .error (.valueError "year is out of range")

/-- The minute a moment falls in, by its timestamp as a double. -/
def bucketStart (moment : Datetime) : Except Raised Datetime := bucketStartBy Binary64.round moment

/-- `str(value)`. -/
def detailText (formatReal : Double → String) : Detail → String
  | .text value => value
  | .whole value => toString value
  | .real value => formatReal value
  | .flag value => if value then "True" else "False"

def key (signalName : String) (bucket : Datetime) : String :=
  signalName ++ "|" ++ bucket.isoformat "T"

/-- The key and the id an anomaly is kept under; `none` for any other detection. -/
def entryBy (round : ℚ → ℚ) (formatReal : Double → String) (detection : DetectionEvent) :
    Except Raised (Option (String × Uuid)) :=
  let payload := detection.payload
  if payload.detectionType ≠ detectionTypeSignalAnomaly then .ok none
  else match payload.details.get? "signal_name" with
    | none => .ok none
    | some signalName =>
        match bucketStartBy round payload.detectedAt with
        | .error reason => .error reason
        | .ok bucket =>
            .ok (some (key (detailText formatReal signalName) bucket, payload.detectionId))

def observeBy (round : ℚ → ℚ) (formatReal : Double → String) (detection : DetectionEvent) :
    Call Raised ProjectionStore Unit := do
  let kept ← Call.lift (entryBy round formatReal detection)
  match kept with
  | none => pure ()
  | some (key, detectionId) =>
      let store ← Call.read id
      let ids ← Call.lift (loadIds (store.get view key))
      Call.write fun store => store.put view key (dumpIds (ids.insert detectionId.text))

/-- `entryBy` with the timestamps as doubles. -/
def entry (formatReal : Double → String) (detection : DetectionEvent) :
    Except Raised (Option (String × Uuid)) := entryBy Binary64.round formatReal detection

def observe (formatReal : Double → String) (detection : DetectionEvent) :
    Call Raised ProjectionStore Unit := observeBy Binary64.round formatReal detection

end AnomalyRateProjection

/-- Every detection offered to every projection in turn; one that raises is skipped. -/
def routeDetections (projections : List (DetectionEvent → Call Raised ProjectionStore Unit))
    (detections : List DetectionEvent) (store : ProjectionStore) : ProjectionStore :=
  detections.foldl (fun store detection =>
    projections.foldl (fun store observe => (observe detection store).2) store) store

end SignalForge
