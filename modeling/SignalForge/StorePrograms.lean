import SignalForge.DynamoDbProjectionStore
import SignalForge.OperationPrograms

/-! The dashboards written against the store protocol: what the projections do with a detection, and
what is read of their views, as programs over the operations of a store. -/

set_option autoImplicit false

namespace SignalForge

abbrev StoreProgram (α : Type) : Type := OpProgram Raised StoreOp StoreAnswer α

namespace StoreProgram

variable {α β : Type}

def getting (view key : String) (next : Option String → StoreProgram α) : StoreProgram α :=
  .call (.get view key) fun
    | .found value => next value
    | _ => next none

def listing (view : String) (next : List String → StoreProgram α) : StoreProgram α :=
  .call (.keys view) fun
    | .listed keys => next keys
    | _ => next []

def putting (view key value : String) (result : α) : StoreProgram α :=
  .call (.put view key value) fun _ => .done result

def deleting (view key : String) (result : α) : StoreProgram α :=
  .call (.delete view key) fun _ => .done result

/-- A computation that needs no store. -/
def lifted (result : Except Raised β) (next : β → StoreProgram α) : StoreProgram α :=
  match result with
  | .error reason => .raise reason
  | .ok value => next value

/-- Over the dictionaries of `InMemoryProjectionStore`. -/
def inMemory (operation : StoreOp) (store : ProjectionStore) : StoreAnswer × ProjectionStore :=
  operation.inMemory store

variable (store : ProjectionStore)

@[simp] theorem evaluate_getting (view key : String) (next : Option String → StoreProgram α) :
    (getting view key next).evaluate inMemory store =
      (next (store.get view key)).evaluate inMemory store := rfl

@[simp] theorem evaluate_listing (view : String) (next : List String → StoreProgram α) :
    (listing view next).evaluate inMemory store =
      (next (store.keys view)).evaluate inMemory store := rfl

@[simp] theorem evaluate_putting (view key value : String) (result : α) :
    (putting view key value result).evaluate inMemory store =
      (.ok result, store.put view key value) := rfl

@[simp] theorem evaluate_deleting (view key : String) (result : α) :
    (deleting view key result).evaluate inMemory store =
      (.ok result, store.delete view key) := rfl

@[simp] theorem evaluate_done (value : α) :
    (OpProgram.done value : StoreProgram α).evaluate inMemory store = (.ok value, store) := rfl

@[simp] theorem evaluate_raise (reason : Raised) :
    (OpProgram.raise reason : StoreProgram α).evaluate inMemory store = (.error reason, store) := rfl

section

variable {allowed : StoreOp → Prop}

theorem issues_getting {view key : String} {next : Option String → StoreProgram α}
    (here : allowed (.get view key)) (later : ∀ value, (next value).Issues allowed) :
    (getting view key next).Issues allowed := by
  refine ⟨here, fun answer => ?_⟩
  cases answer with
  | found value => exact later value
  | done => exact later none
  | listed keys => exact later none

theorem issues_listing {view : String} {next : List String → StoreProgram α}
    (here : allowed (.keys view)) (later : ∀ keys, (next keys).Issues allowed) :
    (listing view next).Issues allowed := by
  refine ⟨here, fun answer => ?_⟩
  cases answer with
  | found value => exact later []
  | done => exact later []
  | listed keys => exact later keys

theorem issues_lifted {result : Except Raised β} {next : β → StoreProgram α}
    (later : ∀ value, result = .ok value → (next value).Issues allowed) :
    (lifted result next).Issues allowed := by
  cases result with
  | error reason => trivial
  | ok value => exact later value rfl

end

end StoreProgram

open StoreProgram

namespace OfflineCountProjection

/-- `_load` in front of what is done with the ids. -/
def loading {α : Type} (storeId : String) (next : SortedSet Str → StoreProgram α) :
    StoreProgram α :=
  getting view storeId fun raw => lifted (loadIds raw) next

/-- `_save`. -/
def saving (storeId : String) (offline : SortedSet Str) : StoreProgram Unit :=
  if offline.items = [] then deleting view storeId () else putting view storeId (dumpIds offline) ()

def observeProgram (detection : DetectionEvent) : StoreProgram Unit :=
  match transition detection with
  | none => .done ()
  | some (storeId, deviceId, wentOffline) =>
      loading storeId fun offline => saving storeId (mark deviceId wentOffline offline)

theorem evaluate_saving (storeId : String) (offline : SortedSet Str) (store : ProjectionStore) :
    (saving storeId offline).evaluate inMemory store = (.ok (), save storeId offline store) := by
  rw [saving, save]
  by_cases gone : offline.items = []
  · rw [if_pos gone, if_pos gone, evaluate_deleting]
  · rw [if_neg gone, if_neg gone, evaluate_putting]

theorem evaluate_loading {α : Type} (storeId : String) (next : SortedSet Str → StoreProgram α)
    (store : ProjectionStore) :
    (loading storeId next).evaluate inMemory store =
      match load store storeId with
      | .error reason => (.error reason, store)
      | .ok offline => (next offline).evaluate inMemory store := by
  rw [loading, evaluate_getting, load]
  cases loadIds (store.get view storeId) with
  | error reason => rfl
  | ok offline => rfl

theorem evaluate_observeProgram (detection : DetectionEvent) (store : ProjectionStore) :
    (observeProgram detection).evaluate inMemory store = observe detection store := by
  rw [observeProgram, observe]
  rcases transition detection with _ | ⟨storeId, deviceId, wentOffline⟩
  · rfl
  · simp only [evaluate_loading, Call.bind_apply, Call.read_apply, Call.lift_apply, id_eq]
    cases load store storeId with
    | error reason => rfl
    | ok offline => exact evaluate_saving storeId _ store

end OfflineCountProjection

namespace ActiveOutageProjection

def observeProgram (detection : DetectionEvent) : StoreProgram Unit :=
  let payload := detection.payload
  if payload.detectionType = detectionTypeStoreOutage then
    putting view payload.storeId (payload.detectedAt.isoformat "T") ()
  else if payload.detectionType = detectionTypeStoreRecovered then
    deleting view payload.storeId ()
  else .done ()

theorem evaluate_observeProgram (detection : DetectionEvent) (store : ProjectionStore) :
    (observeProgram detection).evaluate inMemory store = observe detection store := by
  simp only [observeProgram, observe]
  split
  · rfl
  · split <;> rfl

end ActiveOutageProjection

namespace AnomalyRateProjection

def observeProgram (formatReal : Double → String) (detection : DetectionEvent) :
    StoreProgram Unit :=
  lifted (entry formatReal detection) fun kept =>
    match kept with
    | none => .done ()
    | some (key, detectionId) =>
        getting view key fun raw => lifted (loadIds raw) fun ids =>
          putting view key (dumpIds (ids.insert detectionId.text)) ()

theorem evaluate_observeProgram (formatReal : Double → String) (detection : DetectionEvent)
    (store : ProjectionStore) :
    (observeProgram formatReal detection).evaluate inMemory store =
      observe formatReal detection store := by
  rw [observeProgram, observe, observeBy, ← entry]
  rcases entry formatReal detection with reason | _ | ⟨key, detectionId⟩
  · rfl
  · rfl
  · simp only [lifted, evaluate_getting, Call.bind_apply, Call.lift_apply, Call.read_apply, id_eq]
    cases loadIds (store.get view key) with
    | error reason => rfl
    | ok ids => rfl

/-- `len(json.loads(raw))` of what was read, where something was. -/
def kept (raw : Option String) : Except Raised Nat :=
  match raw with
  | none => .ok 0
  | some raw => (JsonArray.loads raw).map List.length

/-- The loop of `count_in_window`; `none` where its turns run out. -/
def countFromProgram (signalName : String) (asOf : Datetime) :
    Nat → Datetime → Nat → StoreProgram (Option Nat)
  | 0, _, _ => .done none
  | turns + 1, bucket, total =>
      if bucket.micros < asOf.micros then
        getting view (key signalName bucket) fun raw =>
          lifted (kept raw) fun count =>
            lifted (bucket.add bucketMicros) fun next =>
              countFromProgram signalName asOf turns next (total + count)
      else .done (some total)

def countInWindowProgram (signalName : String) (asOf : Datetime) (windowSeconds : Int)
    (turns : Nat) : StoreProgram (Option Nat) :=
  lifted (firstBucket Binary64.round asOf windowSeconds) fun bucket =>
    countFromProgram signalName asOf turns bucket 0

/-- What a loop came to; `none` where its turns ran out. -/
def outcome : Option (Except Raised Nat) → Except Raised (Option Nat)
  | none => .ok none
  | some counted => counted.map some

theorem evaluate_countFromProgram (signalName : String) (asOf : Datetime) (store : ProjectionStore)
    (turns : Nat) : ∀ (bucket : Datetime) (total : Nat),
      (countFromProgram signalName asOf turns bucket total).evaluate inMemory store =
        (outcome (countFrom store signalName asOf turns bucket total), store) := by
  induction turns with
  | zero => exact fun _ _ => rfl
  | succ turns ih =>
      intro bucket total
      rw [countFromProgram, countFrom]
      by_cases before : bucket.micros < asOf.micros
      · have same : keptIn store (key signalName bucket) =
            kept (store.get view (key signalName bucket)) := rfl
        rw [if_pos before, if_pos before, evaluate_getting, same]
        cases kept (store.get view (key signalName bucket)) with
        | error reason => rfl
        | ok count =>
            cases stepped : bucket.add bucketMicros with
            | error reason => simp only [lifted, evaluate_raise, outcome, Except.map]
            | ok next => exact ih next (total + count)
      · rw [if_neg before, if_neg before]
        rfl

theorem evaluate_countInWindowProgram (signalName : String) (asOf : Datetime) (windowSeconds : Int)
    (turns : Nat) (store : ProjectionStore) :
    (countInWindowProgram signalName asOf windowSeconds turns).evaluate inMemory store =
      (outcome (countInWindow Binary64.round store signalName asOf windowSeconds turns), store) := by
  rw [countInWindowProgram, countInWindow]
  cases firstBucket Binary64.round asOf windowSeconds with
  | error reason => rfl
  | ok bucket => exact evaluate_countFromProgram signalName asOf store turns bucket 0

end AnomalyRateProjection

/-- What a projection does with a detection. -/
def Projection.observeProgram (formatReal : Double → String) :
    Projection → DetectionEvent → StoreProgram Unit
  | .offlineCount => OfflineCountProjection.observeProgram
  | .activeOutage => ActiveOutageProjection.observeProgram
  | .anomalyRate => AnomalyRateProjection.observeProgram formatReal

theorem Projection.evaluate_observeProgram (formatReal : Double → String) (projection : Projection)
    (detection : DetectionEvent) (store : ProjectionStore) :
    (projection.observeProgram formatReal detection).evaluate inMemory store =
      projection.observe formatReal detection store := by
  cases projection with
  | offlineCount => exact OfflineCountProjection.evaluate_observeProgram detection store
  | activeOutage => exact ActiveOutageProjection.evaluate_observeProgram detection store
  | anomalyRate => exact AnomalyRateProjection.evaluate_observeProgram formatReal detection store

end SignalForge
