import SignalForge.DashboardProjections
import SignalForge.Unwinding

/-! The detections of a result routed to the dashboard projections: every detection is offered to
every projection, one that raises is logged and skipped, and the views do not tell on each other. -/

set_option autoImplicit false

namespace SignalForge

namespace ProjectionStore

/-- The values of one view by key. -/
def valuesOf (view : String) (store : ProjectionStore) (key : String) : Option String :=
  store.get view key

theorem valuesOf_put (store : ProjectionStore) (view key value other : String) :
    (store.put view key value).valuesOf other = fun named =>
      if other = view ∧ named = key then some value else store.valuesOf other named :=
  funext fun named => store.get_put view key value other named

theorem valuesOf_delete (store : ProjectionStore) (view key other : String) :
    (store.delete view key).valuesOf other = fun named =>
      if other = view ∧ named = key then none else store.valuesOf other named :=
  funext fun named => store.get_delete view key other named

theorem owned_put (view key value : String) :
    Call.Owned (fun other store => valuesOf other store) view
      (Call.write fun store => store.put view key value : Call Raised ProjectionStore Unit) := by
  refine Call.owned_write (fun other apart store => ?_) fun left right same => ?_
  · rw [valuesOf_put]
    exact funext fun named => if_neg fun both => apart both.1
  · simp only [valuesOf_put, same]

theorem owned_delete (view key : String) :
    Call.Owned (fun other store => valuesOf other store) view
      (Call.write fun store => store.delete view key : Call Raised ProjectionStore Unit) := by
  refine Call.owned_write (fun other apart store => ?_) fun left right same => ?_
  · rw [valuesOf_delete]
    exact funext fun named => if_neg fun both => apart both.1
  · simp only [valuesOf_delete, same]

/-- A read of one view, where what is done with it is about the view. -/
theorem owned_read_view {α β : Type} {view : String} (shown : ProjectionStore → α)
    (seen : ∀ left right : ProjectionStore, left.valuesOf view = right.valuesOf view →
      shown left = shown right) {next : α → Call Raised ProjectionStore β}
    (later : ∀ value, Call.Owned (fun other store => valuesOf other store) view (next value)) :
    Call.Owned (fun other store => valuesOf other store) view
      (Call.read id >>= fun store => next (shown store)) := by
  have same : (Call.read id >>= fun store => next (shown store) : Call Raised ProjectionStore β) =
      Call.read shown >>= next := rfl
  rw [same]
  exact (Call.owned_read seen).bind later

end ProjectionStore

/-- A projection of a class, which reads and writes the one view it is about. -/
structure DetectionProjection where
  className : String
  view : String
  observe : DetectionEvent → Call Raised ProjectionStore Unit
  owned : ∀ detection, Call.Owned (fun other store => ProjectionStore.valuesOf other store) view
    (observe detection)

theorem OfflineCountProjection.owned_observe (detection : DetectionEvent) :
    Call.Owned (fun other store => ProjectionStore.valuesOf other store) view
      (observe detection) := by
  rw [observe]
  cases transition detection with
  | none => exact Call.owned_pure ()
  | some subject =>
      obtain ⟨storeId, deviceId, wentOffline⟩ := subject
      refine ProjectionStore.owned_read_view (load · storeId) (fun left right same => ?_)
        fun loaded => (Call.owned_lift loaded).bind fun offline => ?_
      · exact congrArg loadIds (congrFun same storeId)
      · by_cases gone : (mark deviceId wentOffline offline).items = []
        · have deletes : save storeId (mark deviceId wentOffline offline) =
              fun store => store.delete view storeId := funext fun store => if_pos gone
          rw [deletes]
          exact ProjectionStore.owned_delete view storeId
        · have puts : save storeId (mark deviceId wentOffline offline) =
              fun store => store.put view storeId (dumpIds (mark deviceId wentOffline offline)) :=
            funext fun store => if_neg gone
          rw [puts]
          exact ProjectionStore.owned_put view storeId _

theorem ActiveOutageProjection.owned_observe (detection : DetectionEvent) :
    Call.Owned (fun other store => ProjectionStore.valuesOf other store) view
      (observe detection) := by
  simp only [observe]
  split
  · exact ProjectionStore.owned_put view _ _
  · split
    · exact ProjectionStore.owned_delete view _
    · exact Call.owned_pure ()

theorem AnomalyRateProjection.owned_observe (formatReal : Double → String)
    (detection : DetectionEvent) :
    Call.Owned (fun other store => ProjectionStore.valuesOf other store) view
      (observe formatReal detection) := by
  refine (Call.owned_lift _).bind fun kept => ?_
  rcases kept with _ | ⟨key, detectionId⟩
  · exact Call.owned_pure ()
  · refine ProjectionStore.owned_read_view (fun store => loadIds (store.get view key))
      (fun left right same => ?_) fun loaded => (Call.owned_lift loaded).bind fun ids => ?_
    · exact congrArg loadIds (congrFun same key)
    · exact ProjectionStore.owned_put view key _

namespace Dashboards

def offlineCount : DetectionProjection :=
  ⟨"OfflineCountProjection", OfflineCountProjection.view, OfflineCountProjection.observe,
    OfflineCountProjection.owned_observe⟩

def activeOutage : DetectionProjection :=
  ⟨"ActiveOutageProjection", ActiveOutageProjection.view, ActiveOutageProjection.observe,
    ActiveOutageProjection.owned_observe⟩

def anomalyRate (formatReal : Double → String) : DetectionProjection :=
  ⟨"AnomalyRateProjection", AnomalyRateProjection.view, AnomalyRateProjection.observe formatReal,
    AnomalyRateProjection.owned_observe formatReal⟩

/-- `dashboards.projection_error`, with the trace and the metadata logged. -/
structure ProjectionError where
  traceId : Option Uuid
  eventId : String
  detectionId : Uuid
  detectionType : String
  projection : String
  exception : Raised
  deriving DecidableEq

/-- The store and the lines logged. -/
structure State where
  store : ProjectionStore
  errors : List ProjectionError

/-- A detection of the result of an event, offered to a projection. -/
structure Offer where
  eventId : String
  detection : DetectionEvent
  projection : DetectionProjection

namespace Offer

/-- The offer as a step on the store. -/
def observe (offer : Offer) : Call Raised ProjectionStore Unit :=
  offer.projection.observe offer.detection

def error (offer : Offer) (reason : Raised) : ProjectionError where
  traceId := offer.detection.traceId
  eventId := offer.eventId
  detectionId := offer.detection.payload.detectionId
  detectionType := offer.detection.payload.detectionType
  projection := offer.projection.className
  exception := reason

/-- The line logged for what an offer came to. -/
def error? : Offer × Except Raised Unit → Option ProjectionError
  | (_, .ok ()) => none
  | (offer, .error reason) => some (offer.error reason)

end Offer

section

variable {ρ : Type} (strict : Bool) (projections : List DetectionProjection)

/-- `projection.observe(detection)` in its bulkhead. -/
def offer (offered : Offer) : Call Raised State Unit :=
  Call.catching (Call.zoom State.store (fun state store => { state with store }) offered.observe)
    fun reason => do
      Call.write fun state => { state with errors := state.errors ++ [offered.error reason] }
      if strict then Call.raise reason else pure ()

def offerAll : List Offer → Call Raised State Unit
  | [] => pure ()
  | offered :: rest => do
      offer strict offered
      offerAll rest

/-- Every detection of a result to every projection in turn. -/
def offers (result : ProcessingResult ρ) : List Offer :=
  result.detections.flatMap fun detection => projections.map fun projection =>
    ⟨result.eventId, detection, projection⟩

/-- `route_detections(result, projections, strict=strict)`. -/
def routeDetections (result : ProcessingResult ρ) : Call Raised State Unit :=
  offerAll strict (offers projections result)

/-- The results of a batch, routed one after the other. -/
def routeResults : List (ProcessingResult ρ) → Call Raised State Unit
  | [] => pure ()
  | result :: rest => do
      routeDetections strict projections result
      routeResults rest

end

theorem offer_eq (offered : Offer) (state : State) :
    offer false offered state =
      (.ok (), ⟨(offered.observe state.store).2,
        state.errors ++ (Offer.error? (offered, (offered.observe state.store).1)).toList⟩) := by
  rw [offer, Call.catching, Call.zoom]
  rcases offered.observe state.store with ⟨reason | ⟨⟩, after⟩
  · rfl
  · exact congrArg (fun errors => (Except.ok (), State.mk after errors)) (List.append_nil _).symm

/-- Outside strict mode every offer is made, whatever the ones before it came to. -/
theorem offerAll_eq (offered : List Offer) (state : State) :
    offerAll false offered state =
      (.ok (), ⟨(Call.outcomes Offer.observe offered state.store).2, state.errors ++
        (Call.outcomes Offer.observe offered state.store).1.filterMap Offer.error?⟩) := by
  induction offered generalizing state with
  | nil => rw [offerAll, Call.pure_apply, Call.outcomes, List.filterMap_nil, List.append_nil]
  | cons first rest ih =>
      rw [offerAll, Call.bind_of_ok (offer_eq first state), ih, Call.outcomes, List.append_assoc]
      rcases line : Offer.error? (first, (first.observe state.store).1) with _ | error
      · rw [List.filterMap_cons_none line]
        rfl
      · rw [List.filterMap_cons_some line]
        rfl

theorem offerAll_append (strict : Bool) (first second : List Offer) :
    offerAll strict (first ++ second) = (do
      offerAll strict first
      offerAll strict second) := by
  induction first with
  | nil => rfl
  | cons offered rest ih =>
      rw [List.cons_append, offerAll, offerAll, ih, Call.bind_assoc]

theorem outcomes_store (offered : List Offer) (store : ProjectionStore) :
    (Call.outcomes Offer.observe offered store).2 =
      offered.foldl (fun store offer => (offer.observe store).2) store := by
  induction offered generalizing store with
  | nil => rfl
  | cons first rest ih => rw [Call.outcomes, ih, List.foldl_cons]

/-- The store is that of the fold over the detections and the projections. -/
theorem routeDetections_store {ρ : Type} (projections : List DetectionProjection)
    (result : ProcessingResult ρ) (state : State) :
    (routeDetections false projections result state).2.store =
      SignalForge.routeDetections (projections.map DetectionProjection.observe) result.detections
        state.store := by
  rw [routeDetections, offerAll_eq, SignalForge.routeDetections]
  show (Call.outcomes Offer.observe (offers projections result) state.store).2 = _
  simp only [outcomes_store, offers, List.foldl_flatMap, List.foldl_map]
  rfl

section

variable {ρ : Type} (projections : List DetectionProjection) (results : List (ProcessingResult ρ))

theorem routeResults_eq (strict : Bool) :
    routeResults strict projections results =
      offerAll strict (results.flatMap (offers projections)) := by
  induction results with
  | nil => rfl
  | cons result rest ih =>
      rw [routeResults, List.flatMap_cons, offerAll_append, ih, routeDetections]

theorem filter_offers (view : String) :
    (results.flatMap (offers projections)).filter (fun offered => offered.projection.view = view) =
      results.flatMap (offers (projections.filter fun projection => projection.view = view)) := by
  rw [List.filter_flatMap]
  congr 1
  funext result
  rw [offers, offers, List.filter_flatMap]
  congr 1
  funext detection
  rw [List.filter_map]
  rfl

/-- What a run makes of a view, its own projections make of it alone, and whatever is logged about
them then is logged in the run, in that order: the other projections may do as they please. -/
theorem routeResults_isolated (view : String) (state : State) :
    ∃ final own,
      routeResults false projections results state = (.ok (), final) ∧
        routeResults false (projections.filter fun projection => projection.view = view) results
          state = (.ok (), own) ∧
        final.store.valuesOf view = own.store.valuesOf view ∧
        own.errors.Sublist final.errors := by
  have owned : ∀ offered : Offer, Call.Owned (fun view store => ProjectionStore.valuesOf view store)
      offered.projection.view offered.observe := fun offered =>
    offered.projection.owned offered.detection
  obtain ⟨outcomes, values⟩ := Call.outcomes_own owned view (results.flatMap (offers projections))
    (rfl : state.store.valuesOf view = state.store.valuesOf view)
  rw [filter_offers] at outcomes values
  refine ⟨_, _, (routeResults_eq ..).symm ▸ offerAll_eq .., (routeResults_eq ..).symm ▸ offerAll_eq ..,
    values, ?_⟩
  rw [← outcomes]
  exact (List.filter_sublist.filterMap _).append_left _

end

end Dashboards

end SignalForge
