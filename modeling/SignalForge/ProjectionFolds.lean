import SignalForge.DashboardProjections
import SignalForge.PointWrites

/-! What the folds of the projections amount to: point writes on the ids, or on the stores, that
a view of the store holds. -/

set_option autoImplicit false

namespace SignalForge

def plainIds (ids : SortedSet Str) : Prop := ∀ id ∈ ids.items, JsonArray.Plain id

/-- The raw value that keeps a set of ids; an empty set has none. -/
def stored (ids : SortedSet Str) : Option String :=
  if ids.items = [] then none else some (dumpIds ids)

theorem loadIds_dumpIds {ids : SortedSet Str} (plain : plainIds ids) :
    loadIds (some (dumpIds ids)) = .ok ids := by
  simp only [loadIds, dumpIds, JsonArray.loads_dumps plain, Except.map, SortedSet.ofList_items]

theorem loadIds_stored {ids : SortedSet Str} (plain : plainIds ids) :
    loadIds (stored ids) = .ok ids := by
  rw [stored]
  split
  · rename_i none
    have nothing : ids = .empty := by
      ext id
      simp only [SortedSet.mem_def, none, List.not_mem_nil, SortedSet.empty]
    rw [nothing]
    rfl
  · exact loadIds_dumpIds plain

theorem stored_insert (id : Str) (ids : SortedSet Str) :
    stored (ids.insert id) = some (dumpIds (ids.insert id)) := by
  rw [stored, if_neg]
  intro none
  exact (SortedSet.items_eq_nil_iff _).mp none id ((SortedSet.mem_insert ..).mpr (Or.inl rfl))

theorem plainIds_insert {id : Str} {ids : SortedSet Str} (here : JsonArray.Plain id)
    (plain : plainIds ids) : plainIds (ids.insert id) := by
  intro other member
  rcases (SortedSet.mem_insert ..).mp member with rfl | before
  · exact here
  · exact plain other before

theorem plainIds_erase {ids : SortedSet Str} (id : Str) (plain : plainIds ids) :
    plainIds (ids.erase id) :=
  fun other member => plain other ((SortedSet.mem_erase ..).mp member).1

/-- Every key of the view keeps a set of ids that stand in JSON as they are. -/
def KeepsIds (view : String) (store : ProjectionStore) : Prop :=
  ∀ key, ∃ ids, plainIds ids ∧ store.get view key = stored ids

/-- The ids a view keeps under a key. -/
def idsAt (view : String) (store : ProjectionStore) (key : String) : SortedSet Str :=
  match loadIds (store.get view key) with
  | .ok ids => ids
  | .error _ => .empty

/-- A view as the ids present under each key. -/
def heldIds (view : String) (store : ProjectionStore) (held : String × Str) : Option Unit :=
  if held.2 ∈ idsAt view store held.1 then some () else none

theorem idsAt_of_get {view : String} {store : ProjectionStore} {key : String} {ids : SortedSet Str}
    (plain : plainIds ids) (found : store.get view key = stored ids) : idsAt view store key = ids := by
  rw [idsAt, found, loadIds_stored plain]

theorem idsAt_congr {view : String} {store other : ProjectionStore} {key : String}
    (same : store.get view key = other.get view key) : idsAt view store key = idsAt view other key := by
  rw [idsAt, idsAt, same]

theorem keepsIds_empty (view : String) : KeepsIds view .empty :=
  fun _ => ⟨.empty, fun _ member => absurd member List.not_mem_nil, rfl⟩

namespace KeepsIds

variable {view : String} {store after : ProjectionStore}

theorem plain (keeps : KeepsIds view store) (key : String) : plainIds (idsAt view store key) := by
  obtain ⟨ids, plain, found⟩ := keeps key
  rwa [idsAt_of_get plain found]

theorem get_eq (keeps : KeepsIds view store) (key : String) :
    store.get view key = stored (idsAt view store key) := by
  obtain ⟨ids, plain, found⟩ := keeps key
  rw [idsAt_of_get plain found, found]

theorem load (keeps : KeepsIds view store) (key : String) :
    loadIds (store.get view key) = .ok (idsAt view store key) := by
  rw [keeps.get_eq key, loadIds_stored (keeps.plain key)]

/-- The raw values follow from the ids held. -/
theorem get_congr (keeps : KeepsIds view store) (keepsAfter : KeepsIds view after)
    (same : heldIds view after = heldIds view store) (key : String) :
    after.get view key = store.get view key := by
  have ids : idsAt view after key = idsAt view store key := by
    ext id
    have here := congrFun same (key, id)
    simp only [heldIds] at here
    constructor
    · intro member
      by_contra absent
      rw [if_pos member, if_neg absent] at here
      cases here
    · intro member
      by_contra absent
      rw [if_pos member, if_neg absent] at here
      cases here
  rw [keepsAfter.get_eq, keeps.get_eq, ids]

/-- A key is given another set of ids. -/
structure Rewritten (view key : String) (ids : SortedSet Str) (store after : ProjectionStore) :
    Prop where
  plain : plainIds ids
  get_key : after.get view key = stored ids
  get_other : ∀ other, other ≠ key → after.get view other = store.get view other

theorem Rewritten.keeps {key : String} {ids : SortedSet Str}
    (rewritten : Rewritten view key ids store after) (keeps : KeepsIds view store) :
    KeepsIds view after := by
  intro other
  by_cases same : other = key
  · exact ⟨ids, rewritten.plain, same ▸ rewritten.get_key⟩
  · obtain ⟨old, plain, found⟩ := keeps other
    exact ⟨old, plain, (rewritten.get_other other same).trans found⟩

theorem Rewritten.idsAt_eq {key : String} {ids : SortedSet Str}
    (rewritten : Rewritten view key ids store after) (other : String) :
    idsAt view after other = if other = key then ids else idsAt view store other := by
  split
  · rename_i same
    exact same ▸ idsAt_of_get rewritten.plain rewritten.get_key
  · rename_i apart
    exact idsAt_congr (rewritten.get_other other apart)

/-- Where one id of the key comes or goes, that is a point write. -/
theorem Rewritten.held_eq {key : String} {ids : SortedSet Str} {id : Str} {value : Option Unit}
    (rewritten : Rewritten view key ids store after)
    (changed : ∀ other, other ∈ ids ↔
      if other = id then value.isSome = true else other ∈ idsAt view store key) :
    heldIds view after = PointWrite.apply (heldIds view store) ⟨(key, id), value⟩ := by
  funext ⟨otherKey, other⟩
  rw [PointWrite.apply_apply, heldIds, rewritten.idsAt_eq]
  by_cases sameKey : otherKey = key
  · subst sameKey
    simp only [↓reduceIte, changed, Prod.mk.injEq, true_and]
    by_cases same : other = id
    · cases value <;> simp [same]
    · simp only [same, ↓reduceIte, heldIds]
  · simp only [sameKey, ↓reduceIte, Prod.mk.injEq, false_and, heldIds]

end KeepsIds

namespace OfflineCountProjection

theorem plainIds_mark {ids : SortedSet Str} (deviceId : Uuid) (wentOffline : Bool)
    (plain : plainIds ids) : plainIds (mark deviceId wentOffline ids) := by
  rw [mark]
  split
  · exact plainIds_insert (plain_text deviceId) plain
  · exact plainIds_erase _ plain

theorem mem_mark (deviceId : Uuid) (wentOffline : Bool) (ids : SortedSet Str) (id : Str) :
    id ∈ mark deviceId wentOffline ids ↔ if id = deviceId.text then wentOffline = true else id ∈ ids := by
  cases wentOffline with
  | false =>
      rw [mark, if_neg Bool.false_ne_true, SortedSet.mem_erase]
      split <;> simp_all
  | true =>
      rw [mark, if_pos rfl, SortedSet.mem_insert]
      split <;> simp_all

theorem get_save (storeId : String) (offline : SortedSet Str) (store : ProjectionStore)
    (otherView other : String) :
    (save storeId offline store).get otherView other =
      if otherView = view ∧ other = storeId then stored offline else store.get otherView other := by
  rw [save, stored]
  split
  · exact store.get_delete ..
  · exact store.get_put ..

/-- What a detection writes: the device comes to the store's set or goes from it. -/
def writeOf (detection : DetectionEvent) : Option (PointWrite (String × Str) Unit) :=
  (transition detection).map fun (storeId, deviceId, wentOffline) =>
    ⟨(storeId, deviceId.text), if wentOffline then some () else none⟩

theorem observe_of_none {detection : DetectionEvent} (ignored : transition detection = none)
    (store : ProjectionStore) : observe detection store = (.ok (), store) := by
  rw [observe, ignored]
  rfl

theorem observe_of_some {detection : DetectionEvent} {storeId : String} {deviceId : Uuid}
    {wentOffline : Bool} (handled : transition detection = some (storeId, deviceId, wentOffline))
    {store : ProjectionStore} (keeps : KeepsIds view store) :
    observe detection store =
      (.ok (), save storeId (mark deviceId wentOffline (idsAt view store storeId)) store) := by
  have loaded : load store storeId = .ok (idsAt view store storeId) := keeps.load storeId
  simp only [observe, handled, Call.bind_apply, Call.read_apply, Call.lift_apply, id_eq, loaded,
    Call.write_apply]

theorem observe_rewritten {detection : DetectionEvent} {storeId : String} {deviceId : Uuid}
    {wentOffline : Bool} (handled : transition detection = some (storeId, deviceId, wentOffline))
    {store : ProjectionStore} (keeps : KeepsIds view store) :
    KeepsIds.Rewritten view storeId (mark deviceId wentOffline (idsAt view store storeId)) store
      (observe detection store).2 := by
  rw [observe_of_some handled keeps]
  refine ⟨plainIds_mark _ _ (keeps.plain storeId), ?_, ?_⟩
  · rw [get_save, if_pos ⟨rfl, rfl⟩]
  · intro other apart
    rw [get_save, if_neg fun same => apart same.2]

/-- The fold acts on the devices each store's set holds by point writes. -/
theorem observe_writes :
    PointWrite.Writes (fun store detection => (observe detection store).2) (KeepsIds view)
      (heldIds view) writeOf where
  kept_step {store} detection keeps := by
    cases handled : transition detection with
    | none => rwa [observe_of_none handled]
    | some subject =>
        obtain ⟨storeId, deviceId, wentOffline⟩ := subject
        exact (observe_rewritten handled keeps).keeps keeps
  none_step {store detection} _ silent := by
    rw [observe_of_none (Option.map_eq_none_iff.mp silent)]
  some_step {store detection write} keeps written := by
    obtain ⟨⟨storeId, deviceId, wentOffline⟩, handled, rfl⟩ := Option.map_eq_some_iff.mp written
    apply (observe_rewritten handled keeps).held_eq
    intro id
    rw [mem_mark]
    cases wentOffline <;> rfl

theorem observe_other (detection : DetectionEvent) {store : ProjectionStore}
    (keeps : KeepsIds view store) {otherView : String} (apart : otherView ≠ view) (key : String) :
    (observe detection store).2.get otherView key = store.get otherView key := by
  cases handled : transition detection with
  | none => rw [observe_of_none handled]
  | some subject =>
      obtain ⟨storeId, deviceId, wentOffline⟩ := subject
      rw [observe_of_some handled keeps, get_save, if_neg fun same => apart same.1]

end OfflineCountProjection

namespace ActiveOutageProjection

/-- What a detection writes: the time of the outage under the store, or nothing there. -/
def writeOf (detection : DetectionEvent) : Option (PointWrite String String) :=
  let payload := detection.payload
  if payload.detectionType = detectionTypeStoreOutage then
    some ⟨payload.storeId, some (payload.detectedAt.isoformat "T")⟩
  else if payload.detectionType = detectionTypeStoreRecovered then
    some ⟨payload.storeId, none⟩
  else none

theorem observe_returns (detection : DetectionEvent) (store : ProjectionStore) :
    (observe detection).Returns store := by
  simp only [observe]
  split
  · exact ⟨_, _, rfl⟩
  · split <;> exact ⟨_, _, rfl⟩

theorem get_observe (detection : DetectionEvent) (store : ProjectionStore) (otherView key : String) :
    (observe detection store).2.get otherView key =
      match writeOf detection with
      | none => store.get otherView key
      | some write => if otherView = view ∧ key = write.key then write.value
          else store.get otherView key := by
  simp only [observe, writeOf]
  split
  · exact store.get_put ..
  · split
    · exact store.get_delete ..
    · rfl

/-- The fold acts on the stores present by point writes. -/
theorem observe_writes :
    PointWrite.Writes (fun store detection => (observe detection store).2) (fun _ => True)
      (ProjectionStore.get · view) writeOf where
  kept_step _ _ := trivial
  none_step _ silent := by
    funext key
    rw [get_observe, silent]
  some_step _ written := by
    funext key
    rw [get_observe, written, PointWrite.apply_apply]
    simp only [true_and]

theorem observe_other (detection : DetectionEvent) (store : ProjectionStore) {otherView : String}
    (apart : otherView ≠ view) (key : String) :
    (observe detection store).2.get otherView key = store.get otherView key := by
  rw [get_observe]
  split
  · rfl
  · rw [if_neg fun same => apart same.1]

end ActiveOutageProjection

namespace AnomalyRateProjection

variable {round : ℚ → ℚ} {formatReal : Double → String}

/-- What a detection writes: its id under the key of its signal and minute. -/
def writeOf (round : ℚ → ℚ) (formatReal : Double → String) (detection : DetectionEvent) :
    Option (PointWrite (String × Str) Unit) :=
  match entryBy round formatReal detection with
  | .ok (some (key, detectionId)) => some ⟨(key, detectionId.text), some ()⟩
  | _ => none

theorem observeBy_of_none {detection : DetectionEvent} (silent : writeOf round formatReal detection = none)
    (store : ProjectionStore) : (observeBy round formatReal detection store).2 = store := by
  rw [writeOf] at silent
  rw [observeBy, Call.bind_apply, Call.lift_apply]
  rcases kept : entryBy round formatReal detection with _ | _ | ⟨key, detectionId⟩
  · rfl
  · rfl
  · rw [kept] at silent
    cases silent

theorem observeBy_of_entry {detection : DetectionEvent} {key : String} {detectionId : Uuid}
    (kept : entryBy round formatReal detection = .ok (some (key, detectionId))) {store : ProjectionStore}
    (keeps : KeepsIds view store) :
    observeBy round formatReal detection store =
      (.ok (), store.put view key (dumpIds ((idsAt view store key).insert detectionId.text))) := by
  simp only [observeBy, Call.bind_apply, Call.lift_apply, kept, Call.read_apply, id_eq, keeps.load key,
    Call.write_apply]

theorem observeBy_rewritten {detection : DetectionEvent} {key : String} {detectionId : Uuid}
    (kept : entryBy round formatReal detection = .ok (some (key, detectionId))) {store : ProjectionStore}
    (keeps : KeepsIds view store) :
    KeepsIds.Rewritten view key ((idsAt view store key).insert detectionId.text) store
      (observeBy round formatReal detection store).2 := by
  rw [observeBy_of_entry kept keeps]
  refine ⟨plainIds_insert (plain_text _) (keeps.plain key), ?_, ?_⟩
  · rw [ProjectionStore.get_put, if_pos ⟨rfl, rfl⟩, stored_insert]
  · intro other apart
    rw [ProjectionStore.get_put, if_neg fun same => apart same.2]

theorem writeOf_eq_some {detection : DetectionEvent} {write : PointWrite (String × Str) Unit}
    (written : writeOf round formatReal detection = some write) :
    ∃ key detectionId, entryBy round formatReal detection = .ok (some (key, detectionId)) ∧
      write = ⟨(key, detectionId.text), some ()⟩ := by
  rw [writeOf] at written
  split at written
  · rename_i key detectionId kept
    exact ⟨key, detectionId, kept, (Option.some.inj written).symm⟩
  · cases written

/-- The fold acts on the ids each signal's minute holds by point writes. -/
theorem observeBy_writes (round : ℚ → ℚ) (formatReal : Double → String) :
    PointWrite.Writes (fun store detection => (observeBy round formatReal detection store).2)
      (KeepsIds view) (heldIds view) (writeOf round formatReal) where
  kept_step {store} detection keeps := by
    cases written : writeOf round formatReal detection with
    | none => rwa [observeBy_of_none written]
    | some write =>
        obtain ⟨key, detectionId, kept, _⟩ := writeOf_eq_some written
        exact (observeBy_rewritten kept keeps).keeps keeps
  none_step {store detection} _ silent := by rw [observeBy_of_none silent]
  some_step {store detection write} keeps written := by
    obtain ⟨key, detectionId, kept, rfl⟩ := writeOf_eq_some written
    apply (observeBy_rewritten kept keeps).held_eq
    intro id
    rw [SortedSet.mem_insert]
    split <;> simp_all

theorem observeBy_other (detection : DetectionEvent) {store : ProjectionStore}
    (keeps : KeepsIds view store) {otherView : String} (apart : otherView ≠ view) (key : String) :
    (observeBy round formatReal detection store).2.get otherView key = store.get otherView key := by
  cases written : writeOf round formatReal detection with
  | none => rw [observeBy_of_none written]
  | some write =>
      obtain ⟨kept, detectionId, kept, _⟩ := writeOf_eq_some written
      rw [observeBy_of_entry kept keeps, ProjectionStore.get_put, if_neg fun same => apart same.1]

theorem observe_writes (formatReal : Double → String) :
    PointWrite.Writes (fun store detection => (observe formatReal detection store).2)
      (KeepsIds view) (heldIds view) (writeOf Binary64.round formatReal) :=
  observeBy_writes Binary64.round formatReal

theorem observe_other (detection : DetectionEvent) {store : ProjectionStore}
    (keeps : KeepsIds view store) {otherView : String} (apart : otherView ≠ view) (key : String) :
    (observe formatReal detection store).2.get otherView key = store.get otherView key :=
  observeBy_other detection keeps apart key

end AnomalyRateProjection

end SignalForge
