import SignalForge.ProjectionFolds

/-! Detections folded a second time, as a replay does. -/

set_option autoImplicit false

namespace SignalForge

inductive Projection where
  | offlineCount
  | activeOutage
  | anomalyRate
  deriving DecidableEq

namespace Projection

variable {formatReal : Double → String}

def view : Projection → String
  | .offlineCount => OfflineCountProjection.view
  | .activeOutage => ActiveOutageProjection.view
  | .anomalyRate => AnomalyRateProjection.view

def observe (formatReal : Double → String) :
    Projection → DetectionEvent → Call Raised ProjectionStore Unit
  | .offlineCount => OfflineCountProjection.observe
  | .activeOutage => ActiveOutageProjection.observe
  | .anomalyRate => AnomalyRateProjection.observe formatReal

def fold (formatReal : Double → String) (projection : Projection) (detections : List DetectionEvent)
    (store : ProjectionStore) : ProjectionStore :=
  routeDetections [projection.observe formatReal] detections store

/-- The store folds by any of the projections lead to, each with its own detections. -/
def foldAll (formatReal : Double → String) (earlier : List (Projection × List DetectionEvent)) :
    ProjectionStore :=
  earlier.foldl (fun store (projection, detections) =>
    projection.fold formatReal detections store) .empty

/-- The two views of ids are kept in their form. -/
structure Sound (store : ProjectionStore) : Prop where
  offlineCount : KeepsIds OfflineCountProjection.view store
  anomalyRate : KeepsIds AnomalyRateProjection.view store

theorem fold_eq (projection : Projection) (detections : List DetectionEvent)
    (store : ProjectionStore) :
    projection.fold formatReal detections store =
      detections.foldl (fun store detection => (projection.observe formatReal detection store).2)
        store := rfl

/-- A projection writes to its own view only. -/
theorem observe_other (projection : Projection) (detection : DetectionEvent)
    {store : ProjectionStore} (sound : Sound store) {otherView : String}
    (apart : otherView ≠ projection.view) (key : String) :
    (projection.observe formatReal detection store).2.get otherView key =
      store.get otherView key := by
  cases projection with
  | offlineCount => exact OfflineCountProjection.observe_other detection sound.offlineCount apart key
  | activeOutage => exact ActiveOutageProjection.observe_other detection store apart key
  | anomalyRate => exact AnomalyRateProjection.observe_other detection sound.anomalyRate apart key

theorem keepsIds_congr {view : String} {store after : ProjectionStore} (keeps : KeepsIds view store)
    (same : ∀ key, after.get view key = store.get view key) : KeepsIds view after :=
  fun key => (same key) ▸ keeps key

theorem sound_observe (projection : Projection) (detection : DetectionEvent)
    {store : ProjectionStore} (sound : Sound store) :
    Sound (projection.observe formatReal detection store).2 := by
  have other : ∀ view, view ≠ projection.view → ∀ key,
      (projection.observe formatReal detection store).2.get view key = store.get view key :=
    fun view apart => projection.observe_other detection sound apart
  constructor
  · cases projection with
    | offlineCount =>
        exact OfflineCountProjection.observe_writes.kept_step detection sound.offlineCount
    | activeOutage => exact keepsIds_congr sound.offlineCount (other _ (by decide))
    | anomalyRate => exact keepsIds_congr sound.offlineCount (other _ (by decide))
  · cases projection with
    | offlineCount => exact keepsIds_congr sound.anomalyRate (other _ (by decide))
    | activeOutage => exact keepsIds_congr sound.anomalyRate (other _ (by decide))
    | anomalyRate =>
        exact (AnomalyRateProjection.observe_writes formatReal).kept_step detection sound.anomalyRate

theorem sound_fold (projection : Projection) (detections : List DetectionEvent)
    {store : ProjectionStore} (sound : Sound store) :
    Sound (projection.fold formatReal detections store) := by
  rw [fold_eq]
  induction detections generalizing store with
  | nil => exact sound
  | cons detection rest ih => exact ih (projection.sound_observe detection sound)

theorem sound_foldAll (earlier : List (Projection × List DetectionEvent)) :
    Sound (foldAll formatReal earlier) := by
  have folded : ∀ store, Sound store → Sound (earlier.foldl (fun store (projection, detections) =>
      projection.fold formatReal detections store) store) := by
    induction earlier with
    | nil => exact fun _ sound => sound
    | cons first rest ih => exact fun store sound => ih _ (first.1.sound_fold first.2 sound)
  exact folded _ ⟨keepsIds_empty _, keepsIds_empty _⟩

theorem fold_other (projection : Projection) (detections : List DetectionEvent)
    {store : ProjectionStore} (sound : Sound store) {otherView : String}
    (apart : otherView ≠ projection.view) (key : String) :
    (projection.fold formatReal detections store).get otherView key = store.get otherView key := by
  rw [fold_eq]
  induction detections generalizing store with
  | nil => rfl
  | cons detection rest ih =>
      rw [List.foldl_cons, ih (projection.sound_observe detection sound),
        projection.observe_other detection sound apart]

/-- The view of the projection itself: its raw values after the second fold are those after the
first. -/
theorem fold_twice_own (projection : Projection) (detections : List DetectionEvent)
    {store : ProjectionStore} (sound : Sound store) (key : String) :
    (projection.fold formatReal detections (projection.fold formatReal detections store)).get
        projection.view key =
      (projection.fold formatReal detections store).get projection.view key := by
  have once : Sound (projection.fold formatReal detections store) :=
    projection.sound_fold detections sound
  have again : Sound (projection.fold formatReal detections
      (projection.fold formatReal detections store)) := projection.sound_fold detections once
  cases projection with
  | offlineCount =>
      have held := OfflineCountProjection.observe_writes.view_fold_twice sound.offlineCount detections
      exact once.offlineCount.get_congr again.offlineCount held key
  | activeOutage =>
      exact congrFun (ActiveOutageProjection.observe_writes.view_fold_twice trivial detections) key
  | anomalyRate =>
      have held := (AnomalyRateProjection.observe_writes formatReal).view_fold_twice
        sound.anomalyRate detections
      exact once.anomalyRate.get_congr again.anomalyRate held key

/-- From any store earlier folds left, folding the detections once more changes no key and no
value. -/
theorem fold_twice (formatReal : Double → String) (earlier : List (Projection × List DetectionEvent))
    (projection : Projection) (detections : List DetectionEvent) :
    let once := projection.fold formatReal detections (foldAll formatReal earlier)
    let again := projection.fold formatReal detections once
    (∀ view key, again.get view key = once.get view key) ∧
      ∀ view, again.keys view = once.keys view := by
  intro once again
  have sound : Sound (foldAll formatReal earlier) := sound_foldAll earlier
  have values : ∀ view key, again.get view key = once.get view key := by
    intro view key
    by_cases own : view = projection.view
    · rw [own]
      exact projection.fold_twice_own detections sound key
    · exact projection.fold_other detections (projection.sound_fold detections sound) own key
  refine ⟨values, fun view => ?_⟩
  apply ProjectionStore.keys_eq (once.keys_ascending view) (once.keys_nodup view)
  intro key
  rw [ProjectionStore.mem_keys, values]

end Projection

end SignalForge
