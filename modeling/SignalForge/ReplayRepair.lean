import Mathlib.Logic.Relation
import SignalForge.StorePrograms

/-! Faults of the store behind the dashboards, and their repair. Operations may be refused or lose
their answers at any point of any number of attempts to fold detections; one fold of them all without
a fault leaves the views as if nothing had gone wrong. -/

set_option autoImplicit false

namespace SignalForge

open StoreProgram

/-- The operations that leave the store as it is. -/
def StoreOp.Reads : StoreOp → Prop
  | get _ _ => True
  | keys _ => True
  | put _ _ _ => False
  | delete _ _ => False

theorem StoreOp.Reads.kept {operation : StoreOp} (reads : operation.Reads)
    (store : ProjectionStore) : (StoreProgram.inMemory operation store).2 = store := by
  cases operation with
  | get view key => rfl
  | keys view => rfl
  | put view key value => cases reads
  | delete view key => cases reads

namespace StoreProgram

variable {α β : Type}

theorem writesLast_getting {view key : String} {next : Option String → StoreProgram α}
    (later : ∀ value, (next value).WritesLast StoreOp.Reads) :
    (getting view key next).WritesLast StoreOp.Reads := by
  refine Or.inl ⟨trivial, fun answer => ?_⟩
  cases answer with
  | found value => exact later value
  | done => exact later none
  | listed keys => exact later none

theorem writesLast_lifted {result : Except Raised β} {next : β → StoreProgram α}
    (later : ∀ value, (next value).WritesLast StoreOp.Reads) :
    (lifted result next).WritesLast StoreOp.Reads := by
  cases result with
  | error reason => trivial
  | ok value => exact later value

theorem writesLast_putting (view key value : String) (result : α) :
    (putting view key value result).WritesLast StoreOp.Reads := Or.inr ⟨result, fun _ => rfl⟩

theorem writesLast_deleting (view key : String) (result : α) :
    (deleting view key result).WritesLast StoreOp.Reads := Or.inr ⟨result, fun _ => rfl⟩

end StoreProgram

namespace Projection

variable {formatReal : Double → String}

/-- A projection writes once, after all it reads. -/
theorem writesLast_observeProgram (projection : Projection) (detection : DetectionEvent) :
    (projection.observeProgram formatReal detection).WritesLast StoreOp.Reads := by
  cases projection with
  | offlineCount =>
      rw [observeProgram, OfflineCountProjection.observeProgram]
      rcases OfflineCountProjection.transition detection with _ | ⟨storeId, deviceId, wentOffline⟩
      · trivial
      · refine writesLast_getting fun raw => writesLast_lifted fun offline => ?_
        rw [OfflineCountProjection.saving]
        split
        · exact writesLast_deleting _ _ ()
        · exact writesLast_putting _ _ _ ()
  | activeOutage =>
      simp only [observeProgram, ActiveOutageProjection.observeProgram]
      split
      · exact writesLast_putting _ _ _ ()
      · split
        · exact writesLast_deleting _ _ ()
        · trivial
  | anomalyRate =>
      refine writesLast_lifted fun kept => ?_
      rcases kept with _ | ⟨key, detectionId⟩
      · trivial
      · exact writesLast_getting fun raw => writesLast_lifted fun ids =>
          writesLast_putting _ _ _ ()

variable (formatReal) in
/-- `projection.observe(detection)` in its bulkhead, over operations with faults. -/
def observeFaulty (fault : Nat → Fault Raised) (projection : Projection)
    (detection : DetectionEvent) : Call Raised (ProjectionStore × Nat) (Option Unit) :=
  Call.guarded false none
    ((projection.observeProgram formatReal detection).run (OpProgram.faulty inMemory fault))

/-- The bulkhead writes nothing of its own. -/
theorem guarded_after {σ α : Type} (fallback : α) (call : Call Raised σ α) (state : σ) :
    (Call.guarded false fallback call state).2 = (call state).2 := by
  rcases outcome : call state with ⟨reason | value, after⟩
  · rw [Call.guarded, Call.catching_of_error outcome]
    rfl
  · rw [Call.guarded, Call.catching_of_ok outcome]

/-- What is observed with faults is observed, or is not. -/
theorem observeFaulty_store (fault : Nat → Fault Raised) (projection : Projection)
    (detection : DetectionEvent) (store : ProjectionStore) (number : Nat) :
    (projection.observeFaulty formatReal fault detection (store, number)).2.1 = store ∨
      (projection.observeFaulty formatReal fault detection (store, number)).2.1 =
        (projection.observe formatReal detection store).2 := by
  rw [observeFaulty, guarded_after, ← evaluate_observeProgram]
  exact OpProgram.run_faulty (projection.writesLast_observeProgram detection)
    (fun _ reads store => reads.kept store) fault store number

/-- What a projection makes of the store as point writes on a view of it, which the other projections
leave alone. -/
structure ViewRule (formatReal : Double → String) (projection : Projection) (κ β : Type)
    [DecidableEq κ] where
  shown : ProjectionStore → κ → Option β
  writeOf : DetectionEvent → Option (PointWrite κ β)
  writes : PointWrite.Writes
    (fun store detection => (projection.observe formatReal detection store).2) Sound shown writeOf
  frames : ∀ other, other ≠ projection → ∀ detection store, Sound store →
    shown (other.observe formatReal detection store).2 = shown store

/-- One detection to every projection in turn. -/
def route (formatReal : Double → String) (projections : List Projection) (store : ProjectionStore)
    (detection : DetectionEvent) : ProjectionStore :=
  projections.foldl (fun store projection => (projection.observe formatReal detection store).2) store

theorem sound_route (projections : List Projection) (detection : DetectionEvent) :
    ∀ {store : ProjectionStore}, Sound store → Sound (route formatReal projections store detection) := by
  induction projections with
  | nil => exact id
  | cons projection rest ih => exact fun sound => ih (projection.sound_observe detection sound)

namespace ViewRule

variable {projection : Projection} {κ β : Type} [DecidableEq κ]
  (rule : ViewRule formatReal projection κ β)

/-- What a detection writes when it is routed to the projections. -/
def routedWrite (projections : List Projection) (detection : DetectionEvent) :
    Option (PointWrite κ β) :=
  if projection ∈ projections then rule.writeOf detection else none

/-- A write where there is one. -/
def settle (view : κ → Option β) (write? : Option (PointWrite κ β)) : κ → Option β :=
  write?.elim view (PointWrite.apply view)

theorem settle_twice (view : κ → Option β) (write? : Option (PointWrite κ β)) :
    settle (settle view write?) write? = settle view write? := by
  cases write? with
  | none => rfl
  | some write => exact Function.update_idem ..

theorem shown_observe {store : ProjectionStore} (sound : Sound store) (detection : DetectionEvent) :
    rule.shown (projection.observe formatReal detection store).2 =
      settle (rule.shown store) (rule.writeOf detection) := by
  cases written : rule.writeOf detection with
  | none => exact rule.writes.none_step sound written
  | some write => exact rule.writes.some_step sound written

/-- Routed to the same projection twice, a detection writes what it writes once. -/
theorem shown_route (projections : List Projection) (detection : DetectionEvent) :
    ∀ {store : ProjectionStore}, Sound store →
      rule.shown (route formatReal projections store detection) =
        settle (rule.shown store) (rule.routedWrite projections detection) := by
  induction projections with
  | nil => exact fun _ => rfl
  | cons first rest ih =>
      intro store sound
      have later : rule.shown (route formatReal rest (first.observe formatReal detection store).2
          detection) = settle (rule.shown (first.observe formatReal detection store).2)
            (rule.routedWrite rest detection) := ih (first.sound_observe detection sound)
      rw [route, List.foldl_cons, ← route, later]
      by_cases own : first = projection
      · subst own
        rw [rule.shown_observe sound, routedWrite, routedWrite, if_pos List.mem_cons_self]
        by_cases again : first ∈ rest
        · rw [if_pos again, settle_twice]
        · rw [if_neg again]
          rfl
      · rw [rule.frames first own detection store sound, routedWrite, routedWrite]
        simp only [List.mem_cons, Ne.symm own, false_or]

theorem routeWrites (projections : List Projection) :
    PointWrite.Writes (route formatReal projections) Sound rule.shown
      (rule.routedWrite projections) where
  kept_step detection sound := sound_route projections detection sound
  none_step sound silent := by rw [rule.shown_route projections _ sound, silent]; rfl
  some_step sound written := by rw [rule.shown_route projections _ sound, written]; rfl

end ViewRule

section

variable (formatReal) (projections : List Projection) (detections : List DetectionEvent)

/-- The store that some of the detections, each observed by some of the projections any number of
times and in any order, lead to. -/
def Reaches : ProjectionStore → ProjectionStore → Prop :=
  Relation.ReflTransGen fun store after => ∃ projection ∈ projections, ∃ detection ∈ detections,
    after = (projection.observe formatReal detection store).2

/-- Some detections offered to the projections over operations with faults. -/
def attempt (fault : Nat → Fault Raised) (state : ProjectionStore × Nat)
    (attempted : List DetectionEvent) : ProjectionStore × Nat :=
  attempted.foldl (fun state detection => projections.foldl (fun state projection =>
    (projection.observeFaulty formatReal fault detection state).2) state) state

variable {formatReal projections detections}

theorem Reaches.sound {store after : ProjectionStore}
    (reached : Reaches formatReal projections detections store after) (sound : Sound store) :
    Sound after := by
  induction reached with
  | refl => exact sound
  | tail _ step ih =>
      obtain ⟨projection, _, detection, _, rfl⟩ := step
      exact projection.sound_observe detection ih

/-- A detection of them offered once more. -/
theorem Reaches.observeFaulty {store between : ProjectionStore}
    (reached : Reaches formatReal projections detections store between)
    (fault : Nat → Fault Raised) {projection : Projection} (listed : projection ∈ projections)
    {detection : DetectionEvent} (member : detection ∈ detections) (number : Nat) :
    Reaches formatReal projections detections store
      (projection.observeFaulty formatReal fault detection (between, number)).2.1 := by
  rcases observeFaulty_store fault projection detection between number with kept | observed
  · rwa [kept]
  · rw [observed]
    exact reached.tail ⟨projection, listed, detection, member, rfl⟩

theorem Reaches.offered {store : ProjectionStore} (fault : Nat → Fault Raised)
    {offered : List Projection} (listed : offered ⊆ projections) {detection : DetectionEvent}
    (member : detection ∈ detections) : ∀ {state : ProjectionStore × Nat},
      Reaches formatReal projections detections store state.1 →
        Reaches formatReal projections detections store
          (offered.foldl (fun state projection =>
            (projection.observeFaulty formatReal fault detection state).2) state).1 := by
  induction offered with
  | nil => exact id
  | cons projection rest ih =>
      obtain ⟨here, later⟩ := List.cons_subset.mp listed
      exact fun reached => ih later (reached.observeFaulty fault here member _)

theorem Reaches.attempt {store : ProjectionStore} (fault : Nat → Fault Raised)
    {attempted : List DetectionEvent} (known : attempted ⊆ detections) :
    ∀ {state : ProjectionStore × Nat}, Reaches formatReal projections detections store state.1 →
      Reaches formatReal projections detections store
        (Projection.attempt formatReal projections fault state attempted).1 := by
  induction attempted with
  | nil => exact id
  | cons detection rest ih =>
      obtain ⟨here, later⟩ := List.cons_subset.mp known
      exact fun reached => ih later (reached.offered fault (List.Subset.refl _) here)

theorem Reaches.attempts {store : ProjectionStore} (fault : Nat → Fault Raised)
    {attempts : List (List DetectionEvent)} (known : ∀ attempted ∈ attempts, attempted ⊆ detections) :
    ∀ {state : ProjectionStore × Nat}, Reaches formatReal projections detections store state.1 →
      Reaches formatReal projections detections store
        (attempts.foldl (Projection.attempt formatReal projections fault) state).1 := by
  induction attempts with
  | nil => exact id
  | cons attempted rest ih =>
      obtain ⟨here, later⟩ := List.forall_mem_cons.mp known
      exact fun reached => ih later (reached.attempt fault here)

end

namespace ViewRule

variable {projection : Projection} {κ β : Type} [DecidableEq κ]
  (rule : ViewRule formatReal projection κ β) {projections : List Projection}
  {detections : List DetectionEvent} {store damaged : ProjectionStore}

/-- Where none of the detections writes, attempts change nothing. -/
theorem shown_elsewhere (reached : Reaches formatReal projections detections store damaged)
    (sound : Sound store) {key : κ}
    (elsewhere : ∀ write ∈ detections.filterMap (rule.routedWrite projections), write.key ≠ key) :
    rule.shown damaged key = rule.shown store key := by
  induction reached with
  | refl => rfl
  | @tail between _ earlier step ih =>
      obtain ⟨other, listed, detection, member, rfl⟩ := step
      rw [← ih]
      have soundBetween : Sound between := Reaches.sound earlier sound
      by_cases own : other = projection
      · subst own
        rw [rule.shown_observe soundBetween]
        cases written : rule.writeOf detection with
        | none => rfl
        | some write =>
            have routed : rule.routedWrite projections detection = some write := by
              rw [routedWrite, if_pos listed, written]
            have apart := elsewhere write (List.mem_filterMap.mpr ⟨detection, member, routed⟩)
            exact Function.update_of_ne apart.symm _ _
      · rw [rule.frames other own detection between soundBetween]

/-- What the view shows in the end is as if nothing had been attempted before. -/
theorem shown_repaired (reached : Reaches formatReal projections detections store damaged)
    (sound : Sound store) :
    rule.shown (detections.foldl (route formatReal projections) damaged) =
      rule.shown (detections.foldl (route formatReal projections) store) :=
  (rule.routeWrites projections).view_fold_congr sound (reached.sound sound) fun _ elsewhere =>
    rule.shown_elsewhere reached sound elsewhere

end ViewRule

section

variable (formatReal)

theorem heldIds_congr {view : String} {store after : ProjectionStore}
    (same : ∀ key, after.get view key = store.get view key) :
    heldIds view after = heldIds view store := by
  funext held
  rw [heldIds, heldIds, idsAt_congr (same held.1)]

def offlineRule : ViewRule formatReal .offlineCount (String × Str) Unit where
  shown := heldIds OfflineCountProjection.view
  writeOf := OfflineCountProjection.writeOf
  writes :=
    { kept_step := fun detection sound => sound_observe .offlineCount detection sound
      none_step := fun sound silent =>
        OfflineCountProjection.observe_writes.none_step sound.offlineCount silent
      some_step := fun sound written =>
        OfflineCountProjection.observe_writes.some_step sound.offlineCount written }
  frames other apart detection _ sound := heldIds_congr fun key =>
    other.observe_other detection sound (by cases other <;> first | exact absurd rfl apart | decide) key

def outageRule : ViewRule formatReal .activeOutage String String where
  shown := fun store key => store.get ActiveOutageProjection.view key
  writeOf := ActiveOutageProjection.writeOf
  writes :=
    { kept_step := fun detection sound => sound_observe .activeOutage detection sound
      none_step := fun _ silent => ActiveOutageProjection.observe_writes.none_step trivial silent
      some_step := fun _ written => ActiveOutageProjection.observe_writes.some_step trivial written }
  frames other apart detection _ sound := funext fun key =>
    other.observe_other detection sound (by cases other <;> first | exact absurd rfl apart | decide) key

def anomalyRule : ViewRule formatReal .anomalyRate (String × Str) Unit where
  shown := heldIds AnomalyRateProjection.view
  writeOf := AnomalyRateProjection.writeOf Binary64.round formatReal
  writes :=
    { kept_step := fun detection sound => sound_observe .anomalyRate detection sound
      none_step := fun sound silent =>
        (AnomalyRateProjection.observe_writes formatReal).none_step sound.anomalyRate silent
      some_step := fun sound written =>
        (AnomalyRateProjection.observe_writes formatReal).some_step sound.anomalyRate written }
  frames other apart detection _ sound := heldIds_congr fun key =>
    other.observe_other detection sound (by cases other <;> first | exact absurd rfl apart | decide) key

end

section

variable {projections : List Projection} {detections : List DetectionEvent}
  {store damaged : ProjectionStore}

/-- Of what is no projection's nothing is written. -/
theorem Reaches.get_other (reached : Reaches formatReal projections detections store damaged)
    (sound : Sound store) {view : String} (apart : ∀ projection : Projection, view ≠ projection.view)
    (key : String) : damaged.get view key = store.get view key := by
  induction reached with
  | refl => rfl
  | tail earlier step ih =>
      obtain ⟨projection, _, detection, _, rfl⟩ := step
      rw [projection.observe_other detection (Reaches.sound earlier sound) (apart projection), ih]

theorem sound_routeAll (sound : Sound store) : Sound (detections.foldl (route formatReal projections)
    store) := by
  induction detections generalizing store with
  | nil => exact sound
  | cons detection rest ih => exact ih (sound_route projections detection sound)

theorem get_route {view : String} (apart : ∀ projection : Projection, view ≠ projection.view)
    (key : String) : ∀ {store : ProjectionStore}, Sound store →
      (detections.foldl (route formatReal projections) store).get view key = store.get view key := by
  have one : ∀ (listed : List Projection) (detection : DetectionEvent) {store : ProjectionStore},
      Sound store → (route formatReal listed store detection).get view key = store.get view key := by
    intro listed detection
    induction listed with
    | nil => exact fun _ => rfl
    | cons projection rest ih =>
        intro store sound
        exact (ih (projection.sound_observe detection sound)).trans
          (projection.observe_other detection sound (apart projection) key)
  induction detections with
  | nil => exact fun _ => rfl
  | cons detection rest ih =>
      intro store sound
      exact (ih (sound_route projections detection sound)).trans (one projections detection sound)

/-- Every raw value is repaired. -/
theorem get_repaired (reached : Reaches formatReal projections detections store damaged)
    (sound : Sound store) (view key : String) :
    (detections.foldl (route formatReal projections) damaged).get view key =
      (detections.foldl (route formatReal projections) store).get view key := by
  have soundDamaged : Sound damaged := reached.sound sound
  have once : Sound (detections.foldl (route formatReal projections) store) := sound_routeAll sound
  have again : Sound (detections.foldl (route formatReal projections) damaged) :=
    sound_routeAll soundDamaged
  by_cases offline : view = OfflineCountProjection.view
  · rw [offline]
    exact once.offlineCount.get_congr again.offlineCount
      ((offlineRule formatReal).shown_repaired reached sound) key
  by_cases outage : view = ActiveOutageProjection.view
  · rw [outage]
    exact congrFun ((outageRule formatReal).shown_repaired reached sound) key
  by_cases anomaly : view = AnomalyRateProjection.view
  · rw [anomaly]
    exact once.anomalyRate.get_congr again.anomalyRate
      ((anomalyRule formatReal).shown_repaired reached sound) key
  · have apart : ∀ projection : Projection, view ≠ projection.view := by
      intro projection
      cases projection with
      | offlineCount => exact offline
      | activeOutage => exact outage
      | anomalyRate => exact anomaly
    rw [get_route apart key soundDamaged, get_route apart key sound, reached.get_other sound apart]

theorem routeDetections_route (projections : List Projection) (detections : List DetectionEvent)
    (store : ProjectionStore) :
    routeDetections (projections.map (observe formatReal)) detections store =
      detections.foldl (route formatReal projections) store := by
  simp only [routeDetections, List.foldl_map]
  rfl

end

/-- However often some of the detections were offered, whatever became of the operations of the store
then: routing them all once without a fault leaves the keys and the values that it leaves from the
store before all that. -/
theorem replay_repairs (formatReal : Double → String)
    (earlier : List (Projection × List DetectionEvent)) (projections : List Projection)
    (detections : List DetectionEvent) {attempts : List (List DetectionEvent)}
    (known : ∀ attempted ∈ attempts, attempted ⊆ detections) (fault : Nat → Fault Raised) :
    let store := foldAll formatReal earlier
    let damaged := (attempts.foldl (attempt formatReal projections fault) (store, 0)).1
    let replayed := routeDetections (projections.map (observe formatReal)) detections
    (∀ view key, (replayed damaged).get view key = (replayed store).get view key) ∧
      ∀ view, (replayed damaged).keys view = (replayed store).keys view := by
  intro store damaged replayed
  have sound : Sound store := sound_foldAll earlier
  have reached : Reaches formatReal projections detections store damaged :=
    Reaches.attempts fault known Relation.ReflTransGen.refl
  have values : ∀ view key, (replayed damaged).get view key = (replayed store).get view key := by
    intro view key
    rw [show replayed damaged = _ from routeDetections_route projections detections damaged,
      show replayed store = _ from routeDetections_route projections detections store]
    exact get_repaired reached sound view key
  refine ⟨values, fun view => ?_⟩
  apply ProjectionStore.keys_eq ((replayed store).keys_ascending view)
    ((replayed store).keys_nodup view)
  intro key
  rw [ProjectionStore.mem_keys, values]

section Samples

open SharedProjection (sampleAnomaly)

/-- The second write is refused, the third is made without an answer. -/
def sampleFault : Nat → Fault Raised
  | 1 => .refused (.exception "ProvisionedThroughputExceededException")
  | 3 => .unanswered (.exception "ReadTimeoutError")
  | _ => .none

theorem replay_repairs_sample :
    let store := foldAll (fun _ => "") []
    let damaged := ([[sampleAnomaly false, sampleAnomaly true]].foldl
      (attempt (fun _ => "") [.anomalyRate] sampleFault) (store, 0)).1
    let replayed := routeDetections ([Projection.anomalyRate].map (observe fun _ => ""))
      [sampleAnomaly false, sampleAnomaly true]
    (∀ view key, (replayed damaged).get view key = (replayed store).get view key) ∧
      ∀ view, (replayed damaged).keys view = (replayed store).keys view :=
  replay_repairs (fun _ => "") [] [.anomalyRate] [sampleAnomaly false, sampleAnomaly true]
    (List.forall_mem_singleton.mpr (List.Subset.refl _)) sampleFault

end Samples

end Projection

end SignalForge
