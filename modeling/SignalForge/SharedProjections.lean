import SignalForge.ProjectionFolds
import SignalForge.ReadModifyWrite

/-! Two instances of a projection over one store whose get and put are atomic. -/

set_option autoImplicit false

namespace SignalForge

/-- The projections that read a set of ids, change it and write it back. -/
inductive SharedProjection where
  | anomalyRate (formatReal : Double → String)
  | offlineCount

/-- An id that comes to the set under a key or goes from it. -/
structure IdChange where
  key : String
  id : Uuid
  present : Bool
  deriving DecidableEq

namespace IdChange

def apply (change : IdChange) (ids : SortedSet Str) : SortedSet Str :=
  OfflineCountProjection.mark change.id change.present ids

end IdChange

namespace SharedProjection

def view : SharedProjection → String
  | .anomalyRate _ => AnomalyRateProjection.view
  | .offlineCount => OfflineCountProjection.view

def observe : SharedProjection → DetectionEvent → Call Raised ProjectionStore Unit
  | .anomalyRate formatReal => AnomalyRateProjection.observe formatReal
  | .offlineCount => OfflineCountProjection.observe

/-- What the projection changes on a detection; `none` where it raises or ignores it before it
reads the store. -/
def changeOf : SharedProjection → DetectionEvent → Option IdChange
  | .anomalyRate formatReal, detection =>
      match AnomalyRateProjection.entry formatReal detection with
      | .ok (some (key, detectionId)) => some ⟨key, detectionId, true⟩
      | _ => none
  | .offlineCount, detection =>
      (OfflineCountProjection.transition detection).map fun (storeId, deviceId, wentOffline) =>
        ⟨storeId, deviceId, wentOffline⟩

/-- The get step: the ids under the key of the change. -/
def get (projection : SharedProjection) (change : IdChange) (store : ProjectionStore) :
    Except Raised (SortedSet Str) :=
  loadIds (store.get projection.view change.key)

/-- The put step, from the ids the get step returned. -/
def put : SharedProjection → IdChange → SortedSet Str → ProjectionStore → ProjectionStore
  | .anomalyRate _, change, ids, store =>
      store.put AnomalyRateProjection.view change.key (dumpIds (ids.insert change.id.text))
  | .offlineCount, change, ids, store =>
      OfflineCountProjection.save change.key (change.apply ids) store

/-- With nothing in between, a get and a put are one observation. -/
theorem observe_eq (projection : SharedProjection) (detection : DetectionEvent)
    (store : ProjectionStore) :
    (projection.observe detection store).2 =
      match projection.changeOf detection with
      | none => store
      | some change =>
          match projection.get change store with
          | .ok ids => projection.put change ids store
          | .error _ => store := by
  cases projection with
  | anomalyRate formatReal =>
      simp only [observe, changeOf, AnomalyRateProjection.observe, AnomalyRateProjection.observeBy,
        AnomalyRateProjection.entry, Call.bind_apply, Call.lift_apply]
      rcases AnomalyRateProjection.entryBy Binary64.round formatReal detection with _ | _ | ⟨key, detectionId⟩
      · rfl
      · rfl
      · simp only [get, view, Call.bind_apply, Call.read_apply, Call.lift_apply, id_eq]
        cases loadIds (store.get AnomalyRateProjection.view key) <;> rfl
  | offlineCount =>
      simp only [observe, changeOf, OfflineCountProjection.observe]
      rcases OfflineCountProjection.transition detection with _ | ⟨storeId, deviceId, wentOffline⟩
      · rfl
      · simp only [get, view, Option.map_some, Call.bind_apply, Call.read_apply, Call.lift_apply,
          id_eq, OfflineCountProjection.load]
        cases loadIds (store.get OfflineCountProjection.view storeId) <;> rfl

/-- What an instance has to do, and what its last get returned until it is put. -/
abbrev Instance : Type := ReadModifyWrite.Worker IdChange (SortedSet Str)

/-- The store two instances share. -/
structure Shared where
  store : ProjectionStore
  instances : Bool → Instance

def start (projection : SharedProjection) (store : ProjectionStore)
    (sequences : Bool → List DetectionEvent) : Shared where
  store := store
  instances shard := ⟨(sequences shard).filterMap projection.changeOf, none⟩

/-- The next step of an instance: its put if it has got, else the get of its next detection. -/
def step (projection : SharedProjection) (shared : Shared) (shard : Bool) : Shared :=
  match (shared.instances shard).loaded, (shared.instances shard).todo with
  | some (change, ids), todo =>
      { store := projection.put change ids shared.store
        instances := Function.update shared.instances shard ⟨todo, none⟩ }
  | none, change :: rest =>
      let loaded := (projection.get change shared.store).toOption.map (change, ·)
      { shared with instances := Function.update shared.instances shard ⟨rest, loaded⟩ }
  | none, [] => shared

def run (projection : SharedProjection) (shared : Shared) (schedule : List Bool) : Shared :=
  schedule.foldl (step projection) shared

def Finished (shared : Shared) : Prop := ∀ shard, (shared.instances shard).finished

/-- If the instance puts next, the key still holds the ids its get returned. -/
def Unchanged (projection : SharedProjection) (shared : Shared) (shard : Bool) : Prop :=
  ∀ change ids, (shared.instances shard).loaded = some (change, ids) →
    projection.get change shared.store = .ok ids

/-- No put of the other instance that changes the key falls between a get and its put. -/
def Isolated (projection : SharedProjection) (shared : Shared) : List Bool → Prop
  | [] => True
  | shard :: rest =>
      Unchanged projection shared shard ∧ Isolated projection (step projection shared shard) rest

/-- The ids under each key, and the instances. -/
def cells (projection : SharedProjection) (shared : Shared) :
    ReadModifyWrite.System Bool String (SortedSet Str) IdChange where
  cells := idsAt projection.view shared.store
  workers := shared.instances

variable {projection : SharedProjection} {shared : Shared}

theorem get_ok (keeps : KeepsIds projection.view shared.store) (change : IdChange) :
    projection.get change shared.store = .ok (idsAt projection.view shared.store change.key) :=
  keeps.load change.key

/-- The changes a projection makes; anomalies only come. -/
def Makes (projection : SharedProjection) (change : IdChange) : Prop :=
  match projection with
  | .anomalyRate _ => change.present = true
  | .offlineCount => True

theorem makes_changeOf {detection : DetectionEvent} {change : IdChange}
    (changed : projection.changeOf detection = some change) : projection.Makes change := by
  cases projection with
  | offlineCount => trivial
  | anomalyRate formatReal =>
      simp only [changeOf] at changed
      split at changed
      · exact (Option.some.inj changed) ▸ rfl
      · cases changed

theorem put_rewritten {change : IdChange} (made : projection.Makes change) {ids : SortedSet Str}
    (plain : plainIds ids) (store : ProjectionStore) :
    KeepsIds.Rewritten projection.view change.key (change.apply ids) store
      (projection.put change ids store) := by
  refine ⟨OfflineCountProjection.plainIds_mark change.id change.present plain, ?_, ?_⟩
  · cases projection with
    | anomalyRate formatReal =>
        simp only [Makes] at made
        simp only [view, put, ProjectionStore.get_put, and_self, ↓reduceIte, IdChange.apply,
          OfflineCountProjection.mark, made, stored_insert]
    | offlineCount =>
        simp only [view, put, OfflineCountProjection.get_save, and_self, ↓reduceIte]
  · intro other apart
    cases projection with
    | anomalyRate formatReal => simp only [view, put, ProjectionStore.get_put, apart, and_false, ↓reduceIte]
    | offlineCount =>
        simp only [view, put, OfflineCountProjection.get_save, apart, and_false, ↓reduceIte]

/-- What holds in every run: the view is kept in its form, and the instances hold sets of ids and
changes the projection makes. -/
structure Sound (projection : SharedProjection) (shared : Shared) : Prop where
  keeps : KeepsIds projection.view shared.store
  plain : ∀ shard change ids, (shared.instances shard).loaded = some (change, ids) → plainIds ids
  makes : ∀ shard, ∀ change ∈ (shared.instances shard).remaining, projection.Makes change

/-- An instance that puts what it loaded rewrites the key of its change. -/
theorem Sound.puts (sound : Sound projection shared) {shard : Bool} {change : IdChange}
    {ids : SortedSet Str} (loaded : (shared.instances shard).loaded = some (change, ids)) :
    KeepsIds.Rewritten projection.view change.key (change.apply ids) shared.store
      (projection.put change ids shared.store) := by
  have made : projection.Makes change := sound.makes shard change (by
    rw [ReadModifyWrite.Worker.remaining, loaded]
    exact List.mem_cons_self)
  exact put_rewritten made (sound.plain shard change ids loaded) shared.store

/-- A step of an instance is a step of a worker on the sets of ids. -/
theorem cells_step (sound : Sound projection shared) (shard : Bool) :
    projection.cells (step projection shared shard) =
      ReadModifyWrite.step IdChange.key IdChange.apply (projection.cells shared) shard := by
  rw [step, ReadModifyWrite.step]
  simp only [cells]
  cases loaded : (shared.instances shard).loaded with
  | some read =>
      obtain ⟨change, ids⟩ := read
      have rewritten := sound.puts loaded
      simp only [ReadModifyWrite.System.mk.injEq, and_true]
      funext key
      rw [rewritten.idsAt_eq, Function.update_apply]
  | none =>
      cases todo : (shared.instances shard).todo with
      | nil => rfl
      | cons change rest =>
          simp only [get_ok sound.keeps, Except.toOption, Option.map_some]

theorem sound_step (sound : Sound projection shared) (shard : Bool) :
    Sound projection (step projection shared shard) := by
  have stays : ∀ other, ∀ change ∈ ((step projection shared shard).instances other).remaining,
      change ∈ (shared.instances other).remaining := by
    intro other change member
    have same := congrArg (fun system => system.workers other) (cells_step sound shard)
    have all := ReadModifyWrite.remaining_step IdChange.key IdChange.apply
      (projection.cells shared) shard other
    rw [← same] at all
    simp only [cells] at all
    rw [← all]
    exact List.mem_append_right _ member
  refine ⟨?_, ?_, fun other change member => sound.makes other change (stays other change member)⟩
  · rw [step]
    cases loaded : (shared.instances shard).loaded with
    | some read =>
        obtain ⟨change, ids⟩ := read
        exact (sound.puts loaded).keeps sound.keeps
    | none => cases (shared.instances shard).todo <;> exact sound.keeps
  · intro other change ids held
    rw [step] at held
    cases loaded : (shared.instances shard).loaded with
    | some read =>
        obtain ⟨written, value⟩ := read
        simp only [loaded, Function.update_apply] at held
        split at held
        · cases held
        · exact sound.plain other change ids held
    | none =>
        cases todo : (shared.instances shard).todo with
        | nil =>
            simp only [loaded, todo] at held
            exact sound.plain other change ids held
        | cons next rest =>
            simp only [loaded, todo, get_ok sound.keeps, Except.toOption, Option.map_some,
              Function.update_apply] at held
            split at held
            · cases held
              exact sound.keeps.plain _
            · exact sound.plain other change ids held

theorem sound_start {store : ProjectionStore} (keeps : KeepsIds projection.view store)
    (sequences : Bool → List DetectionEvent) : Sound projection (start projection store sequences) where
  keeps := keeps
  plain _ _ _ loaded := by cases loaded
  makes shard change member := by
    obtain ⟨detection, _, changed⟩ := List.mem_filterMap.mp member
    exact makes_changeOf changed

/-- A run of the instances is a run of workers on the sets of ids. -/
theorem cells_run (sound : Sound projection shared) (schedule : List Bool) :
    Sound projection (run projection shared schedule) ∧
      projection.cells (run projection shared schedule) =
        ReadModifyWrite.run IdChange.key IdChange.apply (projection.cells shared) schedule := by
  induction schedule generalizing shared with
  | nil => exact ⟨sound, rfl⟩
  | cons shard rest ih =>
      obtain ⟨soundAfter, same⟩ := ih (sound_step sound shard)
      refine ⟨soundAfter, same.trans ?_⟩
      rw [cells_step sound shard]
      rfl

theorem isolated_cells (sound : Sound projection shared) {schedule : List Bool}
    (isolated : Isolated projection shared schedule) :
    ReadModifyWrite.Isolated IdChange.key IdChange.apply (projection.cells shared) schedule := by
  induction schedule generalizing shared with
  | nil => trivial
  | cons shard rest ih =>
      obtain ⟨here, later⟩ := isolated
      refine ⟨fun change ids loaded => ?_, ?_⟩
      · have current := here change ids loaded
        rw [get_ok sound.keeps] at current
        exact Except.ok.inj current
      · rw [← cells_step sound shard]
        exact ih (sound_step sound shard) later

theorem isolated_append {first second : List Bool} :
    Isolated projection shared (first ++ second) ↔
      Isolated projection shared first ∧ Isolated projection (run projection shared first) second := by
  induction first generalizing shared with
  | nil => simp only [List.nil_append, Isolated, true_and, run, List.foldl_nil]
  | cons shard rest ih =>
      rw [List.cons_append, Isolated, Isolated, ih, and_assoc]
      rfl

/-- A get directly followed by its put. -/
theorem isolated_pair (sound : Sound projection shared)
    (idle : ∀ shard, (shared.instances shard).loaded = none) (shard : Bool) :
    Isolated projection shared [shard, shard] ∧
      ∀ other, ((run projection shared [shard, shard]).instances other).loaded = none := by
  cases todo : (shared.instances shard).todo with
  | nil =>
      have stays : step projection shared shard = shared := by
        rw [step]
        simp only [idle shard, todo]
      have vacuous : Unchanged projection shared shard := by
        intro change ids loaded
        rw [idle shard] at loaded
        cases loaded
      refine ⟨⟨vacuous, ?_, trivial⟩, ?_⟩
      · rwa [stays]
      · intro other
        rw [run, List.foldl_cons, List.foldl_cons, List.foldl_nil, stays, stays]
        exact idle other
  | cons change rest =>
      have loads : step projection shared shard = { shared with
          instances := Function.update shared.instances shard
            ⟨rest, some (change, idsAt projection.view shared.store change.key)⟩ } := by
        rw [step]
        simp only [idle shard, todo, get_ok sound.keeps, Except.toOption, Option.map_some]
      refine ⟨⟨?_, ?_, trivial⟩, ?_⟩
      · intro other ids loaded
        rw [idle shard] at loaded
        cases loaded
      · rw [loads]
        intro other ids loaded
        simp only [Function.update_self, Option.some.injEq, Prod.mk.injEq] at loaded
        obtain ⟨rfl, rfl⟩ := loaded
        exact get_ok sound.keeps change
      · intro other
        rw [run, List.foldl_cons, List.foldl_cons, List.foldl_nil, loads, step]
        simp only [Function.update_self, Function.update_idem, Function.update_apply]
        split
        · rfl
        · exact idle other

/-- Instances that take turns by whole observations are isolated. -/
theorem isolated_turns (sound : Sound projection shared)
    (idle : ∀ shard, (shared.instances shard).loaded = none) (turns : List Bool) :
    Isolated projection shared (turns.flatMap fun shard => [shard, shard]) := by
  induction turns generalizing shared with
  | nil => trivial
  | cons shard rest ih =>
      obtain ⟨here, idleAfter⟩ := isolated_pair sound idle shard
      rw [List.flatMap_cons, isolated_append]
      exact ⟨here, ih (cells_run sound [shard, shard]).1 idleAfter⟩

/-- Ids that only come are all there in the end, beside those there before. -/
theorem mem_foldl_apply (writes : List (Bool × IdChange))
    (come : ∀ write ∈ writes, write.2.present = true) (cells : String → SortedSet Str)
    (key : String) (id : Str) :
    id ∈ writes.foldl (fun cells write =>
        ReadModifyWrite.apply IdChange.key IdChange.apply cells write.2) cells key ↔
      id ∈ cells key ∨ ∃ write ∈ writes, write.2.key = key ∧ write.2.id.text = id := by
  induction writes generalizing cells with
  | nil => simp
  | cons write rest ih =>
      obtain ⟨here, later⟩ := List.forall_mem_cons.mp come
      rw [List.foldl_cons, ih later, ReadModifyWrite.apply, Function.update_apply]
      by_cases same : key = write.2.key
      · rw [if_pos same, IdChange.apply, OfflineCountProjection.mark, if_pos here,
          SortedSet.mem_insert, ← same]
        simp only [List.exists_mem_cons_iff, ← same, true_and]
        rw [or_assoc, or_left_comm, eq_comm (a := id)]
      · have apart : write.2.key ≠ key := fun equal => same equal.symm
        simp only [same, ↓reduceIte, List.exists_mem_cons_iff, apart, false_and, false_or]

/-- The detections each projection is to keep: anomalies, and devices gone offline. -/
def Adds (projection : SharedProjection) (detection : DetectionEvent) : Prop :=
  match projection with
  | .anomalyRate _ => detection.payload.detectionType = detectionTypeSignalAnomaly
  | .offlineCount => detection.payload.detectionType = detectionTypeDeviceOffline

theorem present_of_adds {detection : DetectionEvent} {change : IdChange}
    (adds : projection.Adds detection) (changed : projection.changeOf detection = some change) :
    change.present = true := by
  cases projection with
  | anomalyRate formatReal => exact makes_changeOf changed
  | offlineCount =>
      simp only [Adds] at adds
      obtain ⟨⟨storeId, deviceId, wentOffline⟩, handled, rfl⟩ := Option.map_eq_some_iff.mp changed
      rw [OfflineCountProjection.transition] at handled
      simp only [adds, true_or, ↓reduceIte, decide_true] at handled
      obtain ⟨_, _, same⟩ := Option.map_eq_some_iff.mp handled
      cases same
      rfl

/-- Where no put of one instance falls between a get and the put of the other and changes the key,
every key holds, once both are done, the ids of all the detections of both. -/
theorem isolated_keeps_all (projection : SharedProjection) {store : ProjectionStore}
    (keeps : KeepsIds projection.view store) (sequences : Bool → List DetectionEvent)
    (adds : ∀ shard, ∀ detection ∈ sequences shard, projection.Adds detection)
    (schedule : List Bool)
    (isolated : Isolated projection (start projection store sequences) schedule)
    (finished : Finished (run projection (start projection store sequences) schedule))
    (key : String) (id : Str) :
    id ∈ idsAt projection.view (run projection (start projection store sequences) schedule).store key ↔
      id ∈ idsAt projection.view store key ∨
        ∃ shard, ∃ detection ∈ sequences shard, ∃ change,
          projection.changeOf detection = some change ∧ change.key = key ∧ change.id.text = id := by
  have sound := sound_start keeps sequences
  obtain ⟨_, same⟩ := cells_run sound schedule
  have serial := ReadModifyWrite.run_cells _ _ (isolated_cells sound isolated)
  rw [← same] at serial
  have finishedCells : ∀ shard, ((ReadModifyWrite.run IdChange.key IdChange.apply
      (projection.cells (start projection store sequences)) schedule).workers shard).finished := by
    rw [← same]
    exact finished
  have written := ReadModifyWrite.mem_writes_of_finished IdChange.key IdChange.apply
    (projection.cells (start projection store sequences)) schedule finishedCells
  have had : ∀ change, (∃ shard, change ∈
      ((projection.cells (start projection store sequences)).workers shard).remaining) ↔
        ∃ shard, ∃ detection ∈ sequences shard, projection.changeOf detection = some change := by
    intro change
    apply exists_congr
    intro shard
    exact List.mem_filterMap
  have come : ∀ write ∈ ReadModifyWrite.writes IdChange.key IdChange.apply
      (projection.cells (start projection store sequences)) schedule, write.2.present = true := by
    intro write member
    obtain ⟨shard, detection, inSequence, changed⟩ := (had _).mp ((written _).mp ⟨write.1, member⟩)
    exact present_of_adds (adds shard detection inSequence) changed
  have held : idsAt projection.view (run projection (start projection store sequences) schedule).store
      key = _ := congrFun serial key
  rw [held, mem_foldl_apply _ come]
  apply or_congr Iff.rfl
  constructor
  · rintro ⟨write, member, onKey, named⟩
    obtain ⟨shard, detection, inSequence, changed⟩ := (had _).mp ((written _).mp ⟨write.1, member⟩)
    exact ⟨shard, detection, inSequence, write.2, changed, onKey, named⟩
  · rintro ⟨shard, detection, inSequence, change, changed, onKey, named⟩
    obtain ⟨worker, member⟩ := (written _).mpr ((had _).mpr ⟨shard, detection, inSequence, changed⟩)
    exact ⟨_, member, onKey, named⟩

section Samples

def sampleRate : SharedProjection := .anomalyRate fun _ => ""

/-- An anomaly of the same signal in the same minute, at a store of the shard. -/
def sampleAnomaly (shard : Bool) : DetectionEvent where
  eventId := if shard then 0x11111111111151118111111111111111#128
    else 0x22222222222252228222222222222222#128
  eventTimestamp := .utc .epoch
  traceId := none
  payload := {
    detectionId := if shard then 0x33333333333353338333333333333333#128
      else 0x44444444444454448444444444444444#128
    detectionType := detectionTypeSignalAnomaly
    severity := .warning
    detectedAt := .utc .epoch
    storeId := if shard then "store-2" else "store-1"
    deviceId := none
    sourceEventId := 0x55555555555555558555555555555555#128
    thresholdBreached := "latency_ms 900.0 above threshold 500.0"
    details := OrderedDict.empty.set "signal_name" (.text "latency_ms") }

def sampleSequences (shard : Bool) : List DetectionEvent := [sampleAnomaly shard]

theorem sampleSequences_adds (shard : Bool) :
    ∀ detection ∈ sampleSequences shard, sampleRate.Adds detection := by
  intro detection member
  rw [List.mem_singleton.mp member]
  rfl

theorem sampleAnomaly_change :
    sampleRate.changeOf (sampleAnomaly false) =
      some ⟨"latency_ms|1970-01-01T00:00:00+00:00", 0x44444444444454448444444444444444#128, true⟩ := by
  decide +kernel

theorem sample_finished (schedule : List Bool)
    (idle : ∀ shard, let worker := (run sampleRate (start sampleRate .empty sampleSequences)
      schedule).instances shard
      worker.loaded.isNone ∧ worker.todo = []) :
    Finished (run sampleRate (start sampleRate .empty sampleSequences) schedule) :=
  fun shard => ⟨Option.isNone_iff_eq_none.mp (idle shard).1, (idle shard).2⟩

/-- One instance after the other. -/
theorem isolated_keeps_all_sample :
    Uuid.text 0x44444444444454448444444444444444#128 ∈
      idsAt sampleRate.view
        (run sampleRate (start sampleRate .empty sampleSequences) [false, false, true, true]).store
        "latency_ms|1970-01-01T00:00:00+00:00" :=
  (isolated_keeps_all sampleRate (keepsIds_empty _) sampleSequences sampleSequences_adds
    [false, false, true, true]
    (isolated_turns (sound_start (keepsIds_empty _) sampleSequences) (fun _ => rfl) [false, true])
    (sample_finished _ (by decide +kernel)) _ _).mpr
      (Or.inr ⟨false, _, List.mem_singleton_self _, _, sampleAnomaly_change, rfl, rfl⟩)

/-- Both instances get before either puts: the later put drops the id of the earlier. -/
theorem interleaved_put_loses :
    ∃ sequences schedule, (∀ shard, ∀ detection ∈ sequences shard, sampleRate.Adds detection) ∧
      Finished (run sampleRate (start sampleRate .empty sequences) schedule) ∧
      ∃ shard, ∃ detection ∈ sequences shard, ∃ change,
        sampleRate.changeOf detection = some change ∧
          change.id.text ∉ idsAt sampleRate.view
            (run sampleRate (start sampleRate .empty sequences) schedule).store change.key := by
  refine ⟨sampleSequences, [false, true, false, true], sampleSequences_adds,
    sample_finished _ (by decide +kernel), false, _, List.mem_singleton_self _, _,
    sampleAnomaly_change, ?_⟩
  decide +kernel

end Samples

end SharedProjection

end SignalForge
