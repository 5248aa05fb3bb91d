import Mathlib.Logic.Function.Basic
import SignalForge.AnomalyRate
import SignalForge.DatetimeTextReading
import SignalForge.Page
import SignalForge.ProjectionReplay

/-! The DynamoDB store behind the dashboard projections, and that it answers as the in-memory store
does. DynamoDB itself is a map from view and key to an item whose queries answer in pages. -/

set_option autoImplicit false

namespace SignalForge

structure Item where
  value : String
  ttl : Option Int
  deriving DecidableEq

/-- The items of a table by partition key and sort key. -/
abbrev Table : Type := OrderedDict (String × String) Item

/-- A call of the client that changes a table. -/
inductive ItemWrite where
  | putItem (tableName view key : String) (item : Item)
  | deleteItem (tableName view key : String)
  deriving DecidableEq

namespace ItemWrite

def tableName : ItemWrite → String
  | putItem tableName _ _ _ => tableName
  | deleteItem tableName _ _ => tableName

def apply (tables : String → Table) : ItemWrite → String → Table
  | putItem tableName view key item =>
      Function.update tables tableName ((tables tableName).set (view, key) item)
  | deleteItem tableName view key =>
      Function.update tables tableName ((tables tableName).erase (view, key))

end ItemWrite

/-- The tables by name, and the calls that changed them. -/
structure DynamoDb where
  tables : String → Table
  writes : List ItemWrite := []

namespace DynamoDb

def send (write : ItemWrite) (database : DynamoDb) : DynamoDb :=
  ⟨write.apply database.tables, database.writes ++ [write]⟩

/-- The sort keys of a partition. -/
def partition (table : Table) (view : String) : List String :=
  (table.keys.filter (·.1 = view)).map Prod.snd

/-- How the queries of a partition answer, from a start key on. -/
abbrev Query (τ : Type) : Type := Table → String → Option τ → Page τ String

/-- The pages of every query link up and hold the partition's keys, split in any way. -/
def Paginates {τ : Type} (query : Query τ) : Prop :=
  ∀ table view, ∃ listed, Page.Lists (query table view) none listed ∧
    listed.Perm (partition table view)

end DynamoDb

/-- The expiry of an item in seconds, where its view has one. -/
abbrev TtlResolver : Type := String → String → Except Raised (Option Int)

namespace TtlResolver

/-- `int(value)` of a float. -/
def truncate (value : ℚ) : Int := if value < 0 then ⌈value⌉ else ⌊value⌋

def makeTtlResolver (policies : OrderedDict String Int) : TtlResolver := fun view key =>
  match policies.get? view with
  | none => .ok none
  | some retention => do
      let bucketIso := (Text.rpartition '|' key.toList).2
      let bucketTime ← Datetime.fromisoformat bucketIso
      let timestamp := Binary64.round (bucketTime.micros / microsPerSecond)
      pure (some (truncate timestamp + retention))

def defaultAnomalyRateTtlSeconds : Int := 86400

def defaultTtlResolver : TtlResolver :=
  makeTtlResolver (OrderedDict.empty.set AnomalyRateProjection.view defaultAnomalyRateTtlSeconds)

end TtlResolver

structure DynamoDbProjectionStore where
  table : Option String
  ttlResolver : TtlResolver := TtlResolver.defaultTtlResolver

namespace DynamoDbProjectionStore

def get (store : DynamoDbProjectionStore) (view key : String) :
    Call Raised DynamoDb (Option String) :=
  match store.table with
  | none => pure none
  | some table => Call.read fun database => ((database.tables table).get? (view, key)).map Item.value

def put (store : DynamoDbProjectionStore) (view key value : String) : Call Raised DynamoDb Unit :=
  match store.table with
  | none => pure ()
  | some table => do
      let expiry ← Call.lift (store.ttlResolver view key)
      Call.write (DynamoDb.send (.putItem table view key ⟨value, expiry⟩))

def delete (store : DynamoDbProjectionStore) (view key : String) : Call Raised DynamoDb Unit :=
  match store.table with
  | none => pure ()
  | some table => Call.write (DynamoDb.send (.deleteItem table view key))

/-- The keys of all pages, sorted; `none` where the turns of the loop run out. -/
def keys {τ : Type} (store : DynamoDbProjectionStore) (query : DynamoDb.Query τ) (turns : Nat)
    (view : String) : Call Raised DynamoDb (Option (List String)) :=
  match store.table with
  | none => pure (some [])
  | some table => Call.read fun database =>
      (Page.collect (query (database.tables table) view) turns none []).map
        (·.insertionSort (· ≤ ·))

end DynamoDbProjectionStore

/-- An operation of the store protocol. -/
inductive StoreOp where
  | get (view key : String)
  | put (view key value : String)
  | delete (view key : String)
  | keys (view : String)

inductive StoreAnswer where
  | found (value : Option String)
  | done
  | listed (keys : List String)
  deriving DecidableEq

namespace StoreOp

def inMemory (store : ProjectionStore) : StoreOp → StoreAnswer × ProjectionStore
  | get view key => (.found (store.get view key), store)
  | put view key value => (.done, store.put view key value)
  | delete view key => (.done, store.delete view key)
  | keys view => (.listed (store.keys view), store)

/-- `none` where the turns of a listing run out. -/
def dynamoDb {τ : Type} (store : DynamoDbProjectionStore) (query : DynamoDb.Query τ) (turns : Nat) :
    StoreOp → Call Raised DynamoDb (Option StoreAnswer)
  | get view key => do
      let value ← store.get view key
      pure (some (.found value))
  | put view key value => do
      store.put view key value
      pure (some .done)
  | delete view key => do
      store.delete view key
      pure (some .done)
  | keys view => do
      let listed ← store.keys query turns view
      pure (listed.map .listed)

/-- What the operations answer one after the other, and the store they leave. -/
def inMemoryRun : List StoreOp → ProjectionStore → List StoreAnswer × ProjectionStore
  | [], store => ([], store)
  | op :: rest, store =>
      let (answer, after) := op.inMemory store
      let (answers, final) := inMemoryRun rest after
      (answer :: answers, final)

/-- The same over DynamoDB, each operation with the pages its queries answer in; one that raises is
followed by the next. -/
def dynamoDbRun {τ : Type} (store : DynamoDbProjectionStore) (turns : Nat) :
    List (StoreOp × DynamoDb.Query τ) → DynamoDb →
      List (Except Raised (Option StoreAnswer)) × DynamoDb
  | [], database => ([], database)
  | (op, query) :: rest, database =>
      let (answer, after) := op.dynamoDb store query turns database
      let (answers, final) := dynamoDbRun store turns rest after
      (answer :: answers, final)

/-- What the projections issue: what they put into the anomaly rate is under the key of a signal and a
bucket. -/
def Issued : StoreOp → Prop
  | put view key _ => view = OfflineCountProjection.view ∨ view = ActiveOutageProjection.view ∨
      view = AnomalyRateProjection.view ∧ ∃ signalName bucket,
        key = AnomalyRateProjection.key signalName (.utc bucket)
  | _ => True

end StoreOp

namespace DynamoDb

theorem mem_partition {table : Table} {view key : String} :
    key ∈ partition table view ↔ (table.get? (view, key)).isSome := by
  rw [← OrderedDict.mem_keys_iff, partition, List.mem_map]
  constructor
  · rintro ⟨⟨held, key⟩, member, rfl⟩
    obtain ⟨member, same⟩ := List.mem_filter.mp member
    rw [← of_decide_eq_true same]
    exact member
  · intro member
    exact ⟨(view, key), List.mem_filter.mpr ⟨member, decide_eq_true rfl⟩, rfl⟩

theorem partition_nodup (table : Table) (view : String) : (partition table view).Nodup := by
  apply List.Nodup.map_on
  · intro first member second otherMember same
    have firstView := of_decide_eq_true (List.mem_filter.mp member).2
    have secondView := of_decide_eq_true (List.mem_filter.mp otherMember).2
    exact Prod.ext (firstView.trans secondView.symm) same
  · exact (OrderedDict.keys_nodup table).filter _

/-- The table holds the values that the in-memory store does. -/
def Refines (table : Table) (store : ProjectionStore) : Prop :=
  ∀ view key, (table.get? (view, key)).map Item.value = store.get view key

theorem refines_empty : Refines .empty .empty := fun _ _ => rfl

namespace Refines

variable {table : Table} {store : ProjectionStore}

theorem putItem (refines : Refines table store) (view key : String) (item : Item) :
    Refines (table.set (view, key) item) (store.put view key item.value) := by
  intro otherView other
  rw [OrderedDict.get?_set, ProjectionStore.get_put]
  by_cases same : otherView = view ∧ other = key
  · rw [if_pos same, if_pos (Prod.ext same.1 same.2)]
    rfl
  · rw [if_neg same, if_neg fun equal => same (Prod.mk.inj equal)]
    exact refines otherView other

theorem deleteItem (refines : Refines table store) (view key : String) :
    Refines (table.erase (view, key)) (store.delete view key) := by
  intro otherView other
  rw [OrderedDict.get?_erase, ProjectionStore.get_delete]
  by_cases same : otherView = view ∧ other = key
  · rw [if_pos same, if_pos (Prod.ext same.1 same.2)]
    rfl
  · rw [if_neg same, if_neg fun equal => same (Prod.mk.inj equal)]
    exact refines otherView other

/-- A partition's keys in any order are sorted to the keys of the view. -/
theorem keys_eq (refines : Refines table store) {view : String} {listed : List String}
    (whole : listed.Perm (partition table view)) :
    listed.insertionSort (· ≤ ·) = store.keys view := by
  have sorted := List.perm_insertionSort (· ≤ ·) listed
  apply (ProjectionStore.keys_eq (List.pairwise_insertionSort (· ≤ ·) listed) ?_ ?_).symm
  · exact sorted.nodup_iff.mpr (whole.nodup_iff.mpr (partition_nodup table view))
  · intro key
    rw [sorted.mem_iff, whole.mem_iff, mem_partition, ← refines view key, Option.isSome_map]

end Refines

end DynamoDb

namespace AnomalyRateProjection

/-- What stands behind the last separator of a key is its bucket. -/
theorem rpartition_key (signalName : String) (bucket : Instant) :
    (Text.rpartition '|' (key signalName (.utc bucket)).toList).2 =
      ((Datetime.utc bucket).isoformat "T").toList := by
  rw [key_toList, Text.rpartition_append (bar_not_mem_bucketText bucket)]

theorem fromisoformat_bucketText (bucket : Instant) :
    Datetime.fromisoformat ((Datetime.utc bucket).isoformat "T").toList = .ok (.utc bucket) := by
  have letter : "T" = String.singleton 'T' := rfl
  rw [letter]
  exact Datetime.fromisoformat_isoformat 'T' bucket

end AnomalyRateProjection

/-- The default resolver reads the bucket off every key the anomaly rate writes, whatever the signal
is called, and leaves the other views alone. -/
theorem defaultTtlResolver_returns {view key value : String}
    (issued : StoreOp.Issued (.put view key value)) :
    ∃ expiry, TtlResolver.defaultTtlResolver view key = .ok expiry := by
  have policy : ∀ other, (OrderedDict.empty.set AnomalyRateProjection.view
      TtlResolver.defaultAnomalyRateTtlSeconds).get? other =
        if other = AnomalyRateProjection.view then some TtlResolver.defaultAnomalyRateTtlSeconds
        else none := fun other => OrderedDict.get?_set ..
  rw [TtlResolver.defaultTtlResolver, TtlResolver.makeTtlResolver]
  rcases issued with rfl | rfl | ⟨rfl, signalName, bucket, rfl⟩
  · rw [policy, if_neg (by decide)]
    exact ⟨_, rfl⟩
  · rw [policy, if_neg (by decide)]
    exact ⟨_, rfl⟩
  · rw [policy, if_pos rfl]
    simp only [AnomalyRateProjection.rpartition_key, AnomalyRateProjection.fromisoformat_bucketText]
    exact ⟨_, rfl⟩

namespace DynamoDbProjectionStore

open DynamoDb (Refines Query Paginates)

variable {τ : Type}

/-- One operation: it returns what the in-memory store does, and the stores go on holding the same. -/
theorem dynamoDb_step (name : String) {op : StoreOp} (issued : op.Issued) {query : Query τ}
    (paginates : Paginates query) {database : DynamoDb} {store : ProjectionStore}
    (refines : Refines (database.tables name) store) :
    ∃ enough after, Refines (after.tables name) (op.inMemory store).2 ∧
      ∀ turns, enough ≤ turns →
        op.dynamoDb { table := some name } query turns database =
          (.ok (some (op.inMemory store).1), after) := by
  cases op with
  | get view key =>
      refine ⟨0, database, refines, fun turns _ => ?_⟩
      show (Except.ok (some (StoreAnswer.found
        (((database.tables name).get? (view, key)).map Item.value))), database) = _
      rw [refines view key]
      rfl
  | put view key value =>
      obtain ⟨expiry, resolved⟩ := defaultTtlResolver_returns issued
      refine ⟨0, database.send (.putItem name view key ⟨value, expiry⟩), ?_, fun turns _ => ?_⟩
      · simp only [DynamoDb.send, ItemWrite.apply, Function.update_self]
        exact refines.putItem view key ⟨value, expiry⟩
      · simp only [StoreOp.dynamoDb, put, Call.bind_apply, Call.lift_apply, resolved,
          Call.write_apply, Call.pure_apply, StoreOp.inMemory]
  | delete view key =>
      refine ⟨0, database.send (.deleteItem name view key), ?_, fun turns _ => rfl⟩
      simp only [DynamoDb.send, ItemWrite.apply, Function.update_self]
      exact refines.deleteItem view key
  | keys view =>
      obtain ⟨listed, lists, whole⟩ := paginates (database.tables name) view
      obtain ⟨enough, collects⟩ := lists.collect_eq
      refine ⟨enough, database, refines, fun turns within => ?_⟩
      simp only [StoreOp.dynamoDb, keys, Call.bind_apply, Call.read_apply, Call.pure_apply,
        collects turns within, List.nil_append, Option.map_some, refines.keys_eq whole,
        StoreOp.inMemory]

/-- From tables and a store that hold the same, every run of operations the projections issue is
answered alike, whatever pages the queries come in, and no operation raises. -/
theorem dynamoDb_refines_inMemory (name : String) (calls : List (StoreOp × Query τ))
    (issued : ∀ call ∈ calls, call.1.Issued) (paginates : ∀ call ∈ calls, Paginates call.2)
    {database : DynamoDb} {store : ProjectionStore}
    (refines : Refines (database.tables name) store) :
    ∃ enough after,
      Refines (after.tables name) (StoreOp.inMemoryRun (calls.map Prod.fst) store).2 ∧
        ∀ turns, enough ≤ turns →
          StoreOp.dynamoDbRun { table := some name } turns calls database =
            ((StoreOp.inMemoryRun (calls.map Prod.fst) store).1.map fun answer => .ok (some answer),
              after) := by
  induction calls generalizing database store with
  | nil => exact ⟨0, database, refines, fun _ _ => rfl⟩
  | cons call rest ih =>
      obtain ⟨issuedHere, issuedLater⟩ := List.forall_mem_cons.mp issued
      obtain ⟨paginatesHere, paginatesLater⟩ := List.forall_mem_cons.mp paginates
      obtain ⟨first, between, refinesBetween, here⟩ :=
        dynamoDb_step name issuedHere paginatesHere refines
      obtain ⟨more, after, refinesAfter, later⟩ := ih issuedLater paginatesLater refinesBetween
      refine ⟨max first more, after, refinesAfter, fun turns within => ?_⟩
      obtain ⟨op, query⟩ := call
      rw [StoreOp.dynamoDbRun, here turns (by omega)]
      simp only [later turns (by omega), List.map_cons, StoreOp.inMemoryRun]

end DynamoDbProjectionStore

/-- Whatever a projection observes, what it does to its store is a run of operations it issues. -/
theorem Projection.observe_issues (formatReal : Double → String) (projection : Projection)
    (detection : DetectionEvent) (store : ProjectionStore) :
    ∃ ops, (∀ op ∈ ops, StoreOp.Issued op) ∧
      (StoreOp.inMemoryRun ops store).2 = (projection.observe formatReal detection store).2 := by
  have nothing : ∃ ops, (∀ op ∈ ops, StoreOp.Issued op) ∧
      (StoreOp.inMemoryRun ops store).2 = store := ⟨[], List.forall_mem_nil _, rfl⟩
  cases projection with
  | offlineCount =>
      simp only [observe, OfflineCountProjection.observe]
      rcases OfflineCountProjection.transition detection with _ | ⟨storeId, deviceId, wentOffline⟩
      · exact nothing
      · simp only [Call.bind_apply, Call.read_apply, id_eq, Call.lift_apply]
        rcases OfflineCountProjection.load store storeId with _ | ids
        · exact nothing
        · simp only [Call.write_apply, OfflineCountProjection.save]
          split
          · exact ⟨[.delete OfflineCountProjection.view storeId], by simp [StoreOp.Issued], rfl⟩
          · exact ⟨[.put OfflineCountProjection.view storeId _], by simp [StoreOp.Issued], rfl⟩
  | activeOutage =>
      simp only [observe, ActiveOutageProjection.observe]
      split
      · exact ⟨[.put ActiveOutageProjection.view _ _], by simp [StoreOp.Issued], rfl⟩
      · split
        · exact ⟨[.delete ActiveOutageProjection.view _], by simp [StoreOp.Issued], rfl⟩
        · exact nothing
  | anomalyRate =>
      simp only [observe, AnomalyRateProjection.observe, AnomalyRateProjection.observeBy,
        Call.bind_apply, Call.lift_apply]
      rcases entered : AnomalyRateProjection.entryBy Binary64.round formatReal detection with
        _ | _ | ⟨kept, detectionId⟩
      · exact nothing
      · exact nothing
      · simp only [Call.bind_apply, Call.read_apply, id_eq, Call.lift_apply]
        rcases loadIds (store.get AnomalyRateProjection.view kept) with _ | ids
        · exact nothing
        · obtain ⟨signal, _, onset, rfl, _⟩ := AnomalyRateProjection.entryBy_eq_some.mp entered
          obtain ⟨bucket, rfl, _⟩ := AnomalyRateProjection.onsetOf_aligned onset
          refine ⟨[.put AnomalyRateProjection.view _ _], ?_, rfl⟩
          rw [List.forall_mem_singleton]
          exact Or.inr (Or.inr ⟨rfl, signal, bucket, rfl⟩)

section Samples

open DynamoDb (Query Paginates)

/-- A page for each key, behind an empty one. -/
def sampleQuery : Query Nat := fun table view => Page.slices (DynamoDb.partition table view) 1

theorem sampleQuery_paginates : Paginates sampleQuery :=
  fun _ _ => ⟨_, Page.slices_lists _ (by decide), List.Perm.refl _⟩

/-- A bucket of a signal whose name holds the separator, and two stores in outage. -/
def sampleCalls : List (StoreOp × Query Nat) :=
  [.put AnomalyRateProjection.view (AnomalyRateProjection.key "latency|ms" (.utc .epoch)) "[]",
    .put ActiveOutageProjection.view "store-2" "1970-01-01T00:00:00+00:00",
    .put ActiveOutageProjection.view "store-1" "1970-01-01T00:00:00+00:00",
    .keys ActiveOutageProjection.view].map (·, sampleQuery)

theorem dynamoDb_refines_inMemory_sample :
    ∃ enough after,
      DynamoDb.Refines (after.tables "projections")
          (StoreOp.inMemoryRun (sampleCalls.map Prod.fst) .empty).2 ∧
        ∀ turns, enough ≤ turns →
          StoreOp.dynamoDbRun { table := some "projections" } turns sampleCalls
              { tables := fun _ => .empty } =
            ((StoreOp.inMemoryRun (sampleCalls.map Prod.fst) .empty).1.map fun answer =>
              .ok (some answer), after) := by
  apply DynamoDbProjectionStore.dynamoDb_refines_inMemory
  · simp only [sampleCalls, List.map_cons, List.map_nil, List.forall_mem_cons]
    exact ⟨Or.inr (Or.inr ⟨rfl, "latency|ms", .epoch, rfl⟩), Or.inr (Or.inl rfl), Or.inr (Or.inl rfl),
      trivial, List.forall_mem_nil _⟩
  · simp only [sampleCalls, List.map_cons, List.map_nil, List.forall_mem_cons]
    exact ⟨sampleQuery_paginates, sampleQuery_paginates, sampleQuery_paginates,
      sampleQuery_paginates, List.forall_mem_nil _⟩
  · exact DynamoDb.refines_empty

end Samples

end SignalForge
