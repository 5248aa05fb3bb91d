import SignalForge.DynamoDbProjectionStore
import SignalForge.EventBridgeAlertSink
import SignalForge.PlatformSettings
import SignalForge.RealtimePipelineIsolation
import SignalForge.S3DatasetWriterConservation

/-! What a replay writes to: the sinks built from the settings the replay driver hands to the
pipeline builder, against the targets of the live settings they came from. -/

set_option autoImplicit false

namespace SignalForge

namespace S3DatasetWriter

variable {ρ : Type} {writer : S3DatasetWriter ρ} {bucket : String}

/-- Every put goes to the writer's bucket; there is none where the writer has no bucket. -/
def Confined (writer : S3DatasetWriter ρ) (state : State ρ) : Prop :=
  ∀ call ∈ state.calls, call.bucket = writer.bucket ∧ writer.bucket.isSome

theorem putObject_confined (configured : writer.bucket = some bucket) (key : String)
    (table : SerialisedTable ρ) : Call.Keeps (Confined writer) (putObject writer key table) := by
  refine Call.Keeps.bind (Call.keeps_read _) fun outcome => ?_
  refine Call.Keeps.bind ?_ fun _ => ?_
  · apply Call.keeps_write
    intro state confined call member
    rcases List.mem_append.mp member with before | here
    · exact confined call before
    · rw [List.mem_singleton.mp here, configured]
      exact ⟨rfl, rfl⟩
  · cases outcome with
    | none => exact Call.keeps_write fun _ confined => confined
    | some reason => exact Call.keeps_raise reason

theorem objectKey_confined (partitionKey : PartitionKey) (table : SerialisedTable ρ) :
    Call.Keeps (Confined writer) (objectKey partitionKey table) := by
  refine Call.Keeps.bind (Call.keeps_read _) fun seq => ?_
  refine Call.Keeps.bind (Call.keeps_write fun _ confined => confined) fun _ => ?_
  exact Call.keeps_pure _

theorem uploadTables_confined (configured : writer.bucket = some bucket)
    (partitionKey : PartitionKey) (tables : List (SerialisedTable ρ)) :
    Call.Keeps (Confined writer) (uploadTables writer partitionKey tables) := by
  induction tables with
  | nil => exact Call.keeps_pure ()
  | cons table rest ih =>
      refine Call.Keeps.bind (objectKey_confined partitionKey table) fun key => ?_
      exact (putObject_confined configured key table).bind fun _ => ih

theorem flushPartitions_confined (configured : writer.bucket = some bucket)
    (keys : List PartitionKey) : Call.Keeps (Confined writer) (flushPartitions writer keys) := by
  induction keys with
  | nil => exact Call.keeps_pure ()
  | cons key rest ih =>
      refine Call.Keeps.bind ?_ fun _ => ih
      refine Call.Keeps.bind (Call.keeps_read _) fun flushed => ?_
      refine Call.Keeps.bind ?_ fun _ => Call.keeps_write fun _ confined => confined
      refine Call.Keeps.bind (Call.keeps_lift _) fun tables => ?_
      exact uploadTables_confined configured flushed.partitionKey tables

theorem write_confined (writer : S3DatasetWriter ρ) (result : ProcessingResult ρ) :
    Call.Keeps (Confined writer) (write writer result) := by
  unfold write
  split
  · exact Call.keeps_pure ()
  · rename_i bucket configured
    refine Call.Keeps.bind (Call.keeps_write fun _ confined => confined) fun _ => ?_
    exact flushPartitions_confined configured _

/-- Whatever is written and whichever puts raise, the puts go to the writer's bucket. -/
theorem writeAll_confined (writer : S3DatasetWriter ρ) (results : List (ProcessingResult ρ)) :
    Confined writer (writeAll writer results {}) := by
  induction results using List.reverseRecOn with
  | nil => exact List.forall_mem_nil _
  | append_singleton results result ih =>
      rw [writeAll, List.foldl_concat]
      exact write_confined writer result _ ih

end S3DatasetWriter

namespace DynamoDbProjectionStore

variable {τ : Type}

/-- Every write goes to the store's table; there is none where the store has no table. -/
def Confined (store : DynamoDbProjectionStore) (database : DynamoDb) : Prop :=
  ∀ write ∈ database.writes, store.table = some write.tableName

theorem send_confined {store : DynamoDbProjectionStore} {write : ItemWrite}
    (configured : store.table = some write.tableName) {database : DynamoDb}
    (confined : Confined store database) : Confined store (database.send write) := by
  refine List.forall_mem_append.mpr ⟨confined, ?_⟩
  rw [List.forall_mem_singleton]
  exact configured

theorem dynamoDb_confined (store : DynamoDbProjectionStore) (query : DynamoDb.Query τ)
    (turns : Nat) (op : StoreOp) :
    Call.Keeps (Confined store) (op.dynamoDb store query turns) := by
  cases op with
  | get view key =>
      refine Call.Keeps.bind ?_ fun _ => Call.keeps_pure _
      unfold DynamoDbProjectionStore.get
      split
      · exact Call.keeps_pure none
      · exact Call.keeps_read _
  | put view key value =>
      refine Call.Keeps.bind ?_ fun _ => Call.keeps_pure _
      unfold DynamoDbProjectionStore.put
      split
      · exact Call.keeps_pure ()
      · rename_i table configured
        refine Call.Keeps.bind (Call.keeps_lift _) fun expiry => ?_
        exact Call.keeps_write fun _ confined => send_confined configured confined
  | delete view key =>
      refine Call.Keeps.bind ?_ fun _ => Call.keeps_pure _
      unfold DynamoDbProjectionStore.delete
      split
      · exact Call.keeps_pure ()
      · rename_i table configured
        exact Call.keeps_write fun _ confined => send_confined configured confined
  | keys view =>
      refine Call.Keeps.bind ?_ fun _ => Call.keeps_pure _
      unfold DynamoDbProjectionStore.keys
      split
      · exact Call.keeps_pure _
      · exact Call.keeps_read _

theorem dynamoDbRun_confined (store : DynamoDbProjectionStore) (turns : Nat)
    (ops : List (StoreOp × DynamoDb.Query τ)) {database : DynamoDb}
    (confined : Confined store database) :
    Confined store (StoreOp.dynamoDbRun store turns ops database).2 := by
  induction ops generalizing database with
  | nil => exact confined
  | cons op rest ih => exact ih (dynamoDb_confined store op.2 turns op.1 database confined)

end DynamoDbProjectionStore

namespace Replay

open Config (Target EnvRules)

variable {ω π ρ : Type}

/-- What the driver logs of a replay. -/
structure Lineage where
  environment : String
  events : Nat
  results : Nat
  detections : Nat
  emissions : Nat
  deriving DecidableEq

/-- The pipeline a builder makes of settings, with its state before the first event. -/
abbrev PipelineBuilder (ω π ρ : Type) : Type :=
  Config.PlatformSettings → Except Raised (RealtimePipeline ω π ρ × RealtimePipeline.State ω)

/-- The part of `run_replay` after the swap. -/
def runWith (replaySettings : Config.PlatformSettings) (events : List (TelemetryEvent π))
    (buildPipeline : PipelineBuilder ω π ρ) :
    Except Raised (List (ProcessingResult ρ) × Lineage) := do
  let (pipeline, start) ← buildPipeline replaySettings
  let (results, _) ← (pipeline.processBatch events start).1
  pure (results, {
    environment := replaySettings.environment
    events := events.length
    results := results.length
    detections := (results.map fun result => result.detections.length).sum
    emissions := (results.map fun result => result.emissions.length).sum })

/-- `run_replay`. -/
def runReplay (repr : String → String) (settings : Config.PlatformSettings)
    (events : List (TelemetryEvent π)) (buildPipeline : PipelineBuilder ω π ρ) :
    Except Raised (List (ProcessingResult ρ) × Lineage) := do
  let replaySettings ← settings.forReplay repr "replay"
  runWith replaySettings events buildPipeline

def datasetWriter (settings : Config.PlatformSettings) (encoding : TableEncoding ρ)
    (raises : Nat → Option Raised) : S3DatasetWriter ρ :=
  ⟨settings.datasetBucket, encoding, raises⟩

def alertSink (settings : Config.PlatformSettings) (dumpJson : AlertEvent → String)
    (raises : Nat → Option Raised) : EventBridgeAlertSink :=
  ⟨settings.alertBus, dumpJson, raises⟩

def projectionStore (settings : Config.PlatformSettings) (ttlResolver : TtlResolver) :
    DynamoDbProjectionStore :=
  ⟨settings.projectionTable, ttlResolver⟩

/-- The replay settings name no target of the live ones, and no call that a sink built from them
ever makes addresses one. -/
structure Isolated (live replay : Config.PlatformSettings) : Prop where
  names : ∀ target : Target, target.name replay = none ∨ target.name replay ≠ target.name live
  putObject : ∀ {ρ : Type} (encoding : TableEncoding ρ) (raises : Nat → Option Raised)
    (results : List (ProcessingResult ρ)),
    ∀ call ∈ (S3DatasetWriter.writeAll (datasetWriter replay encoding raises) results {}).calls,
      call.bucket ≠ live.datasetBucket
  putEvents : ∀ (dumpJson : AlertEvent → String) (raises : Nat → Option Raised)
    (published : List (List AlertEvent)),
    ∀ entries ∈ EventBridgeAlertSink.publishAll (alertSink replay dumpJson raises) published [],
      ∀ entry ∈ entries, some entry.eventBusName ≠ live.alertBus
  writeItem : ∀ {τ : Type} (ttlResolver : TtlResolver) (turns : Nat)
    (ops : List (StoreOp × DynamoDb.Query τ)) (tables : String → Table),
    ∀ write ∈ (StoreOp.dynamoDbRun (projectionStore replay ttlResolver) turns ops
        { tables }).2.writes,
      some write.tableName ≠ live.projectionTable

/-- The sinks keep to the targets they are given, so the names decide. -/
theorem isolated_iff {live replay : Config.PlatformSettings} :
    Isolated live replay ↔
      ∀ target : Target, target.name replay = none ∨ target.name replay ≠ target.name live := by
  constructor
  · exact Isolated.names
  · intro names
    have apart : ∀ (target : Target) {name : String}, target.name replay = some name →
        some name ≠ target.name live := by
      intro target name configured
      rcases names target with absent | differs
      · rw [configured] at absent
        cases absent
      · rwa [← configured]
    refine ⟨names, ?_, ?_, ?_⟩
    · intro ρ encoding raises results call member
      obtain ⟨addressed, some⟩ := S3DatasetWriter.writeAll_confined _ results call member
      obtain ⟨bucket, configured⟩ := Option.isSome_iff_exists.mp some
      rw [addressed, configured]
      exact apart .datasetBucket configured
    · intro dumpJson raises published entries called entry member
      exact apart .alertBus
        (EventBridgeAlertSink.publishAll_confined _ published entries called entry member)
    · intro τ ttlResolver turns ops tables write member
      have start : DynamoDbProjectionStore.Confined (projectionStore replay ttlResolver)
          { tables } := List.forall_mem_nil _
      exact apart .projectionTable
        (DynamoDbProjectionStore.dynamoDbRun_confined _ turns ops start write member)

/-- No replay variable is set to what its live variable is set to. -/
def NamesApart (env : OrderedDict String String) : Prop :=
  ∀ target : Target, ∀ name : String, name ≠ "" → env.get? target.replayVariable = some name →
    env.get? target.liveVariable ≠ some name

theorem configured_apart_iff {env : OrderedDict String String} {live replay : String} :
    (Config.configured env replay = none ∨
        Config.configured env replay ≠ Config.configured env live) ↔
      ∀ name : String, name ≠ "" → env.get? replay = some name → env.get? live ≠ some name := by
  constructor
  · intro apart name nonempty replaySet liveSet
    have replayName := Config.configured_eq_some.mpr ⟨replaySet, nonempty⟩
    have liveName := Config.configured_eq_some.mpr ⟨liveSet, nonempty⟩
    rcases apart with absent | differs
    · rw [replayName] at absent
      cases absent
    · exact differs (replayName.trans liveName.symm)
  · intro apart
    cases replayName : Config.configured env replay with
    | none => exact Or.inl rfl
    | some name =>
        right
        intro same
        obtain ⟨replaySet, nonempty⟩ := Config.configured_eq_some.mp replayName
        obtain ⟨liveSet, _⟩ := Config.configured_eq_some.mp same.symm
        exact apart name nonempty replaySet liveSet

/-- A replay of accepted settings is built from settings of its own; they leave the live targets
alone exactly where the environment names others for the replay. -/
theorem replay_isolated_iff {rules : EnvRules} {env : OrderedDict String String}
    {settings : Config.PlatformSettings}
    (accepted : Config.PlatformSettings.fromEnv rules env = .ok settings) :
    ∃ replaySettings, settings.forReplay rules.repr "replay" = .ok replaySettings ∧
      (∀ {ω π ρ : Type} (events : List (TelemetryEvent π)) (buildPipeline : PipelineBuilder ω π ρ),
        runReplay rules.repr settings events buildPipeline =
          runWith replaySettings events buildPipeline) ∧
      (Isolated settings replaySettings ↔ NamesApart env) := by
  obtain ⟨valid, targets⟩ := Config.PlatformSettings.of_fromEnv accepted
  have named : "replay" ≠ "" := by decide
  have swapped : settings.forReplay rules.repr "replay" = .ok _ :=
    Config.PlatformSettings.forReplay_eq valid named
  refine ⟨_, swapped, ?_, ?_⟩
  · intro ω π ρ events buildPipeline
    rw [runReplay, swapped]
    rfl
  · rw [isolated_iff]
    refine forall_congr' fun target => ?_
    obtain ⟨live, replay⟩ := targets target
    rw [← configured_apart_iff, ← live, ← replay]
    cases target <;> rfl

section Samples

open InMemoryDatasetWriter (sampleResult)

/-- Digits and quotes of ASCII texts, and no real numbers. -/
def sampleRules : EnvRules where
  digits := RealtimePipeline.sampleDigits
  parseFloat _ := none
  repr text := "'" ++ text ++ "'"

/-- A deployment with a bucket, a bus and a table, whose replays have this bucket and a table. -/
def sampleEnv (replayBucket : String) : OrderedDict String String :=
  ((((OrderedDict.empty.set "SF_DATASET_BUCKET" "sf-live-dataset").set "SF_ALERT_BUS"
    "sf-alerts").set "SF_PROJECTION_TABLE" "sf-live-projections").set "SF_REPLAY_DATASET_BUCKET"
      replayBucket).set "SF_REPLAY_PROJECTION_TABLE" "sf-replay-projections"

def sampleSettings (replayBucket : String) : Config.PlatformSettings where
  environment := "dev"
  datasetBucket := some "sf-live-dataset"
  replayDatasetBucket := some replayBucket
  alertBus := some "sf-alerts"
  projectionTable := some "sf-live-projections"
  replayProjectionTable := some "sf-replay-projections"

theorem sampleEnv_accepted :
    Config.PlatformSettings.fromEnv sampleRules (sampleEnv "sf-replay-dataset") =
      .ok (sampleSettings "sf-replay-dataset") := by
  decide +kernel

theorem sampleEnv_namesApart :
    NamesApart (sampleEnv "sf-replay-dataset") := by
  intro target
  rw [← configured_apart_iff]
  cases target <;> decide +kernel

theorem replay_isolated_iff_sample :
    ∃ replaySettings,
      (sampleSettings "sf-replay-dataset").forReplay sampleRules.repr "replay" =
          .ok replaySettings ∧
        Isolated (sampleSettings "sf-replay-dataset") replaySettings := by
  obtain ⟨replaySettings, swapped, _, isolated⟩ := replay_isolated_iff sampleEnv_accepted
  exact ⟨replaySettings, swapped, isolated.mpr sampleEnv_namesApart⟩

/-- One bucket under both names: the settings are accepted, and what a replay uploads goes to the
live bucket. -/
theorem replay_shares_live_bucket :
    Config.PlatformSettings.fromEnv sampleRules (sampleEnv "sf-live-dataset") =
        .ok (sampleSettings "sf-live-dataset") ∧
      ∃ replaySettings,
        (sampleSettings "sf-live-dataset").forReplay sampleRules.repr "replay" =
            .ok replaySettings ∧
          replaySettings.datasetBucket = some "sf-live-dataset" ∧
          ((S3DatasetWriter.writeAll (datasetWriter replaySettings
              (S3DatasetWriter.sampleWriter 0).encoding fun _ => none) [sampleResult] {}).calls.map
                PutObject.bucket) = [some "sf-live-dataset", some "sf-live-dataset"] := by
  refine ⟨by decide +kernel, { sampleSettings "sf-live-dataset" with
    environment := "replay"
    alertBus := none
    projectionTable := some "sf-replay-projections" }, by decide +kernel, rfl, by decide +kernel⟩

end Samples

end Replay

end SignalForge
