import Mathlib.Data.List.Sort
import SignalForge.DatasetWriter
import SignalForge.DatetimeText

/-! Flushed partitions serialised into one table a record type and aggregation, and uploaded to a
bucket one object a table. Of the settings only the bucket is kept. -/

set_option autoImplicit false

namespace SignalForge

variable {ρ : Type}

/-- The rows of a table. -/
inductive TableRows (ρ : Type) where
  | detections (rows : List DetectionEvent)
  | emissions (rows : List (WindowEmission ρ))
  | features (rows : List (WindowedFeatureVectorEvent ρ))

structure SerialisedTable (ρ : Type) where
  recordType : String
  aggregationName : Option String
  /-- What the data are written from. -/
  rows : TableRows ρ
  data : List UInt8
  rowCount : Nat

/-- What writing a table rests on outside this code: Parquet, and the JSON text of the feature
values. -/
structure TableEncoding (ρ : Type) where
  parquet : TableRows ρ → Except Raised (List UInt8)
  jsonText : OrderedDict String ρ → String

namespace Serialisation

/-- `sorted(items, key=key)`, where the keys compare in this order. -/
def sortedBy {α : Type} (order : α → α → Ordering) (items : List α) : List α :=
  items.insertionSort fun first second => (order first second).isLE = true

/-- `_emission_sort_key`. -/
def emissionOrder (first second : WindowEmission ρ) : Ordering :=
  (compare first.windowStart.micros second.windowStart.micros).then <|
  (compare first.windowEnd.micros second.windowEnd.micros).then <|
  (compare first.isRepair second.isRepair).then <|
  (compare first.eventCount second.eventCount).then <|
  compare (first.lastContributingTraceId.getD "") (second.lastContributingTraceId.getD "")

/-- `_detection_sort_key`. -/
def detectionOrder (first second : DetectionEvent) : Ordering :=
  let deviceText (deviceId : Option Uuid) : String :=
    String.ofList ((deviceId.map Uuid.text).getD [])
  (compare first.payload.detectedAt.micros second.payload.detectedAt.micros).then <|
  (compare first.eventTimestamp.micros second.eventTimestamp.micros).then <|
  (compare first.payload.storeId second.payload.storeId).then <|
  (compare first.payload.detectionType second.payload.detectionType).then <|
  (compare (deviceText first.payload.deviceId) (deviceText second.payload.deviceId)).then <|
  compare first.payload.thresholdBreached second.payload.thresholdBreached

/-- `_feature_sort_key`. -/
def featureOrder (encoding : TableEncoding ρ) (first second : WindowedFeatureVectorEvent ρ) :
    Ordering :=
  (compare first.payload.windowStart.micros second.payload.windowStart.micros).then <|
  (compare first.payload.windowEnd.micros second.payload.windowEnd.micros).then <|
  (compare first.payload.partitionKey second.payload.partitionKey).then <|
  (compare first.payload.featureVersion second.payload.featureVersion).then <|
  compare (encoding.jsonText first.payload.featureValues)
    (encoding.jsonText second.payload.featureValues)

def tableOrder (first second : SerialisedTable ρ) : Ordering :=
  (compare first.recordType second.recordType).then <|
  compare (first.aggregationName.getD "") (second.aggregationName.getD "")

/-- A table of sorted rows, once Parquet has written them. -/
def writeTable (encoding : TableEncoding ρ) (recordType : String) (aggregationName : Option String)
    (rows : TableRows ρ) (rowCount : Nat) : Except Raised (SerialisedTable ρ) := do
  let data ← encoding.parquet rows
  pure ⟨recordType, aggregationName, rows, data, rowCount⟩

/-- One table of all the rows, and none where there are none. -/
def serialiseRows {α : Type} (encoding : TableEncoding ρ) (recordType : String)
    (order : α → α → Ordering) (tableRows : List α → TableRows ρ) (items : List α) :
    Except Raised (List (SerialisedTable ρ)) :=
  match items with
  | [] => .ok []
  | _ => do
      let rows := sortedBy order items
      let table ← writeTable encoding recordType none (tableRows rows) rows.length
      pure [table]

def serialiseDetections (encoding : TableEncoding ρ) (detections : List DetectionEvent) :
    Except Raised (List (SerialisedTable ρ)) :=
  serialiseRows encoding "detections" detectionOrder .detections detections

/-- The emissions of each aggregation, under its name. -/
def aggregationGroups (emissions : List (WindowEmission ρ)) :
    OrderedDict String (List (WindowEmission ρ)) :=
  emissions.foldl (fun groups emission =>
    groups.modify emission.aggregationName [] (· ++ [emission])) .empty

def serialiseAggregation (encoding : TableEncoding ρ) (emissions : List (WindowEmission ρ))
    (aggregationName : String) : Except Raised (SerialisedTable ρ) :=
  let rows := sortedBy emissionOrder (((aggregationGroups emissions).get? aggregationName).getD [])
  writeTable encoding "emissions" (some aggregationName) (.emissions rows) rows.length

def serialiseEmissions (encoding : TableEncoding ρ) (emissions : List (WindowEmission ρ)) :
    Except Raised (List (SerialisedTable ρ)) :=
  (sortedBy compare (aggregationGroups emissions).keys).mapM (serialiseAggregation encoding emissions)

def serialiseFeatures (encoding : TableEncoding ρ) (features : List (WindowedFeatureVectorEvent ρ)) :
    Except Raised (List (SerialisedTable ρ)) :=
  serialiseRows encoding "features" (featureOrder encoding) .features features

def serialisePartition (encoding : TableEncoding ρ) (partition : FlushedPartition ρ) :
    Except Raised (List (SerialisedTable ρ)) := do
  let detections ← serialiseDetections encoding partition.detections
  let emissions ← serialiseEmissions encoding partition.emissions
  let features ← serialiseFeatures encoding partition.features
  pure (sortedBy tableOrder (detections ++ emissions ++ features))

end Serialisation

def tableRoot (table : SerialisedTable ρ) : String :=
  match table.aggregationName with
  | some aggregationName => table.recordType ++ "/" ++ aggregationName
  | none => table.recordType

def partitionPath (key : PartitionKey) : String :=
  let microsPerDay := 24 * microsPerHour
  let date := Datetime.civilOfDays (key.hour.micros.fdiv microsPerDay)
  let hour := (key.hour.micros.fmod microsPerDay / microsPerHour).toNat
  "store_id=" ++ key.storeId ++ "/year=" ++ Datetime.padded 4 date.1 ++ "/month=" ++
    Datetime.padded 2 date.2.1 ++ "/day=" ++ Datetime.padded 2 date.2.2 ++ "/hour=" ++
    Datetime.padded 2 hour

/-- The writer, with what each call of its client's `put_object` raises, by the number of calls
before; `none` where the call returns. -/
structure S3DatasetWriter (ρ : Type) where
  bucket : Option String
  encoding : TableEncoding ρ
  raises : Nat → Option Raised

/-- A call of the client's `put_object`, its body the table whose data it carries. -/
structure PutObject (ρ : Type) where
  bucket : Option String
  key : String
  body : SerialisedTable ρ

namespace S3DatasetWriter

/-- What the writer keeps, the objects it has put in the bucket and the puts it has called. -/
structure State (ρ : Type) where
  buffers : PartitionBuffers ρ := .empty
  seq : OrderedDict String Nat := .empty
  objects : OrderedDict String (SerialisedTable ρ) := .empty
  puts : Nat := 0
  calls : List (PutObject ρ) := []

/-- The directory of a partition's objects of one table. -/
def objectRoot (partitionKey : PartitionKey) (table : SerialisedTable ρ) : String :=
  tableRoot table ++ "/" ++ partitionPath partitionKey

def objectName (root : String) (seq : Nat) : String :=
  root ++ "/" ++ Datetime.padded 8 seq ++ ".parquet"

/-- `_object_key`. The sequence number is taken whether or not the put that follows returns. -/
def objectKey (partitionKey : PartitionKey) (table : SerialisedTable ρ) :
    Call Raised (State ρ) String := do
  let root := objectRoot partitionKey table
  let seq ← Call.read fun state => (state.seq.get? root).getD 0
  Call.write fun state => { state with seq := state.seq.set root (seq + 1) }
  pure (objectName root seq)

/-- `client.put_object`. A put that raises leaves no object. -/
def putObject (writer : S3DatasetWriter ρ) (key : String) (table : SerialisedTable ρ) :
    Call Raised (State ρ) Unit := do
  let outcome ← Call.read fun state => writer.raises state.puts
  Call.write fun state => { state with
    puts := state.puts + 1
    calls := state.calls ++ [⟨writer.bucket, key, table⟩] }
  match outcome with
  | some reason => Call.raise reason
  | none => Call.write fun state => { state with objects := state.objects.set key table }

def uploadTables (writer : S3DatasetWriter ρ) (partitionKey : PartitionKey) :
    List (SerialisedTable ρ) → Call Raised (State ρ) Unit
  | [] => pure ()
  | table :: rest => do
      let key ← objectKey partitionKey table
      putObject writer key table
      uploadTables writer partitionKey rest

/-- `_upload_flush`. -/
def uploadFlush (writer : S3DatasetWriter ρ) (flushed : FlushedPartition ρ) :
    Call Raised (State ρ) Unit := do
  let tables ← Call.lift (Serialisation.serialisePartition writer.encoding flushed)
  uploadTables writer flushed.partitionKey tables

/-- The buffer is cleared once every table of it has been uploaded. -/
def flushPartition (writer : S3DatasetWriter ρ) (key : PartitionKey) :
    Call Raised (State ρ) Unit := do
  let flushed ← Call.read fun state => (state.buffers.flushPartition key).2
  uploadFlush writer flushed
  Call.write fun state => { state with buffers := (state.buffers.flushPartition key).1 }

def flushPartitions (writer : S3DatasetWriter ρ) : List PartitionKey → Call Raised (State ρ) Unit
  | [] => pure ()
  | key :: rest => do
      flushPartition writer key
      flushPartitions writer rest

def absorb (writer : S3DatasetWriter ρ) (result : ProcessingResult ρ) :
    Call Raised (State ρ) Unit := do
  Call.write fun state => { state with buffers := state.buffers.bufferResult result }
  flushPartitions writer (PartitionBuffers.partitionsToFlush result).keys

/-- Without a bucket nothing is written. -/
def write (writer : S3DatasetWriter ρ) (result : ProcessingResult ρ) : Call Raised (State ρ) Unit :=
  match writer.bucket with
  | none => pure ()
  | some _ => absorb writer result

/-- Results written in turn; where a write raises, the next one goes on from what it left. -/
def writeAll (writer : S3DatasetWriter ρ) (results : List (ProcessingResult ρ))
    (state : State ρ) : State ρ :=
  results.foldl (fun state result => (write writer result state).2) state

end S3DatasetWriter

end SignalForge
