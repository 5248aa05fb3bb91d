import SignalForge.FeatureBundling

/-! Dataset partitions, and the writer that buffers records by partition and flushes a
partition when an emission for it arrives. -/

set_option autoImplicit false

namespace SignalForge

structure PartitionKey where
  storeId : String
  hour : Instant
  deriving DecidableEq

/-- The hour of the datetime's calendar fields, read as a UTC hour. -/
def truncateToHour (t : Datetime) : Instant where
  micros := t.wall - t.wall % microsPerHour
  min_le := by
    have lower := t.min_le_wall
    simp only [minMicros, microsPerSecond, microsPerHour] at *
    omega
  le_max := by
    have upper := t.wall_le_max
    simp only [maxMicros, microsPerSecond, microsPerHour] at *
    omega

section

variable {ρ : Type}

def partitionKeyFromEmission (emission : WindowEmission ρ) : PartitionKey where
  storeId := emission.partitionKey
  hour := truncateToHour emission.windowStart

def partitionKeyFromDetection (detection : DetectionEvent) : PartitionKey where
  storeId := detection.payload.storeId
  hour := truncateToHour detection.eventTimestamp

def partitionKeyFromFeature (feature : WindowedFeatureVectorEvent ρ) : PartitionKey where
  storeId := feature.payload.partitionKey
  hour := truncateToHour feature.payload.windowStart

end

structure FlushedPartition (ρ : Type) where
  partitionKey : PartitionKey
  emissions : List (WindowEmission ρ)
  detections : List DetectionEvent
  features : List (WindowedFeatureVectorEvent ρ)

structure PartitionBuffer (ρ : Type) where
  emissions : List (WindowEmission ρ) := []
  detections : List DetectionEvent := []
  features : List (WindowedFeatureVectorEvent ρ) := []

abbrev PartitionBuffers (ρ : Type) : Type := OrderedDict PartitionKey (PartitionBuffer ρ)

namespace PartitionBuffer

variable {ρ : Type}

def addEmission (buffer : PartitionBuffer ρ) (emission : WindowEmission ρ) : PartitionBuffer ρ :=
  { buffer with emissions := buffer.emissions ++ [emission] }

def addDetection (buffer : PartitionBuffer ρ) (detection : DetectionEvent) : PartitionBuffer ρ :=
  { buffer with detections := buffer.detections ++ [detection] }

def addFeature (buffer : PartitionBuffer ρ) (feature : WindowedFeatureVectorEvent ρ) :
    PartitionBuffer ρ :=
  { buffer with features := buffer.features ++ [feature] }

end PartitionBuffer

namespace PartitionBuffers

variable {ρ : Type}

/-- The buffer under a key; empty where none has been made. -/
def bufferFor (buffers : PartitionBuffers ρ) (key : PartitionKey) : PartitionBuffer ρ :=
  (buffers.get? key).getD {}

def flushPartition (buffers : PartitionBuffers ρ) (key : PartitionKey) :
    PartitionBuffers ρ × FlushedPartition ρ :=
  let buffer := buffers.bufferFor key
  (buffers.set key {}, ⟨key, buffer.emissions, buffer.detections, buffer.features⟩)

def flushPartitions (buffers : PartitionBuffers ρ) :
    List PartitionKey → PartitionBuffers ρ × List (FlushedPartition ρ)
  | [] => (buffers, [])
  | key :: rest =>
      let first := flushPartition buffers key
      let later := flushPartitions first.1 rest
      (later.1, first.2 :: later.2)

/-- The records of a result, each buffered under its own key. -/
def bufferResult (buffers : PartitionBuffers ρ) (result : ProcessingResult ρ) :
    PartitionBuffers ρ :=
  let buffers := result.detections.foldl (fun buffers detection =>
    buffers.modify (partitionKeyFromDetection detection) {} (·.addDetection detection)) buffers
  let buffers := result.features.foldl (fun buffers feature =>
    buffers.modify (partitionKeyFromFeature feature) {} (·.addFeature feature)) buffers
  result.emissions.foldl (fun buffers emission =>
    buffers.modify (partitionKeyFromEmission emission) {} (·.addEmission emission)) buffers

/-- The partitions a result flags for flush, in first-seen order. -/
def partitionsToFlush (result : ProcessingResult ρ) : OrderedDict PartitionKey Unit :=
  result.emissions.foldl (fun flagged emission =>
    flagged.modify (partitionKeyFromEmission emission) () fun _ => ()) .empty

def absorb (buffers : PartitionBuffers ρ) (result : ProcessingResult ρ) :
    PartitionBuffers ρ × List (FlushedPartition ρ) :=
  flushPartitions (buffers.bufferResult result) (partitionsToFlush result).keys

end PartitionBuffers

structure InMemoryDatasetWriter (ρ : Type) where
  flushed : List (FlushedPartition ρ) := []
  buffers : PartitionBuffers ρ := .empty

namespace InMemoryDatasetWriter

variable {ρ : Type}

def write (writer : InMemoryDatasetWriter ρ) (result : ProcessingResult ρ) :
    InMemoryDatasetWriter ρ :=
  let absorbed := writer.buffers.absorb result
  { flushed := writer.flushed ++ absorbed.2, buffers := absorbed.1 }

def writeAll (writer : InMemoryDatasetWriter ρ) (results : List (ProcessingResult ρ)) :
    InMemoryDatasetWriter ρ :=
  results.foldl write writer

end InMemoryDatasetWriter

end SignalForge
