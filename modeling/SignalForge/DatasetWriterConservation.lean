import Mathlib.Data.List.Induction
import SignalForge.DatasetWriter

/-! The dataset writer conserves records: every emission is flushed by the write that
brought it, and nothing else is lost, added or reordered within its partition. -/

set_option autoImplicit false

namespace SignalForge

variable {ρ : Type}

namespace PartitionBuffers

/-- Records added in turn extend the buffer by all of them. -/
theorem foldl_extends {α : Type} {add : PartitionBuffer ρ → α → PartitionBuffer ρ}
    (extend : PartitionBuffer ρ → List α → PartitionBuffer ρ) (none : ∀ buffer, extend buffer [] = buffer)
    (more : ∀ buffer record rest, extend (add buffer record) rest = extend buffer (record :: rest))
    (records : List α) (buffer : PartitionBuffer ρ) :
    records.foldl add buffer = extend buffer records := by
  induction records generalizing buffer with
  | nil => exact (none buffer).symm
  | cons record rest ih => rw [List.foldl_cons, ih, more]

theorem foldl_addEmission (records : List (WindowEmission ρ)) (buffer : PartitionBuffer ρ) :
    records.foldl PartitionBuffer.addEmission buffer =
      { buffer with emissions := buffer.emissions ++ records } :=
  foldl_extends (fun buffer records => { buffer with emissions := buffer.emissions ++ records })
    (fun _ => by simp only [List.append_nil])
    (fun _ _ _ => by simp only [PartitionBuffer.addEmission, List.append_assoc, List.singleton_append])
    records buffer

theorem foldl_addDetection (records : List DetectionEvent) (buffer : PartitionBuffer ρ) :
    records.foldl PartitionBuffer.addDetection buffer =
      { buffer with detections := buffer.detections ++ records } :=
  foldl_extends (fun buffer records => { buffer with detections := buffer.detections ++ records })
    (fun _ => by simp only [List.append_nil])
    (fun _ _ _ => by simp only [PartitionBuffer.addDetection, List.append_assoc, List.singleton_append])
    records buffer

theorem foldl_addFeature (records : List (WindowedFeatureVectorEvent ρ))
    (buffer : PartitionBuffer ρ) :
    records.foldl PartitionBuffer.addFeature buffer =
      { buffer with features := buffer.features ++ records } :=
  foldl_extends (fun buffer records => { buffer with features := buffer.features ++ records })
    (fun _ => by simp only [List.append_nil])
    (fun _ _ _ => by simp only [PartitionBuffer.addFeature, List.append_assoc, List.singleton_append])
    records buffer

end PartitionBuffers

def emissionsFor (key : PartitionKey) (emissions : List (WindowEmission ρ)) :
    List (WindowEmission ρ) :=
  emissions.filter fun emission => partitionKeyFromEmission emission = key

def detectionsFor (key : PartitionKey) (detections : List DetectionEvent) : List DetectionEvent :=
  detections.filter fun detection => partitionKeyFromDetection detection = key

def featuresFor (key : PartitionKey) (features : List (WindowedFeatureVectorEvent ρ)) :
    List (WindowedFeatureVectorEvent ρ) :=
  features.filter fun feature => partitionKeyFromFeature feature = key

def flushedFor (key : PartitionKey) (flushed : List (FlushedPartition ρ)) :
    List (FlushedPartition ρ) :=
  flushed.filter fun partition => partition.partitionKey = key

theorem emissionsFor_append (key : PartitionKey) (first second : List (WindowEmission ρ)) :
    emissionsFor key (first ++ second) = emissionsFor key first ++ emissionsFor key second :=
  List.filter_append ..

theorem detectionsFor_append (key : PartitionKey) (first second : List DetectionEvent) :
    detectionsFor key (first ++ second) = detectionsFor key first ++ detectionsFor key second :=
  List.filter_append ..

theorem featuresFor_append (key : PartitionKey)
    (first second : List (WindowedFeatureVectorEvent ρ)) :
    featuresFor key (first ++ second) = featuresFor key first ++ featuresFor key second :=
  List.filter_append ..

namespace PartitionBuffers

/-- A result's records join the buffer of their own key, after what it held. -/
theorem bufferFor_bufferResult (buffers : PartitionBuffers ρ) (result : ProcessingResult ρ)
    (key : PartitionKey) :
    (buffers.bufferResult result).bufferFor key = {
      emissions := (buffers.bufferFor key).emissions ++ emissionsFor key result.emissions
      detections := (buffers.bufferFor key).detections ++ detectionsFor key result.detections
      features := (buffers.bufferFor key).features ++ featuresFor key result.features } := by
  rw [bufferFor, bufferResult,
    OrderedDict.getD_foldl_modify partitionKeyFromEmission {} PartitionBuffer.addEmission,
    OrderedDict.getD_foldl_modify partitionKeyFromFeature {} PartitionBuffer.addFeature,
    OrderedDict.getD_foldl_modify partitionKeyFromDetection {} PartitionBuffer.addDetection,
    foldl_addEmission, foldl_addFeature, foldl_addDetection]
  rfl

theorem mem_partitionsToFlush (result : ProcessingResult ρ) (key : PartitionKey) :
    key ∈ (partitionsToFlush result).keys ↔ emissionsFor key result.emissions ≠ [] := by
  rw [partitionsToFlush, OrderedDict.mem_keys_foldl_modify partitionKeyFromEmission ()
    (fun _ _ => ())]
  simp only [emissionsFor, ne_eq, List.filter_eq_nil_iff, decide_eq_true_eq, not_forall, not_not,
    exists_prop]
  constructor
  · rintro (inEmpty | routed)
    · cases inEmpty
    · exact routed
  · exact Or.inr

/-- What a flush of a key takes out of its buffer. -/
def contents (buffers : PartitionBuffers ρ) (key : PartitionKey) : FlushedPartition ρ :=
  ⟨key, (buffers.bufferFor key).emissions, (buffers.bufferFor key).detections,
    (buffers.bufferFor key).features⟩

theorem bufferFor_flushPartition (buffers : PartitionBuffers ρ) (key other : PartitionKey) :
    (buffers.flushPartition key).1.bufferFor other =
      if other = key then {} else buffers.bufferFor other := by
  simp only [flushPartition, bufferFor, OrderedDict.get?_set]
  split <;> rfl

/-- Flushing distinct keys empties their buffers, each as it was at the start. -/
theorem flushPartitions_spec (keys : List PartitionKey) (distinct : keys.Nodup)
    (buffers : PartitionBuffers ρ) :
    (buffers.flushPartitions keys).2 = keys.map buffers.contents ∧
      ∀ other, (buffers.flushPartitions keys).1.bufferFor other =
        if other ∈ keys then {} else buffers.bufferFor other := by
  induction keys generalizing buffers with
  | nil => exact ⟨rfl, fun other => by simp only [flushPartitions, List.not_mem_nil, ↓reduceIte]⟩
  | cons key rest ih =>
      obtain ⟨apart, distinct⟩ := List.nodup_cons.mp distinct
      obtain ⟨flushed, emptied⟩ := ih distinct (buffers.flushPartition key).1
      constructor
      · simp only [flushPartitions, List.map_cons, flushed]
        refine congrArg₂ List.cons rfl (List.map_congr_left ?_)
        intro other member
        have different : other ≠ key := fun same => apart (same ▸ member)
        simp only [contents, bufferFor_flushPartition, different, ↓reduceIte]
      · intro other
        simp only [flushPartitions, emptied, bufferFor_flushPartition, List.mem_cons]
        by_cases same : other = key
        · simp only [same, ↓reduceIte, true_or, ite_self]
        · simp only [same, ↓reduceIte, false_or]

theorem bufferFor_absorb (buffers : PartitionBuffers ρ) (result : ProcessingResult ρ)
    (key : PartitionKey) :
    (buffers.absorb result).1.bufferFor key =
      if emissionsFor key result.emissions = [] then (buffers.bufferResult result).bufferFor key
      else {} := by
  rw [absorb, (flushPartitions_spec _ (partitionsToFlush result).keys_nodup _).2]
  simp only [mem_partitionsToFlush, ne_eq, ite_not]

/-- A result flushes a key once if an emission was routed to it, and not otherwise. -/
theorem flushedFor_absorb (buffers : PartitionBuffers ρ) (result : ProcessingResult ρ)
    (key : PartitionKey) :
    flushedFor key (buffers.absorb result).2 =
      if emissionsFor key result.emissions = [] then []
      else [(buffers.bufferResult result).contents key] := by
  have distinct := (partitionsToFlush result).keys_nodup
  rw [absorb, (flushPartitions_spec _ distinct _).1, flushedFor, List.filter_map]
  have only : (partitionsToFlush result).keys.filter ((fun partition : FlushedPartition ρ =>
      partition.partitionKey = key) ∘ (buffers.bufferResult result).contents) =
      (partitionsToFlush result).keys.filter (· == key) :=
    List.filter_congr fun other _ => rfl
  rw [only, List.filter_beq]
  split
  · rename_i unrouted
    have absent : key ∉ (partitionsToFlush result).keys := fun member =>
      (mem_partitionsToFlush result key).mp member unrouted
    rw [List.count_eq_zero_of_not_mem absent]
    rfl
  · rename_i routed
    rw [List.count_eq_one_of_mem distinct ((mem_partitionsToFlush result key).mpr routed)]
    rfl

/-- One kind of record, taken out by flushes and held by buffers: what was held and what the
result brings is what is flushed and what stays held, in order. -/
theorem absorb_conserves {α : Type} (taken : FlushedPartition ρ → List α)
    (held : PartitionBuffer ρ → List α) (brought : List α) (buffers : PartitionBuffers ρ)
    (result : ProcessingResult ρ) (key : PartitionKey) (empty : held {} = [])
    (flushes : taken ((buffers.bufferResult result).contents key) =
      held ((buffers.bufferResult result).bufferFor key))
    (buffered : held ((buffers.bufferResult result).bufferFor key) =
      held (buffers.bufferFor key) ++ brought) :
    (flushedFor key (buffers.absorb result).2).flatMap taken ++
        held ((buffers.absorb result).1.bufferFor key) =
      held (buffers.bufferFor key) ++ brought := by
  rw [flushedFor_absorb, bufferFor_absorb]
  split
  · rw [List.flatMap_nil, List.nil_append, buffered]
  · rw [List.flatMap_singleton, flushes, empty, List.append_nil, buffered]

theorem mem_absorb {buffers : PartitionBuffers ρ} {result : ProcessingResult ρ}
    {partition : FlushedPartition ρ} (member : partition ∈ (buffers.absorb result).2) :
    partition = (buffers.bufferResult result).contents partition.partitionKey ∧
      emissionsFor partition.partitionKey result.emissions ≠ [] := by
  rw [absorb, (flushPartitions_spec _ (partitionsToFlush result).keys_nodup _).1] at member
  obtain ⟨key, flagged, rfl⟩ := List.mem_map.mp member
  exact ⟨rfl, (mem_partitionsToFlush result key).mp flagged⟩

end PartitionBuffers

namespace InMemoryDatasetWriter

/-- What holds of a writer that has been given results. -/
structure Conserves (results : List (ProcessingResult ρ)) (writer : InMemoryDatasetWriter ρ) :
    Prop where
  emissions : ∀ key, (flushedFor key writer.flushed).flatMap FlushedPartition.emissions =
    emissionsFor key (results.flatMap ProcessingResult.emissions)
  detections : ∀ key, (flushedFor key writer.flushed).flatMap FlushedPartition.detections ++
      (writer.buffers.bufferFor key).detections =
    detectionsFor key (results.flatMap ProcessingResult.detections)
  features : ∀ key, (flushedFor key writer.flushed).flatMap FlushedPartition.features ++
      (writer.buffers.bufferFor key).features =
    featuresFor key (results.flatMap ProcessingResult.features)
  nonempty : ∀ partition ∈ writer.flushed, partition.emissions ≠ []
  drained : ∀ key, (writer.buffers.bufferFor key).emissions = []

theorem conserves_empty : Conserves ([] : List (ProcessingResult ρ)) {} where
  emissions _ := rfl
  detections _ := rfl
  features _ := rfl
  nonempty _ member := by cases member
  drained _ := rfl

theorem flatMap_concat {α : Type} (results : List (ProcessingResult ρ))
    (result : ProcessingResult ρ) (view : ProcessingResult ρ → List α) :
    (results ++ [result]).flatMap view = results.flatMap view ++ view result := by
  rw [List.flatMap_append, List.flatMap_singleton]

theorem Conserves.write {results : List (ProcessingResult ρ)} {writer : InMemoryDatasetWriter ρ}
    (conserves : Conserves results writer) (result : ProcessingResult ρ) :
    Conserves (results ++ [result]) (writer.write result) := by
  have flushes : ∀ key, flushedFor key (writer.write result).flushed =
      flushedFor key writer.flushed ++ flushedFor key (writer.buffers.absorb result).2 :=
    fun key => List.filter_append ..
  have drained : ∀ key, ((writer.write result).buffers.bufferFor key).emissions = [] := by
    intro key
    rw [InMemoryDatasetWriter.write, PartitionBuffers.bufferFor_absorb]
    split
    · rename_i unrouted
      rw [PartitionBuffers.bufferFor_bufferResult, conserves.drained, unrouted]
      rfl
    · rfl
  refine ⟨fun key => ?_, fun key => ?_, fun key => ?_, fun partition member => ?_, drained⟩
  · have moved := writer.buffers.absorb_conserves FlushedPartition.emissions
      PartitionBuffer.emissions (emissionsFor key result.emissions) result key rfl rfl
      (by rw [PartitionBuffers.bufferFor_bufferResult])
    rw [conserves.drained] at moved
    rw [flushes, List.flatMap_append, conserves.emissions, flatMap_concat, emissionsFor_append,
      ← List.nil_append (emissionsFor key result.emissions), ← moved]
    exact congrArg _ ((congrArg _ (drained key)).trans (List.append_nil _)).symm
  · have moved := writer.buffers.absorb_conserves FlushedPartition.detections
      PartitionBuffer.detections (detectionsFor key result.detections) result key rfl rfl
      (by rw [PartitionBuffers.bufferFor_bufferResult])
    rw [flushes, List.flatMap_append, List.append_assoc, flatMap_concat, detectionsFor_append,
      ← conserves.detections, List.append_assoc, ← moved]
    rfl
  · have moved := writer.buffers.absorb_conserves FlushedPartition.features
      PartitionBuffer.features (featuresFor key result.features) result key rfl rfl
      (by rw [PartitionBuffers.bufferFor_bufferResult])
    rw [flushes, List.flatMap_append, List.append_assoc, flatMap_concat, featuresFor_append,
      ← conserves.features, List.append_assoc, ← moved]
    rfl
  · rcases List.mem_append.mp member with earlier | now
    · exact conserves.nonempty partition earlier
    · obtain ⟨taken, routed⟩ := PartitionBuffers.mem_absorb now
      rw [taken, PartitionBuffers.contents, PartitionBuffers.bufferFor_bufferResult]
      exact List.append_ne_nil_of_right_ne_nil _ routed

theorem writeAll_concat (writer : InMemoryDatasetWriter ρ) (results : List (ProcessingResult ρ))
    (result : ProcessingResult ρ) :
    writer.writeAll (results ++ [result]) = (writer.writeAll results).write result := by
  rw [writeAll, List.foldl_append]
  rfl

theorem conserves_writeAll (results : List (ProcessingResult ρ)) :
    Conserves results (writeAll {} results) := by
  induction results using List.reverseRecOn with
  | nil => exact conserves_empty
  | append_singleton results result ih =>
      rw [writeAll_concat]
      exact ih.write result

/-- A result as the pipeline builds it: its features are the bundle of its emissions, whose
windows start at UTC datetimes as the aggregators make them. -/
structure BuiltByProcess {ω : Type} (rules : FeatureRules ω ρ) (result : ProcessingResult ρ) :
    Prop where
  bundled : ∃ before after, FeatureBundling.bundleFeatureEvents rules result.emissions before =
    (.ok result.features, after)
  utc : ∀ emission ∈ result.emissions, emission.windowStart.offset = 0

/-- The emissions a feature was built from. -/
def builtFrom (feature : WindowedFeatureVectorEvent ρ) (emissions : List (WindowEmission ρ)) :
    List (WindowEmission ρ) :=
  emissions.filter fun emission => FeatureBundling.groupKey emission =
    (feature.payload.partitionKey, feature.payload.windowStart.micros)

/-- UTC datetimes of one instant truncate to one hour. -/
theorem truncateToHour_of_instant {left right : Datetime} (sameInstant : left.micros = right.micros)
    (leftUtc : left.offset = 0) (rightUtc : right.offset = 0) :
    truncateToHour left = truncateToHour right := by
  have sameWall : left.wall = right.wall := by
    simp only [Datetime.micros] at sameInstant
    omega
  apply Instant.ext
  simp only [truncateToHour, sameWall]

theorem BuiltByProcess.routes_together {ω : Type} {rules : FeatureRules ω ρ}
    {result : ProcessingResult ρ} (built : BuiltByProcess rules result)
    {feature : WindowedFeatureVectorEvent ρ} (member : feature ∈ result.features) :
    emissionsFor (partitionKeyFromFeature feature) result.emissions ≠ [] ∧
      ∀ emission ∈ builtFrom feature result.emissions,
        partitionKeyFromEmission emission = partitionKeyFromFeature feature := by
  obtain ⟨before, after, bundled⟩ := built.bundled
  obtain ⟨first, inResult, samePartition, sameStart⟩ :=
    FeatureBundling.bundleFeatureEvents_ok bundled member
  have routed : partitionKeyFromEmission first = partitionKeyFromFeature feature := by
    rw [partitionKeyFromEmission, partitionKeyFromFeature, samePartition, sameStart]
  refine ⟨List.ne_nil_of_mem (List.mem_filter.mpr ⟨inResult, by simpa using routed⟩), ?_⟩
  intro emission inGroup
  obtain ⟨listed, sameKey⟩ := List.mem_filter.mp inGroup
  obtain ⟨partition, instant⟩ := Prod.mk.inj (of_decide_eq_true sameKey)
  rw [← routed, partitionKeyFromEmission, partitionKeyFromEmission, partition, samePartition,
    truncateToHour_of_instant (by rw [instant, sameStart]) (built.utc _ listed)
      (built.utc _ inResult)]

/-- No feature stays buffered where every result is built by the pipeline. -/
theorem no_feature_buffered {ω : Type} {rules : FeatureRules ω ρ}
    (results : List (ProcessingResult ρ)) (built : ∀ result ∈ results, BuiltByProcess rules result)
    (key : PartitionKey) : ((writeAll {} results).buffers.bufferFor key).features = [] := by
  induction results using List.reverseRecOn with
  | nil => rfl
  | append_singleton results result ih =>
      have earlier := ih fun other member => built other (List.mem_append_left _ member)
      have last := built result (List.mem_append_right _ (List.mem_singleton_self _))
      rw [writeAll_concat, write, PartitionBuffers.bufferFor_absorb]
      split
      · rename_i unrouted
        have none : featuresFor key result.features = [] := by
          rw [featuresFor, List.filter_eq_nil_iff]
          intro feature member
          rw [decide_eq_true_eq]
          rintro rfl
          exact (last.routes_together member).1 unrouted
        rw [PartitionBuffers.bufferFor_bufferResult, earlier, none]
        rfl
      · rfl

/-- A feature is flushed by the write that brings it, in the partition its emissions are
flushed in. -/
theorem feature_flushed_with_emissions {ω : Type} {rules : FeatureRules ω ρ}
    (writer : InMemoryDatasetWriter ρ) {result : ProcessingResult ρ}
    (built : BuiltByProcess rules result) {feature : WindowedFeatureVectorEvent ρ}
    (member : feature ∈ result.features) :
    ∃ partition ∈ (writer.buffers.absorb result).2, feature ∈ partition.features ∧
      (builtFrom feature result.emissions).Sublist partition.emissions := by
  obtain ⟨routed, together⟩ := built.routes_together member
  have flushed := writer.buffers.flushedFor_absorb result (partitionKeyFromFeature feature)
  rw [if_neg routed] at flushed
  have taken : (writer.buffers.bufferResult result).contents (partitionKeyFromFeature feature) ∈
      (writer.buffers.absorb result).2 := by
    apply List.mem_of_mem_filter (p := fun partition : FlushedPartition ρ =>
      partition.partitionKey = partitionKeyFromFeature feature)
    rw [← flushedFor, flushed]
    exact List.mem_singleton_self _
  refine ⟨_, taken, ?_, ?_⟩
  · rw [PartitionBuffers.contents, PartitionBuffers.bufferFor_bufferResult]
    exact List.mem_append_right _ (List.mem_filter.mpr ⟨member, by simp only [decide_true]⟩)
  · rw [PartitionBuffers.contents, PartitionBuffers.bufferFor_bufferResult]
    apply List.Sublist.trans _ (List.sublist_append_right _ _)
    have routedTo : emissionsFor (partitionKeyFromFeature feature)
        (builtFrom feature result.emissions) = builtFrom feature result.emissions :=
      List.filter_eq_self.mpr fun emission inGroup =>
        decide_eq_true (together emission inGroup)
    rw [← routedTo]
    exact List.filter_sublist.filter _

/-- For every sequence of results, each partition's emissions are flushed in arrival order
and its detections and features flushed or still buffered in arrival order; every flush
holds an emission and no emission stays buffered. Where the pipeline built the results, no
feature stays buffered either and each is flushed with the emissions it was built from. -/
theorem writeAll_conserves {ω : Type} (rules : FeatureRules ω ρ)
    (results : List (ProcessingResult ρ)) :
    (∀ key,
      (flushedFor key (writeAll {} results).flushed).flatMap FlushedPartition.emissions =
        emissionsFor key (results.flatMap ProcessingResult.emissions) ∧
      (flushedFor key (writeAll {} results).flushed).flatMap FlushedPartition.detections ++
          ((writeAll {} results).buffers.bufferFor key).detections =
        detectionsFor key (results.flatMap ProcessingResult.detections) ∧
      (flushedFor key (writeAll {} results).flushed).flatMap FlushedPartition.features ++
          ((writeAll {} results).buffers.bufferFor key).features =
        featuresFor key (results.flatMap ProcessingResult.features)) ∧
    (∀ partition ∈ (writeAll {} results).flushed, partition.emissions ≠ []) ∧
    (∀ key, ((writeAll {} results).buffers.bufferFor key).emissions = []) ∧
    ((∀ result ∈ results, BuiltByProcess rules result) →
      (∀ key, ((writeAll {} results).buffers.bufferFor key).features = []) ∧
      ∀ before result after, results = before ++ result :: after →
        ∃ flushes, (writeAll {} (before ++ [result])).flushed =
            (writeAll {} before).flushed ++ flushes ∧
          ∀ feature ∈ result.features, ∃ partition ∈ flushes,
            feature ∈ partition.features ∧
              (builtFrom feature result.emissions).Sublist partition.emissions) := by
  have conserves := conserves_writeAll results
  refine ⟨fun key => ⟨conserves.emissions key, conserves.detections key, conserves.features key⟩,
    conserves.nonempty, conserves.drained, ?_⟩
  intro built
  refine ⟨no_feature_buffered results built, ?_⟩
  intro before result after located
  have here := built result (by rw [located]; exact List.mem_append_right _ (List.mem_cons_self ..))
  refine ⟨((writeAll {} before).buffers.absorb result).2, ?_, ?_⟩
  · rw [writeAll_concat]
    rfl
  · exact fun feature member => feature_flushed_with_emissions (writeAll {} before) here member

def sampleRules : FeatureRules Unit Nat where
  now _ := (.epoch, ())
  featureValue := some
  parseUuid _ := none
  uuid5 _ := 0

def sampleEmission : WindowEmission Nat where
  partitionKey := "store-1"
  aggregationName := "count"
  windowStart := .utc .baseline
  windowEnd := .utc .epoch
  value := 1
  eventCount := 1
  isRepair := false
  lastContributingTraceId := none

/-- A result with one emission and its feature. -/
def sampleResult : ProcessingResult Nat where
  eventId := "event-1"
  partitionKey := some "store-1"
  classification := some .onTime
  handlersInvoked := 0
  handlerFailures := 0
  emissions := [sampleEmission]
  detections := []
  alerts := []
  extractionFailed := false
  features := [{
    eventId := 0
    eventTimestamp := .utc .epoch
    traceId := none
    payload := {
      partitionKey := "store-1"
      windowStart := .utc .baseline
      windowEnd := .utc .epoch
      featureValues := OrderedDict.empty.set "count" 1
      featureVersion := "v1" } }]

theorem sampleResult_built : BuiltByProcess sampleRules sampleResult where
  bundled := ⟨(), (), rfl⟩
  utc := by decide

theorem writeAll_conserves_sample :
    BuiltByProcess sampleRules sampleResult ∧
    ∀ key, ((writeAll {} [sampleResult, sampleResult]).buffers.bufferFor key).features = [] :=
  ⟨sampleResult_built, ((writeAll_conserves sampleRules [sampleResult, sampleResult]).2.2.2 (by
    intro result member
    rw [List.mem_pair, or_self] at member
    rw [member]
    exact sampleResult_built)).1⟩

end InMemoryDatasetWriter

end SignalForge
