import SignalForge.S3DatasetWriterConservation
import SignalForge.StableSort

/-! Whether a partition's tables depend on the order in which its records were buffered. -/

set_option autoImplicit false

namespace SignalForge

variable {ρ : Type}

/-- The columns of a detection. -/
structure DetectionRow where
  eventId : Uuid
  detectionId : Uuid
  detectionType : String
  severity : DetectionSeverity
  detectedAt : Int
  eventTimestamp : Int
  storeId : String
  deviceId : Option Uuid
  sourceEventId : Uuid
  thresholdBreached : String
  details : String
  traceId : Option Uuid
  deriving DecidableEq

/-- What `isinstance` tells of an emitted value, where a `bool` is no `int`. -/
inductive ValueClass where
  | bool | int | float | other
  deriving DecidableEq

/-- A value as its column holds it. -/
inductive ValueCell (ρ : Type) where
  | bool (value : ρ)
  | int (value : ρ)
  | float (value : ρ)
  | text (value : String)

/-- The columns of an emission. -/
structure EmissionRow (ρ : Type) where
  partitionKey : String
  aggregationName : String
  windowStart : Int
  windowEnd : Int
  value : ValueCell ρ
  eventCount : Nat
  isRepair : Bool
  lastContributingTraceId : Option String

/-- The columns of a feature event. -/
structure FeatureRow where
  eventId : Uuid
  partitionKey : String
  windowStart : Int
  windowEnd : Int
  featureValues : String
  featureVersion : String
  eventTimestamp : Int
  traceId : Option Uuid

inductive WrittenRows (ρ : Type) where
  | detections (rows : List DetectionRow)
  | emissions (rows : List (EmissionRow ρ))
  | features (rows : List FeatureRow)

/-- Parquet as a function of the rows, and what Python makes of the values in them. -/
structure ParquetWriter (ρ : Type) where
  write : WrittenRows ρ → List UInt8
  valueClass : ρ → ValueClass
  asFloat : ρ → ρ
  valueText : ρ → String
  valuesText : OrderedDict String ρ → String
  detailsText : OrderedDict String Detail → String

namespace ParquetWriter

def detectionRow (writer : ParquetWriter ρ) (detection : DetectionEvent) : DetectionRow where
  eventId := detection.eventId
  detectionId := detection.payload.detectionId
  detectionType := detection.payload.detectionType
  severity := detection.payload.severity
  detectedAt := detection.payload.detectedAt.micros
  eventTimestamp := detection.eventTimestamp.micros
  storeId := detection.payload.storeId
  deviceId := detection.payload.deviceId
  sourceEventId := detection.payload.sourceEventId
  thresholdBreached := detection.payload.thresholdBreached
  details := writer.detailsText detection.payload.details
  traceId := detection.traceId

/-- `_value_array`, at one value of the column. -/
def valueCell (writer : ParquetWriter ρ) (values : List ρ) (value : ρ) : ValueCell ρ :=
  if values.all (writer.valueClass · = .bool) then .bool value
  else if values.all (writer.valueClass · = .int) then .int value
  else if values.all fun value => writer.valueClass value = .int ∨ writer.valueClass value = .float then
    .float (writer.asFloat value)
  else .text (writer.valueText value)

/-- A row of the table that has these values. -/
def emissionRow (writer : ParquetWriter ρ) (values : List ρ) (emission : WindowEmission ρ) :
    EmissionRow ρ where
  partitionKey := emission.partitionKey
  aggregationName := emission.aggregationName
  windowStart := emission.windowStart.micros
  windowEnd := emission.windowEnd.micros
  value := writer.valueCell values emission.value
  eventCount := emission.eventCount
  isRepair := emission.isRepair
  lastContributingTraceId := emission.lastContributingTraceId

def featureRow (writer : ParquetWriter ρ) (feature : WindowedFeatureVectorEvent ρ) : FeatureRow where
  eventId := feature.eventId
  partitionKey := feature.payload.partitionKey
  windowStart := feature.payload.windowStart.micros
  windowEnd := feature.payload.windowEnd.micros
  featureValues := writer.valuesText feature.payload.featureValues
  featureVersion := feature.payload.featureVersion
  eventTimestamp := feature.eventTimestamp.micros
  traceId := feature.traceId

def columns (writer : ParquetWriter ρ) : TableRows ρ → WrittenRows ρ
  | .detections rows => .detections (rows.map writer.detectionRow)
  | .emissions rows =>
      .emissions (rows.map (writer.emissionRow (rows.map WindowEmission.value)))
  | .features rows => .features (rows.map writer.featureRow)

def encoding (writer : ParquetWriter ρ) : TableEncoding ρ where
  parquet rows := .ok (writer.write (writer.columns rows))
  jsonText := writer.valuesText

end ParquetWriter

/-- The same records of each kind, in another order. -/
structure FlushedPartition.Reorders (reordered partition : FlushedPartition ρ) : Prop where
  partitionKey : reordered.partitionKey = partition.partitionKey
  emissions : reordered.emissions.Perm partition.emissions
  detections : reordered.detections.Perm partition.detections
  features : reordered.features.Perm partition.features

/-- A table as it is written. -/
structure WrittenTable (ρ : Type) where
  recordType : String
  aggregationName : Option String
  rows : WrittenRows ρ
  data : List UInt8
  rowCount : Nat

namespace ParquetWriter

def written (writer : ParquetWriter ρ) (table : SerialisedTable ρ) : WrittenTable ρ :=
  ⟨table.recordType, table.aggregationName, writer.columns table.rows, table.data, table.rowCount⟩

/-- Whatever order the records of the partition come in, it is serialised to the same tables. -/
def OrderIndependent (writer : ParquetWriter ρ) (partition : FlushedPartition ρ) : Prop :=
  ∀ reordered : FlushedPartition ρ, reordered.Reorders partition →
    (Serialisation.serialisePartition writer.encoding reordered).map (List.map writer.written) =
      (Serialisation.serialisePartition writer.encoding partition).map (List.map writer.written)

/-- The emissions of one aggregation. -/
def group (emissions : List (WindowEmission ρ)) (name : String) : List (WindowEmission ρ) :=
  emissions.filter fun emission => emission.aggregationName = name

def groupValues (emissions : List (WindowEmission ρ)) (name : String) : List ρ :=
  (group emissions name).map WindowEmission.value

/-- Records of one table that tie on its sort key have equal rows. -/
structure TiesShowAlike (writer : ParquetWriter ρ) (partition : FlushedPartition ρ) : Prop where
  emissions : ∀ first ∈ partition.emissions, ∀ second ∈ partition.emissions,
    first.aggregationName = second.aggregationName →
    Serialisation.emissionOrder first second = .eq →
    writer.emissionRow (groupValues partition.emissions first.aggregationName) first =
      writer.emissionRow (groupValues partition.emissions first.aggregationName) second
  detections : ∀ first ∈ partition.detections, ∀ second ∈ partition.detections,
    Serialisation.detectionOrder first second = .eq →
    writer.detectionRow first = writer.detectionRow second
  features : ∀ first ∈ partition.features, ∀ second ∈ partition.features,
    Serialisation.featureOrder writer.encoding first second = .eq →
    writer.featureRow first = writer.featureRow second

end ParquetWriter

namespace Serialisation

instance : Std.TransCmp (emissionOrder : WindowEmission ρ → WindowEmission ρ → Ordering) :=
  inferInstanceAs (Std.TransCmp
    (compareLex (compareOn fun emission : WindowEmission ρ => emission.windowStart.micros)
    (compareLex (compareOn fun emission : WindowEmission ρ => emission.windowEnd.micros)
    (compareLex (compareOn fun emission : WindowEmission ρ => emission.isRepair)
    (compareLex (compareOn fun emission : WindowEmission ρ => emission.eventCount)
      (compareOn fun emission : WindowEmission ρ =>
        emission.lastContributingTraceId.getD ""))))))

instance : Std.TransCmp detectionOrder :=
  inferInstanceAs (Std.TransCmp
    (compareLex (compareOn fun detection : DetectionEvent => detection.payload.detectedAt.micros)
    (compareLex (compareOn fun detection : DetectionEvent => detection.eventTimestamp.micros)
    (compareLex (compareOn fun detection : DetectionEvent => detection.payload.storeId)
    (compareLex (compareOn fun detection : DetectionEvent => detection.payload.detectionType)
    (compareLex (compareOn fun detection : DetectionEvent =>
        String.ofList ((detection.payload.deviceId.map Uuid.text).getD []))
      (compareOn fun detection : DetectionEvent => detection.payload.thresholdBreached)))))))

instance (encoding : TableEncoding ρ) : Std.TransCmp (featureOrder encoding) :=
  inferInstanceAs (Std.TransCmp
    (compareLex (compareOn fun feature : WindowedFeatureVectorEvent ρ =>
        feature.payload.windowStart.micros)
    (compareLex (compareOn fun feature : WindowedFeatureVectorEvent ρ =>
        feature.payload.windowEnd.micros)
    (compareLex (compareOn fun feature : WindowedFeatureVectorEvent ρ =>
        feature.payload.partitionKey)
    (compareLex (compareOn fun feature : WindowedFeatureVectorEvent ρ =>
        feature.payload.featureVersion)
      (compareOn fun feature : WindowedFeatureVectorEvent ρ =>
        encoding.jsonText feature.payload.featureValues))))))

variable {writer : ParquetWriter ρ}

theorem emissionOrder_respects (values : List ρ) :
    StableSort.Respects emissionOrder (writer.emissionRow values) := by
  intro first first' second second' same other
  simp only [ParquetWriter.emissionRow, EmissionRow.mk.injEq] at same other
  simp only [emissionOrder, same, other]

theorem detectionOrder_respects : StableSort.Respects detectionOrder writer.detectionRow := by
  intro first first' second second' same other
  simp only [ParquetWriter.detectionRow, DetectionRow.mk.injEq] at same other
  simp only [detectionOrder, same, other]

theorem featureOrder_respects :
    StableSort.Respects (featureOrder writer.encoding) writer.featureRow := by
  intro first first' second second' same other
  simp only [ParquetWriter.featureRow, FeatureRow.mk.injEq] at same other
  simp only [featureOrder, ParquetWriter.encoding, same, other]

end Serialisation

namespace ParquetWriter

open Serialisation

variable (writer : ParquetWriter ρ)

def table (recordType : String) (aggregationName : Option String) (rows : WrittenRows ρ)
    (rowCount : Nat) : WrittenTable ρ :=
  ⟨recordType, aggregationName, rows, writer.write rows, rowCount⟩

def detectionTable (detections : List DetectionEvent) : WrittenTable ρ :=
  writer.table "detections" none
    (.detections ((sortedBy detectionOrder detections).map writer.detectionRow)) detections.length

def featureTable (features : List (WindowedFeatureVectorEvent ρ)) : WrittenTable ρ :=
  writer.table "features" none
    (.features ((sortedBy (featureOrder writer.encoding) features).map writer.featureRow))
    features.length

def emissionTable (emissions : List (WindowEmission ρ)) (name : String) : WrittenTable ρ :=
  writer.table "emissions" (some name)
    (.emissions ((sortedBy emissionOrder (group emissions name)).map
      (writer.emissionRow (groupValues emissions name))))
    (group emissions name).length

/-- The tables of a partition, before they are put in order. -/
def tables (partition : FlushedPartition ρ) : List (WrittenTable ρ) :=
  (if partition.detections = [] then [] else [writer.detectionTable partition.detections]) ++
    (sortedBy compare (aggregationGroups partition.emissions).keys).map
      (writer.emissionTable partition.emissions) ++
    (if partition.features = [] then [] else [writer.featureTable partition.features])

variable {writer}

theorem valueCell_of_perm {left right : List ρ} (perm : left.Perm right) :
    writer.valueCell left = writer.valueCell right := by
  have all (p : ρ → Bool) : left.all p = right.all p := perm.all_eq
  funext value
  simp only [valueCell, all]

theorem emissionRow_of_perm {left right : List ρ} (perm : left.Perm right) :
    writer.emissionRow left = writer.emissionRow right := by
  funext emission
  rw [emissionRow, valueCell_of_perm perm]
  rfl

theorem groupValues_perm {left right : List (WindowEmission ρ)} (perm : left.Perm right)
    (name : String) : (groupValues left name).Perm (groupValues right name) :=
  (perm.filter _).map _

end ParquetWriter

namespace Serialisation

open ParquetWriter

variable {writer : ParquetWriter ρ}

def writtenOrder (first second : WrittenTable ρ) : Ordering :=
  (compare first.recordType second.recordType).then <|
  compare (first.aggregationName.getD "") (second.aggregationName.getD "")

theorem sortedBy_length {α : Type} (order : α → α → Ordering) (items : List α) :
    (sortedBy order items).length = items.length := (sortedBy_perm order items).length_eq

variable (writer) in
theorem serialiseDetections_written (detections : List DetectionEvent) :
    ∃ tables, serialiseDetections writer.encoding detections = .ok tables ∧
      tables.map writer.written =
        if detections = [] then [] else [writer.detectionTable detections] := by
  cases detections with
  | nil => exact ⟨[], rfl, rfl⟩
  | cons first rest =>
      refine ⟨_, rfl, ?_⟩
      rw [if_neg (List.cons_ne_nil _ _), List.map_singleton, written, sortedBy_length]
      rfl

variable (writer) in
theorem serialiseFeatures_written (features : List (WindowedFeatureVectorEvent ρ)) :
    ∃ tables, serialiseFeatures writer.encoding features = .ok tables ∧
      tables.map writer.written =
        if features = [] then [] else [writer.featureTable features] := by
  cases features with
  | nil => exact ⟨[], rfl, rfl⟩
  | cons first rest =>
      refine ⟨_, rfl, ?_⟩
      rw [if_neg (List.cons_ne_nil _ _), List.map_singleton, written, sortedBy_length]
      rfl

theorem serialiseAggregation_written (emissions : List (WindowEmission ρ)) (name : String) :
    ∃ table, serialiseAggregation writer.encoding emissions name = .ok table ∧
      writer.written table = writer.emissionTable emissions name := by
  have values : List.Perm ((sortedBy emissionOrder (group emissions name)).map WindowEmission.value)
      (groupValues emissions name) := (sortedBy_perm _ _).map _
  refine ⟨_, rfl, ?_⟩
  rw [written, aggregationGroups_get?, sortedBy_length, columns]
  exact congrArg (fun row => writer.table "emissions" (some name) (.emissions
    ((sortedBy emissionOrder (group emissions name)).map row)) (group emissions name).length)
    (emissionRow_of_perm values)

theorem mapM_serialiseAggregation (emissions : List (WindowEmission ρ)) (names : List String) :
    ∃ tables, names.mapM (serialiseAggregation writer.encoding emissions) = .ok tables ∧
      tables.map writer.written = names.map (writer.emissionTable emissions) := by
  induction names with
  | nil => exact ⟨[], rfl, rfl⟩
  | cons name rest ih =>
      obtain ⟨table, first, firstWritten⟩ := serialiseAggregation_written emissions name
      obtain ⟨tables, others, othersWritten⟩ := ih
      refine ⟨table :: tables, ?_, ?_⟩
      · rw [List.mapM_cons, first, others]
        rfl
      · rw [List.map_cons, firstWritten, othersWritten, List.map_cons]

/-- What serialising a partition comes to, as the tables are written. -/
theorem serialisePartition_written (partition : FlushedPartition ρ) :
    (serialisePartition writer.encoding partition).map (List.map writer.written) =
      .ok (sortedBy writtenOrder (writer.tables partition)) := by
  obtain ⟨detections, ofDetections, detectionsWritten⟩ :=
    serialiseDetections_written writer partition.detections
  obtain ⟨emissions, ofEmissions, emissionsWritten⟩ := mapM_serialiseAggregation
    partition.emissions (sortedBy compare (aggregationGroups partition.emissions).keys)
  obtain ⟨features, ofFeatures, featuresWritten⟩ :=
    serialiseFeatures_written writer partition.features
  have serialised : serialisePartition writer.encoding partition =
      .ok (sortedBy tableOrder (detections ++ emissions ++ features)) := by
    rw [serialisePartition, ofDetections, serialiseEmissions, ofEmissions, ofFeatures]
    rfl
  have sorted : (sortedBy tableOrder (detections ++ emissions ++ features)).map writer.written =
      sortedBy writtenOrder ((detections ++ emissions ++ features).map writer.written) :=
    List.map_insertionSort _ _ _ _ fun _ _ _ _ => Iff.rfl
  rw [serialised, Except.map, sorted, List.map_append, List.map_append, detectionsWritten,
    emissionsWritten, featuresWritten]
  rfl

end Serialisation

namespace ParquetWriter

open Serialisation

variable {writer : ParquetWriter ρ}

theorem detectionTable_of_perm {left right : List DetectionEvent} (perm : left.Perm right)
    (ties : ∀ first ∈ right, ∀ second ∈ right, detectionOrder first second = .eq →
      writer.detectionRow first = writer.detectionRow second) :
    writer.detectionTable left = writer.detectionTable right := by
  have rows : (sortedBy detectionOrder left).map writer.detectionRow =
      (sortedBy detectionOrder right).map writer.detectionRow :=
    StableSort.map_sort_of_perm detectionOrder_respects perm ties
  rw [detectionTable, rows, perm.length_eq, detectionTable]

theorem featureTable_of_perm {left right : List (WindowedFeatureVectorEvent ρ)}
    (perm : left.Perm right)
    (ties : ∀ first ∈ right, ∀ second ∈ right, featureOrder writer.encoding first second = .eq →
      writer.featureRow first = writer.featureRow second) :
    writer.featureTable left = writer.featureTable right := by
  have rows : (sortedBy (featureOrder writer.encoding) left).map writer.featureRow =
      (sortedBy (featureOrder writer.encoding) right).map writer.featureRow :=
    StableSort.map_sort_of_perm featureOrder_respects perm ties
  rw [featureTable, rows, perm.length_eq, featureTable]

theorem mem_group {emissions : List (WindowEmission ρ)} {name : String}
    {emission : WindowEmission ρ} :
    emission ∈ group emissions name ↔ emission ∈ emissions ∧ emission.aggregationName = name := by
  rw [group, List.mem_filter, decide_eq_true_eq]

theorem emissionTable_of_perm {left right : List (WindowEmission ρ)} (perm : left.Perm right)
    (ties : ∀ first ∈ right, ∀ second ∈ right, first.aggregationName = second.aggregationName →
      emissionOrder first second = .eq →
      writer.emissionRow (groupValues right first.aggregationName) first =
        writer.emissionRow (groupValues right first.aggregationName) second) (name : String) :
    writer.emissionTable left name = writer.emissionTable right name := by
  have groups : (group left name).Perm (group right name) := perm.filter _
  have rows : (sortedBy emissionOrder (group left name)).map
      (writer.emissionRow (groupValues right name)) =
      (sortedBy emissionOrder (group right name)).map
        (writer.emissionRow (groupValues right name)) := by
    apply StableSort.map_sort_of_perm (emissionOrder_respects _) groups
    intro first firstMember second secondMember tie
    obtain ⟨firstHere, rfl⟩ := mem_group.mp firstMember
    obtain ⟨secondHere, alike⟩ := mem_group.mp secondMember
    exact ties first firstHere second secondHere alike.symm tie
  rw [emissionTable, emissionRow_of_perm (groupValues_perm perm name), rows, groups.length_eq,
    emissionTable]

/-- The aggregations of a partition do not depend on its order. -/
theorem aggregationNames_of_perm {left right : List (WindowEmission ρ)} (perm : left.Perm right) :
    sortedBy compare (aggregationGroups left).keys =
      sortedBy compare (aggregationGroups right).keys := by
  have keys : (aggregationGroups left).keys.Perm (aggregationGroups right).keys := by
    rw [List.perm_ext_iff_of_nodup (aggregationGroups left).keys_nodup
      (aggregationGroups right).keys_nodup]
    intro name
    simp only [mem_aggregationGroups, perm.mem_iff]
  have respects : StableSort.Respects (compare : String → String → Ordering) id := by
    rintro first _ second _ rfl rfl
    rfl
  have sorted := StableSort.map_sort_of_perm respects keys fun first _ second _ tie =>
    Std.LawfulEqOrd.eq_of_compare tie
  rwa [List.map_id, List.map_id] at sorted

theorem eq_nil_iff_of_perm {α : Type} {left right : List α} (perm : left.Perm right) :
    left = [] ↔ right = [] := by
  rw [← List.length_eq_zero_iff, perm.length_eq, List.length_eq_zero_iff]

theorem orderIndependent_of_tiesShowAlike {partition : FlushedPartition ρ}
    (alike : writer.TiesShowAlike partition) : writer.OrderIndependent partition := by
  intro reordered reorders
  have emissionTables : writer.emissionTable reordered.emissions =
      writer.emissionTable partition.emissions :=
    funext (emissionTable_of_perm reorders.emissions alike.emissions)
  have same : writer.tables reordered = writer.tables partition := by
    simp only [tables, detectionTable_of_perm reorders.detections alike.detections,
      featureTable_of_perm reorders.features alike.features,
      aggregationNames_of_perm reorders.emissions, emissionTables,
      eq_nil_iff_of_perm reorders.detections, eq_nil_iff_of_perm reorders.features]
  rw [serialisePartition_written, serialisePartition_written, same]

theorem mem_tables {partition : FlushedPartition ρ} {table : WrittenTable ρ} :
    table ∈ writer.tables partition ↔
      (partition.detections ≠ [] ∧ table = writer.detectionTable partition.detections) ∨
      (∃ name, (∃ emission ∈ partition.emissions, emission.aggregationName = name) ∧
        table = writer.emissionTable partition.emissions name) ∨
      (partition.features ≠ [] ∧ table = writer.featureTable partition.features) := by
  have ofList {α : Type} (items : List α) (one : WrittenTable ρ) :
      table ∈ (if items = [] then [] else [one]) ↔ items ≠ [] ∧ table = one := by
    cases items <;> simp
  rw [tables, List.mem_append, List.mem_append, ofList, ofList, List.mem_map, or_assoc]
  simp only [(sortedBy_perm _ _).mem_iff, mem_aggregationGroups, eq_comm]

/-- Where the order does not matter, a table of the records in one order is one of the records in
any other. -/
theorem OrderIndependent.mem_tables {partition left right : FlushedPartition ρ}
    (independent : writer.OrderIndependent partition) (leftReorders : left.Reorders partition)
    (rightReorders : right.Reorders partition) {table : WrittenTable ρ}
    (member : table ∈ writer.tables left) : table ∈ writer.tables right := by
  have same := (independent left leftReorders).trans (independent right rightReorders).symm
  rw [serialisePartition_written, serialisePartition_written, Except.ok.injEq] at same
  rw [← (sortedBy_perm writtenOrder _).mem_iff, ← same]
  exact (sortedBy_perm writtenOrder _).mem_iff.mpr member

theorem tables_detections {partition : FlushedPartition ρ} {table : WrittenTable ρ}
    (member : table ∈ writer.tables partition) (kind : table.recordType = "detections") :
    table = writer.detectionTable partition.detections := by
  rcases ParquetWriter.mem_tables.mp member with ⟨_, here⟩ | ⟨name, _, rfl⟩ | ⟨_, rfl⟩
  · exact here
  · exact absurd kind (by decide : "emissions" ≠ "detections")
  · exact absurd kind (by decide : "features" ≠ "detections")

theorem tables_features {partition : FlushedPartition ρ} {table : WrittenTable ρ}
    (member : table ∈ writer.tables partition) (kind : table.recordType = "features") :
    table = writer.featureTable partition.features := by
  rcases ParquetWriter.mem_tables.mp member with ⟨_, rfl⟩ | ⟨name, _, rfl⟩ | ⟨_, here⟩
  · exact absurd kind (by decide : "detections" ≠ "features")
  · exact absurd kind (by decide : "emissions" ≠ "features")
  · exact here

theorem tables_emissions {partition : FlushedPartition ρ} {table : WrittenTable ρ} {name : String}
    (member : table ∈ writer.tables partition) (named : table.aggregationName = some name) :
    table = writer.emissionTable partition.emissions name := by
  rcases ParquetWriter.mem_tables.mp member with ⟨_, rfl⟩ | ⟨other, _, rfl⟩ | ⟨_, rfl⟩
  · cases named
  · rw [Option.some.inj named]
  · cases named

theorem OrderIndependent.detections {partition : FlushedPartition ρ}
    (independent : writer.OrderIndependent partition) {first second : DetectionEvent}
    (firstMember : first ∈ partition.detections) (secondMember : second ∈ partition.detections)
    (tie : detectionOrder first second = .eq) :
    writer.detectionRow first = writer.detectionRow second := by
  rcases StableSort.eq_or_two firstMember secondMember with rfl | ⟨rest, perm⟩
  · rfl
  have left : FlushedPartition.Reorders { partition with detections := first :: second :: rest }
      partition := ⟨rfl, .refl _, perm.symm, .refl _⟩
  have right : FlushedPartition.Reorders { partition with detections := second :: first :: rest }
      partition := ⟨rfl, .refl _, (List.Perm.swap ..).trans perm.symm, .refl _⟩
  have member := independent.mem_tables left right
    (ParquetWriter.mem_tables.mpr (Or.inl ⟨List.cons_ne_nil _ _, rfl⟩))
  have same := congrArg WrittenTable.rows (tables_detections member rfl)
  exact StableSort.row_eq_of_swap tie (WrittenRows.detections.inj same)

theorem OrderIndependent.features {partition : FlushedPartition ρ}
    (independent : writer.OrderIndependent partition)
    {first second : WindowedFeatureVectorEvent ρ}
    (firstMember : first ∈ partition.features) (secondMember : second ∈ partition.features)
    (tie : featureOrder writer.encoding first second = .eq) :
    writer.featureRow first = writer.featureRow second := by
  rcases StableSort.eq_or_two firstMember secondMember with rfl | ⟨rest, perm⟩
  · rfl
  have left : FlushedPartition.Reorders { partition with features := first :: second :: rest }
      partition := ⟨rfl, .refl _, .refl _, perm.symm⟩
  have right : FlushedPartition.Reorders { partition with features := second :: first :: rest }
      partition := ⟨rfl, .refl _, .refl _, (List.Perm.swap ..).trans perm.symm⟩
  have member := independent.mem_tables left right
    (ParquetWriter.mem_tables.mpr (Or.inr (Or.inr ⟨List.cons_ne_nil _ _, rfl⟩)))
  have same := congrArg WrittenTable.rows (tables_features member rfl)
  exact StableSort.row_eq_of_swap tie (WrittenRows.features.inj same)

theorem OrderIndependent.emissions {partition : FlushedPartition ρ}
    (independent : writer.OrderIndependent partition) {first second : WindowEmission ρ}
    (firstMember : first ∈ partition.emissions) (secondMember : second ∈ partition.emissions)
    (alike : first.aggregationName = second.aggregationName)
    (tie : emissionOrder first second = .eq) :
    writer.emissionRow (groupValues partition.emissions first.aggregationName) first =
      writer.emissionRow (groupValues partition.emissions first.aggregationName) second := by
  rcases StableSort.eq_or_two firstMember secondMember with rfl | ⟨rest, perm⟩
  · rfl
  have left : FlushedPartition.Reorders { partition with emissions := first :: second :: rest }
      partition := ⟨rfl, perm.symm, .refl _, .refl _⟩
  have right : FlushedPartition.Reorders { partition with emissions := second :: first :: rest }
      partition := ⟨rfl, (List.Perm.swap ..).trans perm.symm, .refl _, .refl _⟩
  have member := independent.mem_tables left right (ParquetWriter.mem_tables.mpr
    (Or.inr (Or.inl ⟨first.aggregationName, ⟨first, List.mem_cons_self, rfl⟩, rfl⟩)))
  have same := WrittenRows.emissions.inj
    (congrArg WrittenTable.rows (tables_emissions member rfl))
  rw [emissionRow_of_perm (groupValues_perm left.emissions _),
    emissionRow_of_perm (groupValues_perm right.emissions _)] at same
  have forward : group (first :: second :: rest) first.aggregationName =
      first :: second :: group rest first.aggregationName := by
    simp [group, alike]
  have backward : group (second :: first :: rest) first.aggregationName =
      second :: first :: group rest first.aggregationName := by
    simp [group, alike]
  rw [forward, backward] at same
  exact StableSort.row_eq_of_swap tie same

/-- A partition is serialised alike in every order of its records exactly when those that tie on
their sort key have equal rows. -/
theorem orderIndependent_iff (writer : ParquetWriter ρ) (partition : FlushedPartition ρ) :
    writer.OrderIndependent partition ↔ writer.TiesShowAlike partition := by
  constructor
  · intro independent
    refine ⟨?_, ?_, ?_⟩
    · intro first firstMember second secondMember alike tie
      exact independent.emissions firstMember secondMember alike tie
    · intro first firstMember second secondMember tie
      exact independent.detections firstMember secondMember tie
    · intro first firstMember second secondMember tie
      exact independent.features firstMember secondMember tie
  · exact orderIndependent_of_tiesShowAlike

end ParquetWriter

section Sample

/-- An outage a detector finds in a window that ends at 01:00. -/
def outageDetection (detectionId : Uuid) (windowStart : String) : DetectionEvent where
  eventId := detectionId + 2
  eventTimestamp := .utc (.second 3600)
  traceId := none
  payload := {
    detectionId := detectionId
    detectionType := "store.outage"
    severity := .critical
    detectedAt := .utc (.second 3600)
    storeId := "store-1"
    deviceId := none
    sourceEventId := detectionId + 4
    thresholdBreached := "5 of 10 devices not reporting (50% offline, threshold 30%)"
    details := OrderedDict.empty.set "window_start" (.text windowStart) }

/-- What two detectors find that watch windows of five and of ten minutes. -/
def outagePartition : FlushedPartition Unit where
  partitionKey := ⟨"store-1", .second 3600⟩
  emissions := []
  detections := [outageDetection 0#128 "1970-01-01T00:55:00+00:00",
    outageDetection 1#128 "1970-01-01T00:50:00+00:00"]
  features := []

theorem outagePartition_follows_order :
    ¬ ∃ writer : ParquetWriter Unit, writer.OrderIndependent outagePartition := by
  rintro ⟨writer, independent⟩
  have tie : Serialisation.detectionOrder (outageDetection 0#128 "1970-01-01T00:55:00+00:00")
      (outageDetection 1#128 "1970-01-01T00:50:00+00:00") = .eq := by decide +kernel
  have row := independent.detections List.mem_cons_self
    (List.mem_cons_of_mem _ List.mem_cons_self) tie
  exact absurd (congrArg DetectionRow.detectionId row) (by decide : (0#128 : Uuid) ≠ 1#128)

end Sample

end SignalForge
