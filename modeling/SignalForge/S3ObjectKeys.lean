import SignalForge.FeatureBundling
import SignalForge.S3DatasetWriterConservation

/-! The keys under which the S3 writer puts its objects, when puts may raise: none is used twice, and
each tells what is stored under it. -/

set_option autoImplicit false

namespace SignalForge

variable {ρ : Type}

/-- The record type and the aggregation a table is filed under are those of its rows. -/
def Filed (table : SerialisedTable ρ) : Prop :=
  match table.rows with
  | .detections _ => table.recordType = "detections" ∧ table.aggregationName = none
  | .emissions rows => table.recordType = "emissions" ∧ ∃ aggregationName,
      table.aggregationName = some aggregationName ∧
        ∀ emission ∈ rows, emission.aggregationName = aggregationName
  | .features _ => table.recordType = "features" ∧ table.aggregationName = none

namespace Filed

variable {table : SerialisedTable ρ}

theorem recordType_plain (filed : Filed table) : '/' ∉ table.recordType.toList := by
  unfold Filed at filed
  split at filed <;> rw [filed.1] <;> decide

theorem named_iff (filed : Filed table) :
    table.aggregationName.isSome ↔ table.recordType = "emissions" := by
  unfold Filed at filed
  split at filed
  · rw [filed.1, filed.2]
    decide
  · obtain ⟨typed, _, named, _⟩ := filed
    rw [typed, named]
    exact iff_of_true rfl rfl
  · rw [filed.1, filed.2]
    decide

end Filed

namespace Serialisation

variable {encoding : TableEncoding ρ}

theorem serialiseRows_tables {α : Type} {recordType : String} {order : α → α → Ordering}
    {tableRows : List α → TableRows ρ} {items : List α} {tables : List (SerialisedTable ρ)}
    (serialised : serialiseRows encoding recordType order tableRows items = .ok tables) :
    ∀ table ∈ tables, table.recordType = recordType ∧ table.aggregationName = none ∧
      ∃ rows, table.rows = tableRows rows := by
  intro table member
  cases items with
  | nil =>
      cases serialised
      cases member
  | cons first rest =>
      obtain ⟨only, written, last⟩ := Except.bind_eq_ok.mp serialised
      cases last
      rw [List.mem_singleton.mp member]
      obtain ⟨typed, unnamed, rows⟩ := writeTable_ok written
      exact ⟨typed, unnamed, _, rows⟩

theorem serialiseAggregations_filed {emissions : List (WindowEmission ρ)} {names : List String}
    {tables : List (SerialisedTable ρ)}
    (serialised : names.mapM (serialiseAggregation encoding emissions) = .ok tables) :
    ∀ table ∈ tables, Filed table := by
  induction names generalizing tables with
  | nil =>
      cases serialised
      exact List.forall_mem_nil _
  | cons name rest ih =>
      rw [List.mapM_cons] at serialised
      obtain ⟨table, written, serialised⟩ := Except.bind_eq_ok.mp serialised
      obtain ⟨later, others, last⟩ := Except.bind_eq_ok.mp serialised
      cases last
      refine List.forall_mem_cons.mpr ⟨?_, ih others⟩
      obtain ⟨typed, named, rows⟩ := writeTable_ok written
      rw [Filed, rows]
      refine ⟨typed, name, named, fun emission member => ?_⟩
      have inGroup := (sortedBy_perm _ _).mem_iff.mp member
      rw [aggregationGroups_get?] at inGroup
      exact of_decide_eq_true (List.mem_filter.mp inGroup).2

theorem serialisePartition_filed {flushed : FlushedPartition ρ} {tables : List (SerialisedTable ρ)}
    (serialised : serialisePartition encoding flushed = .ok tables) :
    ∀ table ∈ tables, Filed table := by
  obtain ⟨detections, fromDetections, serialised⟩ := Except.bind_eq_ok.mp serialised
  obtain ⟨emissions, fromEmissions, serialised⟩ := Except.bind_eq_ok.mp serialised
  obtain ⟨features, fromFeatures, last⟩ := Except.bind_eq_ok.mp serialised
  cases last
  intro table member
  have member := (sortedBy_perm tableOrder _).mem_iff.mp member
  simp only [List.mem_append] at member
  rcases member with (detection | emission) | feature
  · obtain ⟨typed, unnamed, rows, same⟩ := serialiseRows_tables fromDetections table detection
    rw [Filed, same]
    exact ⟨typed, unnamed⟩
  · exact serialiseAggregations_filed fromEmissions table emission
  · obtain ⟨typed, unnamed, rows, same⟩ := serialiseRows_tables fromFeatures table feature
    rw [Filed, same]
    exact ⟨typed, unnamed⟩

end Serialisation

namespace S3DatasetWriter

/-- The part of a key before its file name. -/
def rootOf (key : String) : String := String.ofList (Text.rpartition '/' key.toList).1

/-- The keys of the puts called so far under a root, in order. -/
def keysUnder (root : String) (state : State ρ) : List String :=
  (state.calls.map PutObject.key).filter fun key => rootOf key = root

/-- Under every root the puts called have the numbers from zero on, in order, and the next number is
the one after. -/
def Numbered (state : State ρ) : Prop :=
  ∀ root, keysUnder root state =
    (List.range ((state.seq.get? root).getD 0)).map (objectName root)

theorem rootOf_objectName (root : String) (seq : Nat) : rootOf (objectName root seq) = root := by
  have slash : "/".toList = ['/'] := rfl
  have suffix : '/' ∉ ".parquet".toList := by decide
  have absent : '/' ∉ (Datetime.padded 8 seq).toList ++ ".parquet".toList := by
    rw [List.mem_append, not_or]
    refine ⟨fun member => ?_, suffix⟩
    have digit := Datetime.isDigit_padded member
    revert digit
    decide
  rw [rootOf, objectName, String.toList_append, String.toList_append, String.toList_append, slash,
    List.append_assoc, List.append_assoc, List.singleton_append, Text.rpartition_append absent,
    String.ofList_toList]

theorem numbered_start : Numbered ({} : State ρ) := fun _ => rfl

section Numbering

variable {writer : S3DatasetWriter ρ} {state : State ρ}

theorem Numbered.attempted (numbered : Numbered state) (root : String) (table : SerialisedTable ρ) :
    Numbered (attempted writer root table state) := by
  intro other
  have before := numbered other
  have named : rootOf (nextName root state) = root := rootOf_objectName ..
  simp only [keysUnder, S3DatasetWriter.attempted, List.map_append, List.map_cons, List.map_nil,
    List.filter_append, OrderedDict.get?_set] at before ⊢
  rw [before]
  by_cases same : other = root
  · subst same
    rw [if_pos rfl, Option.getD_some, List.range_succ, List.map_append,
      List.filter_cons_of_pos (by simpa using named)]
    rfl
  · rw [if_neg same, List.filter_cons_of_neg (by simpa [named] using fun equal => same equal.symm),
      List.filter_nil, List.append_nil]

/-- No key is used twice. -/
theorem Numbered.nodup (numbered : Numbered state) : (state.calls.map PutObject.key).Nodup := by
  apply List.nodup_iff_count_le_one.mpr
  intro key
  have counted : (keysUnder (rootOf key) state).count key =
      (state.calls.map PutObject.key).count key := List.count_filter (decide_eq_true rfl)
  rw [← counted, numbered (rootOf key)]
  apply List.nodup_iff_count_le_one.mp
  exact List.Nodup.map (fun _ _ same => (objectName_injective same).2) List.nodup_range

end Numbering

/-- The put stores the rows of a table of the partition, under the name with the number. -/
structure Addressed (call : PutObject ρ) (partitionKey : PartitionKey) (seq : Nat) : Prop where
  key : call.key = objectName (objectRoot partitionKey call.body) seq
  filed : Filed call.body
  nonempty : call.body.rows.records ≠ []
  routed : ∀ record ∈ call.body.rows.records, record.partitionKey = partitionKey

/-- What holds of the puts called, whether or not they raised. -/
structure Keyed (state : State ρ) : Prop where
  numbered : Numbered state
  addressed : ∀ call ∈ state.calls, ∃ partitionKey seq, Addressed call partitionKey seq

section Keys

variable {writer : S3DatasetWriter ρ} {state : State ρ}

/-- A table of the partition, as serialising it gives them. -/
structure TableOf (partitionKey : PartitionKey) (table : SerialisedTable ρ) : Prop where
  filed : Filed table
  nonempty : table.rows.records ≠ []
  routed : ∀ record ∈ table.rows.records, record.partitionKey = partitionKey

theorem Keyed.congr (keyed : Keyed state) {after : State ρ} (calls : after.calls = state.calls)
    (seq : after.seq = state.seq) : Keyed after where
  numbered root := by
    rw [keysUnder, calls, seq]
    exact keyed.numbered root
  addressed := by
    rw [calls]
    exact keyed.addressed

theorem Keyed.attempted (keyed : Keyed state) {partitionKey : PartitionKey}
    {table : SerialisedTable ρ} (tableOf : TableOf partitionKey table) :
    Keyed (attempted writer (objectRoot partitionKey table) table state) where
  numbered := keyed.numbered.attempted _ table
  addressed := by
    refine List.forall_mem_append.mpr ⟨keyed.addressed, ?_⟩
    rw [List.forall_mem_singleton]
    exact ⟨partitionKey, _, rfl, tableOf.filed, tableOf.nonempty, tableOf.routed⟩

theorem uploadTables_keyed {partitionKey : PartitionKey} {tables : List (SerialisedTable ρ)}
    (tablesOf : ∀ table ∈ tables, TableOf partitionKey table) (keyed : Keyed state) :
    Keyed (uploadTables writer partitionKey tables state).2 := by
  induction tables generalizing state with
  | nil => exact keyed
  | cons table rest ih =>
      obtain ⟨here, later⟩ := List.forall_mem_cons.mp tablesOf
      have called : Keyed (S3DatasetWriter.attempted writer (objectRoot partitionKey table) table
          state) := keyed.attempted here
      rw [uploadTables_cons]
      cases writer.raises state.puts with
      | some reason => exact called
      | none => exact ih later (called.congr rfl rfl)

theorem tablesOf_serialised (sound : Sound state) {key : PartitionKey}
    {tables : List (SerialisedTable ρ)}
    (serialised : Serialisation.serialisePartition writer.encoding (state.buffers.contents key) =
      .ok tables) : ∀ table ∈ tables, TableOf key table := by
  intro table member
  refine ⟨Serialisation.serialisePartition_filed serialised table member,
    (Serialisation.serialisePartition_ok serialised).nonempty table member, ?_⟩
  intro record inside
  exact sound.taken serialised record (List.mem_flatMap.mpr ⟨table, member, inside⟩)

theorem flushPartition_keyed (sound : Sound state) (keyed : Keyed state) (key : PartitionKey) :
    Keyed (flushPartition writer key state).2 := by
  cases serialised : Serialisation.serialisePartition writer.encoding (state.buffers.contents key) with
  | error reason =>
      rw [flushPartition_of_error serialised]
      exact keyed
  | ok tables =>
      have uploaded : Keyed (uploadTables writer key tables state).2 :=
        uploadTables_keyed (tablesOf_serialised sound serialised) keyed
      rcases called : uploadTables writer key tables state with ⟨outcome, middle⟩
      rw [called] at uploaded
      rw [flushPartition_of_uploads serialised called]
      cases outcome with
      | error reason => exact uploaded
      | ok _ => exact uploaded.congr rfl rfl

theorem flushPartitions_keyed (keys : List PartitionKey) (sound : Sound state)
    (keyed : Keyed state) : Keyed (flushPartitions writer keys state).2 := by
  induction keys generalizing state with
  | nil => exact keyed
  | cons key rest ih =>
      have flushedKeyed : Keyed (flushPartition writer key state).2 :=
        flushPartition_keyed sound keyed key
      have flushedSound := (flushPartition_spec writer sound key).1
      rw [flushPartitions, Call.bind_apply]
      rcases outcome : flushPartition writer key state with ⟨reason | ⟨⟩, after⟩
      · rw [outcome] at flushedKeyed
        exact flushedKeyed
      · rw [outcome] at flushedKeyed flushedSound
        exact ih flushedSound flushedKeyed

theorem writeAll_keyed (writer : S3DatasetWriter ρ) (results : List (ProcessingResult ρ)) :
    Keyed (writeAll writer results {}) := by
  have start : Keyed ({} : State ρ) := ⟨numbered_start, List.forall_mem_nil _⟩
  induction results using List.reverseRecOn with
  | nil => exact start
  | append_singleton results result ih =>
      rw [writeAll_concat]
      cases configured : writer.bucket with
      | none =>
          rw [write, configured]
          exact ih
      | some bucket =>
          have sound := sound_writeAll configured results
          rw [write_of_bucket configured]
          exact flushPartitions_keyed _ (sound.buffered result) (ih.congr rfl rfl)

end Keys

section Decoding

/-- The store follows the grammar of partition keys, and no aggregation's name holds a slash. -/
structure InGrammar (partitionKey : PartitionKey) (table : SerialisedTable ρ) : Prop where
  store : FeatureBundling.isPartitionKey partitionKey.storeId = true
  aggregation : ∀ name, table.aggregationName = some name → '/' ∉ name.toList

theorem objectRoot_toList (partitionKey : PartitionKey) (table : SerialisedTable ρ) :
    (objectRoot partitionKey table).toList = table.recordType.toList ++ '/' ::
      match table.aggregationName with
      | some name => name.toList ++ '/' :: (partitionPath partitionKey).toList
      | none => (partitionPath partitionKey).toList := by
  have slash : "/".toList = ['/'] := rfl
  rw [objectRoot, tableRoot]
  cases table.aggregationName <;>
    simp only [String.toList_append, slash, List.append_assoc, List.cons_append, List.nil_append]

theorem partitionPath_toList (key : PartitionKey) :
    (partitionPath key).toList =
      let date := Datetime.civilOfDays (key.hour.micros.fdiv (24 * microsPerHour))
      "store_id=".toList ++ (key.storeId.toList ++ '/' :: ("year=".toList ++
        ((Datetime.padded 4 date.1).toList ++ '/' :: ("month=".toList ++
          ((Datetime.padded 2 date.2.1).toList ++ '/' :: ("day=".toList ++
            ((Datetime.padded 2 date.2.2).toList ++ '/' :: ("hour=".toList ++
              (Datetime.padded 2 (key.hour.micros.fmod (24 * microsPerHour) /
                microsPerHour).toNat).toList)))))))) := by
  have year : "/year=".toList = '/' :: "year=".toList := rfl
  have month : "/month=".toList = '/' :: "month=".toList := rfl
  have day : "/day=".toList = '/' :: "day=".toList := rfl
  have hour : "/hour=".toList = '/' :: "hour=".toList := rfl
  -- `delta`: the equation lemma of the definition evaluates its calendar.
  delta partitionPath
  simp only [String.toList_append, year, month, day, hour, List.append_assoc, List.cons_append]

/-- Hours on the hour are told by their date and their hour of the day. -/
theorem hour_eq {left right : Instant} (onTheHour : left.micros % microsPerHour = 0)
    (otherOnTheHour : right.micros % microsPerHour = 0)
    (dates : Datetime.civilOfDays (left.micros.fdiv (24 * microsPerHour)) =
      Datetime.civilOfDays (right.micros.fdiv (24 * microsPerHour)))
    (hours : (left.micros.fmod (24 * microsPerHour) / microsPerHour).toNat =
      (right.micros.fmod (24 * microsPerHour) / microsPerHour).toNat) : left = right := by
  have positive : (0 : Int) ≤ 24 * microsPerHour := by decide
  have lower (instant : Instant) : -719468 ≤ instant.micros.fdiv (24 * microsPerHour) := by
    have above := instant.min_le
    rw [Int.fdiv_eq_ediv_of_nonneg _ positive]
    simp only [minMicros, microsPerHour, microsPerSecond] at above ⊢
    omega
  have days := Datetime.civilOfDays_injective (lower left) (lower right) dates
  rw [Int.fdiv_eq_ediv_of_nonneg _ positive, Int.fdiv_eq_ediv_of_nonneg _ positive] at days
  rw [Int.fmod_eq_emod_of_nonneg _ positive, Int.fmod_eq_emod_of_nonneg _ positive] at hours
  simp only [microsPerHour, microsPerSecond] at *
  ext
  omega

theorem partitionPath_injective {key other : PartitionKey}
    (store : FeatureBundling.isPartitionKey key.storeId = true)
    (otherStore : FeatureBundling.isPartitionKey other.storeId = true)
    (onTheHour : key.hour.micros % microsPerHour = 0)
    (otherOnTheHour : other.hour.micros % microsPerHour = 0)
    (same : (partitionPath key).toList = (partitionPath other).toList) : key = other := by
  have noSlash : ∀ {storeId : String}, FeatureBundling.isPartitionKey storeId = true →
      '/' ∉ storeId.toList :=
    fun accepted => Text.not_mem_identifier accepted (by decide) (by decide)
  simp only [partitionPath_toList] at same
  obtain ⟨stores, same⟩ := Text.split_first (noSlash store) (noSlash otherStore)
    (List.append_cancel_left same)
  obtain ⟨years, _, same⟩ := Datetime.padded_before (by decide) (by decide)
    (List.append_cancel_left same)
  obtain ⟨months, _, same⟩ := Datetime.padded_before (by decide) (by decide)
    (List.append_cancel_left same)
  obtain ⟨days, _, same⟩ := Datetime.padded_before (by decide) (by decide)
    (List.append_cancel_left same)
  have hours := congrArg (fun digits => Nat.ofDigitChars 10 digits 0)
    (List.append_cancel_left same)
  simp only [Datetime.ofDigitChars_padded] at hours
  have dates := Prod.ext years (Prod.ext months days)
  have hour := hour_eq onTheHour otherOnTheHour dates hours
  cases key
  cases other
  simp only [PartitionKey.mk.injEq]
  exact ⟨String.toList_inj.mp stores, hour⟩

theorem truncateToHour_onTheHour (t : Datetime) :
    (truncateToHour t).micros % microsPerHour = 0 := by
  simp only [truncateToHour, microsPerHour, microsPerSecond]
  omega

theorem Addressed.onTheHour {call : PutObject ρ} {partitionKey : PartitionKey} {seq : Nat}
    (addressed : Addressed call partitionKey seq) :
    partitionKey.hour.micros % microsPerHour = 0 := by
  obtain ⟨record, member⟩ := List.exists_mem_of_ne_nil _ addressed.nonempty
  rw [← addressed.routed record member]
  cases record <;> exact truncateToHour_onTheHour _

/-- Within the grammar a key tells what is stored under it. -/
theorem Addressed.determined {first second : PutObject ρ} {partitionKey other : PartitionKey}
    {seq otherSeq : Nat} (addressed : Addressed first partitionKey seq)
    (otherAddressed : Addressed second other otherSeq) (grammar : InGrammar partitionKey first.body)
    (otherGrammar : InGrammar other second.body) (same : first.key = second.key) :
    first.body.recordType = second.body.recordType ∧
      first.body.aggregationName = second.body.aggregationName ∧ partitionKey = other ∧
        seq = otherSeq := by
  rw [addressed.key, otherAddressed.key] at same
  obtain ⟨roots, seqs⟩ := objectName_injective same
  have roots := congrArg String.toList roots
  rw [objectRoot_toList, objectRoot_toList] at roots
  obtain ⟨types, rest⟩ := Text.split_first addressed.filed.recordType_plain
    otherAddressed.filed.recordType_plain roots
  have types := String.toList_inj.mp types
  have named := addressed.filed.named_iff
  rw [types, ← otherAddressed.filed.named_iff] at named
  have paths : first.body.aggregationName = second.body.aggregationName ∧
      (partitionPath partitionKey).toList = (partitionPath other).toList := by
    rcases here : first.body.aggregationName with _ | name <;>
      rcases there : second.body.aggregationName with _ | otherName <;>
      rw [here, there] at named rest
    · exact ⟨rfl, rest⟩
    · cases named.mpr rfl
    · cases named.mp rfl
    · obtain ⟨names, path⟩ := Text.split_first (grammar.aggregation name here)
        (otherGrammar.aggregation otherName there) rest
      exact ⟨congrArg some (String.toList_inj.mp names), path⟩
  exact ⟨types, paths.1, partitionPath_injective grammar.store otherGrammar.store
    addressed.onTheHour otherAddressed.onTheHour paths.2, seqs⟩

end Decoding

/-- Whatever is written and whichever puts raise: no two puts use one key; under every root the puts
called have the numbers from zero on, in order; and each key, within the grammar, tells the record
type, the aggregation, the store, the hour and the number it was made from. -/
theorem objectKeys_unique_and_decodable (writer : S3DatasetWriter ρ)
    (results : List (ProcessingResult ρ)) :
    let calls := (writeAll writer results {}).calls
    (calls.map PutObject.key).Nodup ∧
      (∀ root, ∃ count, ((calls.map PutObject.key).filter fun key => rootOf key = root) =
        (List.range count).map (objectName root)) ∧
      (∀ call ∈ calls, ∃ partitionKey seq, Addressed call partitionKey seq) ∧
      ∀ first second : PutObject ρ, ∀ partitionKey other seq otherSeq,
        Addressed first partitionKey seq → Addressed second other otherSeq →
          InGrammar partitionKey first.body → InGrammar other second.body →
            first.key = second.key →
              first.body.recordType = second.body.recordType ∧
                first.body.aggregationName = second.body.aggregationName ∧
                  partitionKey = other ∧ seq = otherSeq := by
  have keyed := writeAll_keyed writer results
  refine ⟨keyed.numbered.nodup, fun root => ⟨_, keyed.numbered root⟩, keyed.addressed, ?_⟩
  intro first second partitionKey other seq otherSeq addressed otherAddressed grammar otherGrammar
  exact addressed.determined otherAddressed grammar otherGrammar

section Samples

open InMemoryDatasetWriter (sampleResult)

/-- The second put raises, and the next write puts both tables again under their next numbers. -/
theorem objectKeys_unique_and_decodable_sample :
    let keys := (writeAll (sampleWriter 1) [sampleResult, sampleResult] {}).calls.map PutObject.key
    keys.Nodup ∧ keys.map rootOf =
        ["emissions/count/store_id=store-1/year=0001/month=01/day=01/hour=00",
          "features/store_id=store-1/year=0001/month=01/day=01/hour=00",
          "emissions/count/store_id=store-1/year=0001/month=01/day=01/hour=00",
          "features/store_id=store-1/year=0001/month=01/day=01/hour=00"] :=
  ⟨(objectKeys_unique_and_decodable (sampleWriter 1) [sampleResult, sampleResult]).1,
    by decide +kernel⟩

end Samples

end S3DatasetWriter

end SignalForge
