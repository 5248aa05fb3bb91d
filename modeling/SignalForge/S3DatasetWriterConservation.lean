import SignalForge.DatasetWriterConservation
import SignalForge.DatetimeTextInjectivity
import SignalForge.RealtimePipeline
import SignalForge.S3DatasetWriter

/-! Where the records absorbed by the S3 writer are, in the objects uploaded and in the buffers,
when puts may raise. -/

set_option autoImplicit false

namespace SignalForge

variable {ρ : Type}

/-- What a dataset holds. -/
inductive Record (ρ : Type) where
  | detection (detection : DetectionEvent)
  | emission (emission : WindowEmission ρ)
  | feature (feature : WindowedFeatureVectorEvent ρ)

namespace Record

def partitionKey : Record ρ → PartitionKey
  | .detection record => partitionKeyFromDetection record
  | .emission record => partitionKeyFromEmission record
  | .feature record => partitionKeyFromFeature record

/-- The records of the three kinds. -/
def ofLists (detections : List DetectionEvent) (emissions : List (WindowEmission ρ))
    (features : List (WindowedFeatureVectorEvent ρ)) : List (Record ρ) :=
  detections.map .detection ++ emissions.map .emission ++ features.map .feature

end Record

def recordsFor (key : PartitionKey) (records : List (Record ρ)) : List (Record ρ) :=
  records.filter fun record => record.partitionKey = key

theorem recordsFor_append (key : PartitionKey) (first second : List (Record ρ)) :
    recordsFor key (first ++ second) = recordsFor key first ++ recordsFor key second :=
  List.filter_append ..

def TableRows.records : TableRows ρ → List (Record ρ)
  | .detections rows => rows.map .detection
  | .emissions rows => rows.map .emission
  | .features rows => rows.map .feature

def PartitionBuffer.records (buffer : PartitionBuffer ρ) : List (Record ρ) :=
  Record.ofLists buffer.detections buffer.emissions buffer.features

def ProcessingResult.records (result : ProcessingResult ρ) : List (Record ρ) :=
  Record.ofLists result.detections result.emissions result.features

def FlushedPartition.records (flushed : FlushedPartition ρ) : List (Record ρ) :=
  Record.ofLists flushed.detections flushed.emissions flushed.features

/-- The records of some tables. -/
def tableRecords (tables : List (SerialisedTable ρ)) : List (Record ρ) :=
  tables.flatMap fun table => table.rows.records

theorem tableRecords_append (first second : List (SerialisedTable ρ)) :
    tableRecords (first ++ second) = tableRecords first ++ tableRecords second :=
  List.flatMap_append

namespace Serialisation

variable {encoding : TableEncoding ρ}

theorem sortedBy_perm {α : Type} (order : α → α → Ordering) (items : List α) :
    (sortedBy order items).Perm items :=
  List.perm_insertionSort ..

theorem writeTable_ok {recordType : String} {aggregationName : Option String} {rows : TableRows ρ}
    {rowCount : Nat} {table : SerialisedTable ρ}
    (written : writeTable encoding recordType aggregationName rows rowCount = .ok table) :
    table.recordType = recordType ∧ table.aggregationName = aggregationName ∧ table.rows = rows := by
  obtain ⟨data, _, last⟩ := Except.bind_eq_ok.mp written
  cases last
  exact ⟨rfl, rfl, rfl⟩

/-- The tables of one kind of record: no table is empty, and together they hold the records. -/
structure Tabulates (tables : List (SerialisedTable ρ)) (records : List (Record ρ)) : Prop where
  nonempty : ∀ table ∈ tables, table.rows.records ≠ []
  holds : (tableRecords tables).Perm records

theorem Tabulates.append {first second : List (SerialisedTable ρ)} {left right : List (Record ρ)}
    (here : Tabulates first left) (there : Tabulates second right) :
    Tabulates (first ++ second) (left ++ right) where
  nonempty := List.forall_mem_append.mpr ⟨here.nonempty, there.nonempty⟩
  holds := by
    rw [tableRecords_append]
    exact here.holds.append there.holds

theorem tabulates_nil : Tabulates ([] : List (SerialisedTable ρ)) [] where
  nonempty _ member := by cases member
  holds := List.Perm.refl _

/-- One table of rows that are sorted, and are not none. -/
theorem tabulates_singleton {table : SerialisedTable ρ} {records : List (Record ρ)}
    (some : records ≠ []) (holds : table.rows.records.Perm records) : Tabulates [table] records where
  nonempty other member := by
    rw [List.mem_singleton.mp member]
    intro empty
    rw [empty] at holds
    exact some holds.nil_eq.symm
  holds := by rwa [tableRecords, List.flatMap_singleton]

theorem serialiseRows_ok {α : Type} {recordType : String} {order : α → α → Ordering}
    {tableRows : List α → TableRows ρ} {record : α → Record ρ}
    (recorded : ∀ rows, (tableRows rows).records = rows.map record) {items : List α}
    {tables : List (SerialisedTable ρ)}
    (serialised : serialiseRows encoding recordType order tableRows items = .ok tables) :
    Tabulates tables (items.map record) := by
  cases items with
  | nil =>
      cases serialised
      exact tabulates_nil
  | cons first rest =>
      obtain ⟨table, written, last⟩ := Except.bind_eq_ok.mp serialised
      cases last
      apply tabulates_singleton (List.cons_ne_nil _ _)
      rw [(writeTable_ok written).2.2, recorded]
      exact (sortedBy_perm _ _).map _

theorem aggregationGroups_get? (emissions : List (WindowEmission ρ)) (aggregationName : String) :
    ((aggregationGroups emissions).get? aggregationName).getD [] =
      emissions.filter fun emission => emission.aggregationName = aggregationName :=
  OrderedDict.getD_foldl_append WindowEmission.aggregationName emissions .empty aggregationName

theorem mem_aggregationGroups {emissions : List (WindowEmission ρ)} {aggregationName : String} :
    aggregationName ∈ (aggregationGroups emissions).keys ↔
      ∃ emission ∈ emissions, emission.aggregationName = aggregationName := by
  rw [aggregationGroups, OrderedDict.mem_keys_foldl_modify WindowEmission.aggregationName []
    (fun group record => group ++ [record])]
  constructor
  · rintro (inEmpty | found)
    · cases inEmpty
    · exact found
  · exact Or.inr

/-- The tables of some aggregations hold the emissions of each. -/
theorem serialiseAggregations_ok {emissions : List (WindowEmission ρ)} {names : List String}
    {tables : List (SerialisedTable ρ)}
    (known : ∀ name ∈ names, ∃ emission ∈ emissions, emission.aggregationName = name)
    (serialised : names.mapM (serialiseAggregation encoding emissions) = .ok tables) :
    Tabulates tables ((names.flatMap fun name =>
      emissions.filter fun emission => emission.aggregationName = name).map .emission) := by
  induction names generalizing tables with
  | nil =>
      cases serialised
      exact tabulates_nil
  | cons name rest ih =>
      rw [List.mapM_cons] at serialised
      obtain ⟨table, written, serialised⟩ := Except.bind_eq_ok.mp serialised
      obtain ⟨later, others, last⟩ := Except.bind_eq_ok.mp serialised
      cases last
      have remaining := ih (fun other member => known other (List.mem_cons_of_mem _ member)) others
      rw [List.flatMap_cons, List.map_append]
      obtain ⟨emission, listed, named⟩ := known name List.mem_cons_self
      refine Tabulates.append (tabulates_singleton ?_ ?_) remaining
      · apply List.ne_nil_of_mem (a := Record.emission emission)
        exact List.mem_map_of_mem (List.mem_filter.mpr ⟨listed, by simpa using named⟩)
      · rw [(writeTable_ok written).2.2, aggregationGroups_get?]
        exact (sortedBy_perm _ _).map _

theorem serialiseEmissions_ok {emissions : List (WindowEmission ρ)}
    {tables : List (SerialisedTable ρ)}
    (serialised : serialiseEmissions encoding emissions = .ok tables) :
    Tabulates tables (emissions.map .emission) := by
  have names := sortedBy_perm compare (aggregationGroups emissions).keys
  have tabulated := serialiseAggregations_ok
    (fun name member => mem_aggregationGroups.mp (names.mem_iff.mp member)) serialised
  refine ⟨tabulated.nonempty, tabulated.holds.trans (List.Perm.map _ ?_)⟩
  apply OrderedDict.perm_flatMap_filter WindowEmission.aggregationName
    (names.nodup_iff.mpr (aggregationGroups emissions).keys_nodup)
  intro emission member
  exact names.mem_iff.mpr (mem_aggregationGroups.mpr ⟨emission, member, rfl⟩)

/-- The tables of a partition hold its records, and each of them holds one. -/
theorem serialisePartition_ok {flushed : FlushedPartition ρ} {tables : List (SerialisedTable ρ)}
    (serialised : serialisePartition encoding flushed = .ok tables) :
    Tabulates tables flushed.records := by
  obtain ⟨detections, fromDetections, serialised⟩ := Except.bind_eq_ok.mp serialised
  obtain ⟨emissions, fromEmissions, serialised⟩ := Except.bind_eq_ok.mp serialised
  obtain ⟨features, fromFeatures, last⟩ := Except.bind_eq_ok.mp serialised
  cases last
  have ofDetections : Tabulates detections (flushed.detections.map .detection) :=
    serialiseRows_ok (fun _ => rfl) fromDetections
  have ofFeatures : Tabulates features (flushed.features.map .feature) :=
    serialiseRows_ok (fun _ => rfl) fromFeatures
  have inOrder := (ofDetections.append (serialiseEmissions_ok fromEmissions)).append ofFeatures
  have sorted := sortedBy_perm tableOrder (detections ++ emissions ++ features)
  exact ⟨fun table member => inOrder.nonempty table (sorted.mem_iff.mp member),
    (sorted.flatMap_right _).trans inOrder.holds⟩

end Serialisation

namespace S3DatasetWriter

theorem objectName_injective {left right : String} {leftSeq rightSeq : Nat}
    (same : objectName left leftSeq = objectName right rightSeq) :
    left = right ∧ leftSeq = rightSeq := by
  have backwards := congrArg (fun name => (String.toList name).reverse) same
  have slash : "/".toList.reverse = ['/'] := rfl
  simp only [objectName, String.toList_append, List.reverse_append, slash] at backwards
  have inside := List.append_cancel_left backwards
  have digits : ∀ {seq : Nat}, ∀ c ∈ (Datetime.padded 8 seq).toList.reverse, c.isDigit = true :=
    fun _ member => Datetime.isDigit_padded (List.mem_reverse.mp member)
  obtain ⟨sameDigits, _, sameRoot⟩ := Datetime.digits_before digits digits
    (by decide : '/'.isDigit = false) (by decide : '/'.isDigit = false) inside
  constructor
  · exact String.ext (List.reverse_injective sameRoot)
  · rw [← Datetime.ofDigitChars_padded 8 leftSeq, List.reverse_injective sameDigits,
      Datetime.ofDigitChars_padded]

/-- The records in the objects uploaded. -/
def uploaded (state : State ρ) : List (Record ρ) := tableRecords state.objects.values

/-- Every object has a name whose sequence number has been taken. -/
def Named (state : State ρ) : Prop :=
  ∀ key ∈ state.objects.keys, ∃ root seq, key = objectName root seq ∧
    seq < (state.seq.get? root).getD 0

/-- The next name of the root. -/
def nextName (root : String) (state : State ρ) : String :=
  objectName root ((state.seq.get? root).getD 0)

/-- A put has been called under the next name of the root. -/
def attempted (writer : S3DatasetWriter ρ) (root : String) (table : SerialisedTable ρ)
    (state : State ρ) : State ρ :=
  { state with
    seq := state.seq.set root ((state.seq.get? root).getD 0 + 1)
    puts := state.puts + 1
    calls := state.calls ++ [⟨writer.bucket, nextName root state, table⟩] }

/-- The put has returned. -/
def stored (writer : S3DatasetWriter ρ) (root : String) (table : SerialisedTable ρ)
    (state : State ρ) : State ρ :=
  { attempted writer root table state with
    objects := state.objects.set (nextName root state) table }

variable {writer : S3DatasetWriter ρ}

theorem uploadTables_cons (partitionKey : PartitionKey) (table : SerialisedTable ρ)
    (rest : List (SerialisedTable ρ)) (state : State ρ) :
    uploadTables writer partitionKey (table :: rest) state =
      match writer.raises state.puts with
      | some reason => (.error reason, attempted writer (objectRoot partitionKey table) table state)
      | none => uploadTables writer partitionKey rest
          (stored writer (objectRoot partitionKey table) table state) := by
  rw [uploadTables, objectKey]
  simp only [Call.bind_apply, Call.read_apply, Call.write_apply, Call.pure_apply, putObject]
  cases writer.raises state.puts <;> rfl

theorem Named.attempted {state : State ρ} (named : Named state) (root : String)
    (table : SerialisedTable ρ) : Named (attempted writer root table state) := by
  intro key member
  obtain ⟨other, seq, rfl, taken⟩ := named key member
  refine ⟨other, seq, rfl, ?_⟩
  simp only [S3DatasetWriter.attempted, OrderedDict.get?_set]
  split
  · rename_i same
    rw [same] at taken
    exact Nat.lt_succ_of_lt taken
  · exact taken

theorem Named.fresh {state : State ρ} (named : Named state) (root : String) :
    nextName root state ∉ state.objects.keys := by
  intro member
  obtain ⟨other, seq, same, taken⟩ := named _ member
  obtain ⟨rfl, rfl⟩ := objectName_injective same
  exact Nat.lt_irrefl _ taken

theorem Named.stored {state : State ρ} (named : Named state) (root : String)
    (table : SerialisedTable ρ) : Named (stored writer root table state) := by
  intro key member
  rcases (OrderedDict.mem_keys_set ..).mp member with rfl | before
  · refine ⟨root, _, rfl, ?_⟩
    simp only [S3DatasetWriter.stored, S3DatasetWriter.attempted, OrderedDict.get?_set_self,
      Option.getD_some]
    exact Nat.lt_succ_self _
  · have called : Named (S3DatasetWriter.attempted writer root table state) :=
      named.attempted root table
    exact called key before

theorem Named.uploaded_stored {state : State ρ} (named : Named state) (root : String)
    (table : SerialisedTable ρ) :
    uploaded (S3DatasetWriter.stored writer root table state) =
      uploaded state ++ table.rows.records := by
  rw [uploaded, S3DatasetWriter.stored, OrderedDict.values_set_of_fresh _ (named.fresh root),
    tableRecords_append]
  exact congrArg _ (List.flatMap_singleton ..)

/-- What uploading tables comes to: those before the first put that raises are uploaded. -/
structure Uploads (writer : S3DatasetWriter ρ) (state : State ρ) (tables : List (SerialisedTable ρ))
    (outcome : Except Raised Unit) (after : State ρ) (done left : List (SerialisedTable ρ)) :
    Prop where
  split : tables = done ++ left
  named : Named after
  buffers : after.buffers = state.buffers
  uploaded : uploaded after = uploaded state ++ tableRecords done
  puts : ∀ earlier < done.length, writer.raises (state.puts + earlier) = none
  stops : outcome = .ok () ∧ left = [] ∨
    (∃ reason, outcome = .error reason) ∧ left ≠ [] ∧
      (writer.raises (state.puts + done.length)).isSome

theorem uploadTables_spec (writer : S3DatasetWriter ρ) (partitionKey : PartitionKey)
    (tables : List (SerialisedTable ρ)) {state : State ρ} (named : Named state) :
    ∃ done left, Uploads writer state tables (uploadTables writer partitionKey tables state).1
      (uploadTables writer partitionKey tables state).2 done left := by
  induction tables generalizing state with
  | nil =>
      exact ⟨[], [], rfl, named, rfl, (List.append_nil _).symm, fun _ none => absurd none (by simp),
        Or.inl ⟨rfl, rfl⟩⟩
  | cons table rest ih =>
      rw [uploadTables_cons]
      cases raised : writer.raises state.puts with
      | some reason =>
          refine ⟨[], table :: rest, rfl, named.attempted _ _, rfl, (List.append_nil _).symm,
            fun _ none => absurd none (by simp), Or.inr ⟨⟨reason, rfl⟩, List.cons_ne_nil _ _, ?_⟩⟩
          rw [List.length_nil, Nat.add_zero, raised]
          rfl
      | none =>
          obtain ⟨done, left, uploads⟩ := ih (named.stored (objectRoot partitionKey table) table)
          have shifted : ∀ count, state.puts + (count + 1) =
              (stored writer (objectRoot partitionKey table) table state).puts + count := by
            intro count
            simp only [stored, attempted]
            omega
          refine ⟨table :: done, left, congrArg _ uploads.split, uploads.named, uploads.buffers, ?_,
            ?_, ?_⟩
          · rw [uploads.uploaded, named.uploaded_stored, List.append_assoc]
            rfl
          · intro earlier before
            cases earlier with
            | zero => exact raised
            | succ earlier =>
                rw [shifted]
                exact uploads.puts earlier (Nat.lt_of_succ_lt_succ before)
          · rw [List.length_cons, shifted]
            exact uploads.stops

/-- A put of the next so many raises, and the puts before it do not and are some. -/
def FailsMidway (writer : S3DatasetWriter ρ) (puts count : Nat) : Prop :=
  ∃ later, 0 < later ∧ later < count ∧ (writer.raises (puts + later)).isSome ∧
    ∀ earlier < later, writer.raises (puts + earlier) = none

/-- Uploads stop midway where a put raises midway. -/
theorem Uploads.failsMidway_iff {state after : State ρ} {tables done left : List (SerialisedTable ρ)}
    {outcome : Except Raised Unit} (uploads : Uploads writer state tables outcome after done left) :
    FailsMidway writer state.puts tables.length ↔ done ≠ [] ∧ left ≠ [] := by
  have total : tables.length = done.length + left.length := by
    rw [uploads.split, List.length_append]
  constructor
  · rintro ⟨later, some, inside, raises, before⟩
    rcases uploads.stops with ⟨_, none⟩ | ⟨_, remain, stops⟩
    · rw [none, List.length_nil] at total
      rw [uploads.puts later (by omega)] at raises
      cases raises
    · refine ⟨?_, remain⟩
      rintro rfl
      have returned := before 0 some
      rw [List.length_nil, returned] at stops
      cases stops
  · rintro ⟨some, remain⟩
    rcases uploads.stops with ⟨_, none⟩ | ⟨_, _, stops⟩
    · exact absurd none remain
    · have leftSome := List.length_pos_iff.mpr remain
      exact ⟨done.length, List.length_pos_iff.mpr some, by omega, stops, uploads.puts⟩

/-- Each of the records is in one place: an object uploaded, or the buffer of its partition. -/
def Placed (records : List (Record ρ)) (state : State ρ) : Prop :=
  ∀ key, (recordsFor key (uploaded state) ++ (state.buffers.bufferFor key).records).Perm
    (recordsFor key records)

/-- What holds wherever puts raise. -/
structure Sound (state : State ρ) : Prop where
  named : Named state
  routed : ∀ key, ∀ record ∈ (state.buffers.bufferFor key).records, record.partitionKey = key

/-- A put of the partition's flush raises after another of it has returned. -/
def FlushFailsMidway (writer : S3DatasetWriter ρ) (state : State ρ) (key : PartitionKey) : Prop :=
  ∃ tables, Serialisation.serialisePartition writer.encoding (state.buffers.contents key) =
      .ok tables ∧
    FailsMidway writer state.puts tables.length

theorem recordsFor_of_forall {key : PartitionKey} {records : List (Record ρ)}
    (here : ∀ record ∈ records, record.partitionKey = key) (other : PartitionKey) :
    recordsFor other records = if other = key then records else [] := by
  rw [recordsFor]
  split
  · rename_i same
    exact List.filter_eq_self.mpr fun record member => by simpa using (here record member).trans same.symm
  · rename_i apart
    refine List.filter_eq_nil_iff.mpr fun record member same => apart ?_
    rw [← here record member]
    exact (of_decide_eq_true same).symm

section Flush

variable {state : State ρ} {key : PartitionKey} {tables : List (SerialisedTable ρ)}

/-- Every record of the partition's tables is one of the partition's. -/
theorem Sound.taken (sound : Sound state)
    (serialised : Serialisation.serialisePartition writer.encoding (state.buffers.contents key) =
      .ok tables) :
    ∀ record ∈ tableRecords tables, record.partitionKey = key := by
  intro record member
  exact sound.routed key record ((Serialisation.serialisePartition_ok serialised).holds.mem_iff.mp
    member)

/-- All tables are uploaded, and the buffer is cleared. -/
theorem Placed.flushed (sound : Sound state)
    (serialised : Serialisation.serialisePartition writer.encoding (state.buffers.contents key) =
      .ok tables)
    {records : List (Record ρ)} (placed : Placed records state) {after : State ρ}
    (uploads : uploaded after = uploaded state ++ tableRecords tables)
    (cleared : after.buffers = (state.buffers.flushPartition key).1) : Placed records after := by
  intro other
  rw [uploads, cleared, recordsFor_append, recordsFor_of_forall (sound.taken serialised),
    PartitionBuffers.bufferFor_flushPartition]
  refine List.Perm.trans ?_ (placed other)
  split
  · rename_i same
    subst same
    have holds := (Serialisation.serialisePartition_ok serialised).holds
    rw [List.append_assoc]
    refine List.Perm.append_left _ ?_
    rw [show (({} : PartitionBuffer ρ)).records = [] from rfl, List.append_nil]
    exact holds
  · rw [List.append_nil]

/-- Some tables are uploaded, and the buffer stays as it is. -/
theorem Placed.kept_iff (sound : Sound state)
    (serialised : Serialisation.serialisePartition writer.encoding (state.buffers.contents key) =
      .ok tables)
    {records : List (Record ρ)} (placed : Placed records state) {after : State ρ}
    {done left : List (SerialisedTable ρ)} (split : tables = done ++ left)
    (uploads : uploaded after = uploaded state ++ tableRecords done)
    (kept : after.buffers = state.buffers) : Placed records after ↔ done = [] := by
  constructor
  · intro stillPlaced
    have taken : ∀ record ∈ tableRecords done, record.partitionKey = key := by
      intro record member
      apply sound.taken serialised
      rw [split, tableRecords_append]
      exact List.mem_append_left _ member
    have before := (placed key).length_eq
    have now := (stillPlaced key).length_eq
    rw [uploads, kept, recordsFor_append, recordsFor_of_forall taken, if_pos rfl] at now
    simp only [List.length_append] at before now
    have none : tableRecords done = [] := List.eq_nil_iff_length_eq_zero.mpr (by omega)
    rw [List.eq_nil_iff_forall_not_mem]
    intro table member
    apply (Serialisation.serialisePartition_ok serialised).nonempty table
      (split ▸ List.mem_append_left _ member)
    exact List.flatMap_eq_nil_iff.mp none table member
  · rintro rfl
    intro other
    rw [uploads, kept]
    have none : tableRecords ([] : List (SerialisedTable ρ)) = [] := rfl
    rw [none, List.append_nil]
    exact placed other

theorem flushPartition_of_error {reason : Raised}
    (failed : Serialisation.serialisePartition writer.encoding (state.buffers.contents key) =
      .error reason) : flushPartition writer key state = (.error reason, state) := by
  have read : flushPartition writer key state =
      (uploadFlush writer (state.buffers.contents key) >>= fun _ => Call.write fun state =>
        { state with buffers := (state.buffers.flushPartition key).1 }) state := rfl
  rw [read, uploadFlush, failed]
  rfl

/-- The buffer is cleared where the uploads return. -/
theorem flushPartition_of_uploads {outcome : Except Raised Unit} {middle : State ρ}
    (serialised : Serialisation.serialisePartition writer.encoding (state.buffers.contents key) =
      .ok tables) (called : uploadTables writer key tables state = (outcome, middle)) :
    flushPartition writer key state = (outcome, match outcome with
      | .error _ => middle
      | .ok _ => { middle with buffers := (middle.buffers.flushPartition key).1 }) := by
  have lifted : uploadFlush writer (state.buffers.contents key) state = (outcome, middle) := by
    rw [uploadFlush, serialised]
    exact called
  cases outcome with
  | error reason => exact Call.bind_of_error lifted _
  | ok _ => exact Call.bind_of_ok lifted _

/-- A flush that cannot be serialised changes nothing; one that can uploads tables until a put
raises, and clears the buffer where none does. -/
theorem flushPartition_cases (writer : S3DatasetWriter ρ) (named : Named state)
    (key : PartitionKey) :
    (∃ reason, Serialisation.serialisePartition writer.encoding (state.buffers.contents key) =
        .error reason ∧ flushPartition writer key state = (.error reason, state)) ∨
      ∃ tables done left middle outcome,
        Serialisation.serialisePartition writer.encoding (state.buffers.contents key) =
          .ok tables ∧
        Uploads writer state tables outcome middle done left ∧
        (left = [] ∧ flushPartition writer key state =
            (.ok (), { middle with buffers := (state.buffers.flushPartition key).1 }) ∨
          left ≠ [] ∧ ∃ reason, flushPartition writer key state = (.error reason, middle)) := by
  cases serialised : Serialisation.serialisePartition writer.encoding (state.buffers.contents key) with
  | error reason => exact Or.inl ⟨reason, rfl, flushPartition_of_error serialised⟩
  | ok tables =>
      right
      obtain ⟨done, left, uploads⟩ := uploadTables_spec writer key tables named
      rcases called : uploadTables writer key tables state with ⟨outcome, middle⟩
      rw [called] at uploads
      have flushed := flushPartition_of_uploads serialised called
      refine ⟨tables, done, left, middle, outcome, rfl, uploads, ?_⟩
      rcases uploads.stops with ⟨rfl, none⟩ | ⟨⟨reason, rfl⟩, remain, _⟩
      · have kept : middle.buffers = state.buffers := uploads.buffers
        rw [← kept]
        exact Or.inl ⟨none, flushed⟩
      · exact Or.inr ⟨remain, reason, flushed⟩

theorem Sound.cleared (sound : Sound state) {after : State ρ} (named : Named after)
    (cleared : after.buffers = (state.buffers.flushPartition key).1) : Sound after where
  named := named
  routed other record member := by
    rw [cleared, PartitionBuffers.bufferFor_flushPartition] at member
    split at member
    · cases member
    · exact sound.routed other record member

/-- A flush leaves every record in one place exactly when it does not fail midway. -/
theorem flushPartition_spec (writer : S3DatasetWriter ρ) (sound : Sound state)
    (key : PartitionKey) :
    Sound (flushPartition writer key state).2 ∧
      ((flushPartition writer key state).1 = .ok () → ¬ FlushFailsMidway writer state key) ∧
      ∀ records, Placed records state →
        (Placed records (flushPartition writer key state).2 ↔
          ¬ FlushFailsMidway writer state key) := by
  rcases flushPartition_cases writer sound.named key with ⟨reason, failed, same⟩ |
    ⟨tables, done, left, middle, outcome, serialised, uploads, flushed⟩
  · have whole : ¬ FlushFailsMidway writer state key := by
      rintro ⟨tables, others, _⟩
      rw [failed] at others
      cases others
    rw [same]
    exact ⟨sound, fun _ => whole, fun records placed => ⟨fun _ => whole, fun _ => placed⟩⟩
  · have midway : FlushFailsMidway writer state key ↔ done ≠ [] ∧ left ≠ [] := by
      rw [← uploads.failsMidway_iff, FlushFailsMidway, serialised]
      simp only [Except.ok.injEq, exists_eq_left']
    rcases flushed with ⟨none, returned⟩ | ⟨remain, reason, raised⟩
    · have whole : ¬ FlushFailsMidway writer state key := fun fails => (midway.mp fails).2 none
      have all : done = tables := by rw [uploads.split, none, List.append_nil]
      rw [returned]
      refine ⟨sound.cleared uploads.named rfl, fun _ => whole, fun records placed => ?_⟩
      exact ⟨fun _ => whole, fun _ => placed.flushed sound serialised (all ▸ uploads.uploaded) rfl⟩
    · rw [raised]
      refine ⟨⟨uploads.named, uploads.buffers ▸ sound.routed⟩, ?_, ?_⟩
      · intro ok
        cases ok
      intro records placed
      rw [placed.kept_iff sound serialised uploads.split uploads.uploaded uploads.buffers, midway]
      simp only [remain, ne_eq, not_false_eq_true, and_true, not_not]

end Flush

/-- No flush of these partitions fails midway, in the state it finds. -/
def FlushesWhole (writer : S3DatasetWriter ρ) (keys : List PartitionKey) (state : State ρ) : Prop :=
  ∀ done key rest between, keys = done ++ key :: rest →
    flushPartitions writer done state = (.ok (), between) → ¬ FlushFailsMidway writer between key

theorem flushesWhole_cons {key : PartitionKey} {rest : List PartitionKey} {state : State ρ} :
    FlushesWhole writer (key :: rest) state ↔ ¬ FlushFailsMidway writer state key ∧
      ∀ after, flushPartition writer key state = (.ok (), after) →
        FlushesWhole writer rest after := by
  constructor
  · intro whole
    refine ⟨whole [] key rest state rfl rfl, ?_⟩
    intro after flushed done other later between split reached
    exact whole (key :: done) other later between (congrArg _ split)
      ((Call.bind_of_ok flushed _).trans reached)
  · rintro ⟨first, others⟩ done other later between split reached
    cases done with
    | nil =>
        obtain ⟨rfl, rfl⟩ := List.cons.inj split
        cases reached
        exact first
    | cons head done =>
        obtain ⟨rfl, rfl⟩ := List.cons.inj split
        obtain ⟨_, after, flushed, reached⟩ := Call.bind_eq_ok.mp reached
        exact others after flushed done other later between rfl reached

theorem flushPartitions_spec (writer : S3DatasetWriter ρ) (keys : List PartitionKey)
    {state : State ρ} (sound : Sound state) :
    Sound (flushPartitions writer keys state).2 ∧
      ∀ records, Placed records state →
        (Placed records (flushPartitions writer keys state).2 ↔
          FlushesWhole writer keys state) := by
  induction keys generalizing state with
  | nil =>
      refine ⟨sound, fun records placed => ⟨fun _ done key rest _ split => ?_, fun _ => placed⟩⟩
      exact absurd split (by simp)
  | cons key rest ih =>
      obtain ⟨stillSound, whole, places⟩ := flushPartition_spec writer sound key
      rcases flushed : flushPartition writer key state with ⟨reason | ⟨⟩, after⟩
      · rw [flushed] at stillSound places
        rw [flushPartitions, Call.bind_of_error flushed, flushesWhole_cons]
        refine ⟨stillSound, fun records placed => ?_⟩
        rw [places records placed, flushed]
        exact ⟨fun first => ⟨first, fun _ ok => by cases ok⟩, And.left⟩
      · rw [flushed] at stillSound whole places
        have first := whole rfl
        obtain ⟨finallySound, later⟩ := ih stillSound
        rw [flushPartitions, Call.bind_of_ok flushed, flushesWhole_cons]
        refine ⟨finallySound, fun records placed => ?_⟩
        rw [later records ((places records placed).mpr first), flushed]
        constructor
        · rintro others
          refine ⟨first, fun _ same => ?_⟩
          cases same
          exact others
        · exact fun both => both.2 after rfl

section Absorb

theorem perm_append_comm_middle {α : Type} (first second third fourth : List α) :
    (first ++ second ++ (third ++ fourth)).Perm (first ++ third ++ (second ++ fourth)) := by
  rw [List.append_assoc, List.append_assoc]
  refine List.Perm.append_left _ ?_
  rw [← List.append_assoc, ← List.append_assoc]
  exact List.perm_append_comm.append_right _

theorem recordsFor_result (result : ProcessingResult ρ) (key : PartitionKey) :
    recordsFor key result.records = Record.ofLists (detectionsFor key result.detections)
      (emissionsFor key result.emissions) (featuresFor key result.features) := by
  simp only [recordsFor, ProcessingResult.records, Record.ofLists, List.filter_append,
    List.filter_map]
  rfl

/-- A result's records join the buffers of their own partitions. -/
theorem records_bufferResult (buffers : PartitionBuffers ρ) (result : ProcessingResult ρ)
    (key : PartitionKey) :
    ((buffers.bufferResult result).bufferFor key).records.Perm
      ((buffers.bufferFor key).records ++ recordsFor key result.records) := by
  rw [PartitionBuffers.bufferFor_bufferResult, recordsFor_result]
  simp only [PartitionBuffer.records, Record.ofLists, List.map_append]
  refine ((perm_append_comm_middle _ _ _ _).append_right _).trans ?_
  exact perm_append_comm_middle _ _ _ _

/-- The result's records, buffered. -/
def buffered (result : ProcessingResult ρ) (state : State ρ) : State ρ :=
  { state with buffers := state.buffers.bufferResult result }

theorem Sound.buffered {state : State ρ} (sound : Sound state) (result : ProcessingResult ρ) :
    Sound (buffered result state) where
  named := sound.named
  routed key record member := by
    have member := (records_bufferResult state.buffers result key).mem_iff.mp member
    rcases List.mem_append.mp member with before | brought
    · exact sound.routed key record before
    · exact of_decide_eq_true (List.mem_filter.mp brought).2

theorem Placed.buffered {records : List (Record ρ)} {state : State ρ}
    (placed : Placed records state) (result : ProcessingResult ρ) :
    Placed (records ++ result.records) (buffered result state) := by
  intro key
  rw [recordsFor_append]
  refine ((records_bufferResult state.buffers result key).append_left _).trans ?_
  rw [← List.append_assoc]
  exact (placed key).append_right _

/-- No flush of the write fails midway. -/
def WritesWhole (writer : S3DatasetWriter ρ) (state : State ρ) (result : ProcessingResult ρ) :
    Prop :=
  FlushesWhole writer (PartitionBuffers.partitionsToFlush result).keys (buffered result state)

theorem absorb_spec (writer : S3DatasetWriter ρ) (result : ProcessingResult ρ) {state : State ρ}
    (sound : Sound state) :
    Sound (absorb writer result state).2 ∧
      ∀ records, Placed records state →
        (Placed (records ++ result.records) (absorb writer result state).2 ↔
          WritesWhole writer state result) := by
  have flushed := flushPartitions_spec writer (PartitionBuffers.partitionsToFlush result).keys
    (sound.buffered result)
  exact ⟨flushed.1, fun records placed => flushed.2 _ (placed.buffered result)⟩

end Absorb

section Run

/-- The records of some results. -/
def absorbed (results : List (ProcessingResult ρ)) : List (Record ρ) :=
  results.flatMap ProcessingResult.records

theorem sound_start : Sound ({} : State ρ) where
  named key member := by cases member
  routed key record member := by cases member

theorem placed_start : Placed [] ({} : State ρ) := fun _ => List.Perm.refl _

theorem writeAll_concat (writer : S3DatasetWriter ρ) (results : List (ProcessingResult ρ))
    (result : ProcessingResult ρ) (state : State ρ) :
    writeAll writer (results ++ [result]) state =
      (write writer result (writeAll writer results state)).2 :=
  List.foldl_concat ..

theorem absorbed_concat (results : List (ProcessingResult ρ)) (result : ProcessingResult ρ) :
    absorbed (results ++ [result]) = absorbed results ++ result.records := by
  rw [absorbed, List.flatMap_append, List.flatMap_singleton, absorbed]

theorem write_of_bucket {bucket : String} (configured : writer.bucket = some bucket) :
    write writer = absorb writer := by
  funext result
  rw [write, configured]

theorem sound_writeAll {bucket : String} (configured : writer.bucket = some bucket)
    (results : List (ProcessingResult ρ)) : Sound (writeAll writer results {}) := by
  induction results using List.reverseRecOn with
  | nil => exact sound_start
  | append_singleton results result ih =>
      rw [writeAll_concat, write_of_bucket configured]
      exact (absorb_spec writer result ih).1

/-- What the pipeline makes of a raising write: it goes on from the state the write left. -/
theorem writeResult_apply {π : Type}
    {pipeline : RealtimePipeline (State ρ) π ρ} (lenient : pipeline.strict = false)
    (registered : pipeline.datasetWriter = some (write writer)) (result : ProcessingResult ρ)
    (state : State ρ) :
    RealtimePipeline.writeResult pipeline result state = (.ok (), (write writer result state).2) := by
  rw [RealtimePipeline.writeResult, registered, lenient]
  simp only [Call.guarded, Call.catching]
  rcases write writer result state with ⟨_ | ⟨⟩, after⟩ <;> rfl

/-- After every write each record absorbed is in one place, an uploaded object or the buffer of its
partition, exactly when no flush fails at a put after another put of it has returned. -/
theorem placed_iff_writesWhole {bucket : String} (configured : writer.bucket = some bucket)
    (results : List (ProcessingResult ρ)) :
    (∀ before after, results = before ++ after →
        Placed (absorbed before) (writeAll writer before {})) ↔
      ∀ before result after, results = before ++ result :: after →
        WritesWhole writer (writeAll writer before {}) result := by
  have step : ∀ (before : List (ProcessingResult ρ)) (result : ProcessingResult ρ),
      Placed (absorbed before) (writeAll writer before {}) →
        (Placed (absorbed (before ++ [result])) (writeAll writer (before ++ [result]) {}) ↔
          WritesWhole writer (writeAll writer before {}) result) := by
    intro before result placed
    rw [absorbed_concat, writeAll_concat, write_of_bucket configured]
    exact (absorb_spec writer result (sound_writeAll configured before)).2 _ placed
  constructor
  · intro places before result after split
    refine (step before result (places before (result :: after) split)).mp ?_
    exact places (before ++ [result]) after (by rw [split, List.append_assoc]; rfl)
  · intro whole before
    induction before using List.reverseRecOn with
    | nil => exact fun _ _ => placed_start
    | append_singleton before result ih =>
        intro after split
        rw [List.append_assoc, List.singleton_append] at split
        exact (step before result (ih (result :: after) split)).mpr
          (whole before result after split)

end Run

section Samples

open InMemoryDatasetWriter (sampleResult)

/-- A writer whose put of this number raises, counted from none. -/
def sampleWriter (failing : Nat) : S3DatasetWriter Nat where
  bucket := some "datasets"
  encoding := ⟨fun _ => .ok [], fun _ => ""⟩
  raises puts := if puts = failing then some (.exception "ClientError") else none

theorem placed_iff_writesWhole_sample :
    (∀ before after, [sampleResult, sampleResult] = before ++ after →
        Placed (absorbed before) (writeAll (sampleWriter 0) before {})) ↔
      ∀ before result after, [sampleResult, sampleResult] = before ++ result :: after →
        WritesWhole (sampleWriter 0) (writeAll (sampleWriter 0) before {}) result :=
  placed_iff_writesWhole rfl [sampleResult, sampleResult]

/-- The first put uploads the emission, the second raises, and the emission stays buffered; the next
write uploads it again. -/
theorem failed_flush_uploads_twice :
    ¬ Placed (absorbed [sampleResult]) (writeAll (sampleWriter 1) [sampleResult] {}) ∧
      (absorbed [sampleResult, sampleResult]).length <
        (uploaded (writeAll (sampleWriter 1) [sampleResult, sampleResult] {})).length := by
  refine ⟨fun placed => ?_, by decide +kernel⟩
  have lengths := (placed ⟨"store-1", .baseline⟩).length_eq
  exact absurd lengths (by decide +kernel)

end Samples

end S3DatasetWriter

end SignalForge
