import SignalForge.DatasetWriter

/-! Which hour a record is partitioned under, whatever offset its timestamp carries. -/

set_option autoImplicit false

namespace SignalForge

/-- A record of one of the three kinds the dataset layer partitions. -/
inductive DatasetRecord (ρ : Type) where
  | emission (emission : WindowEmission ρ)
  | detection (detection : DetectionEvent)
  | feature (feature : WindowedFeatureVectorEvent ρ)

namespace DatasetRecord

variable {ρ : Type}

def partitionKey : DatasetRecord ρ → PartitionKey
  | .emission record => partitionKeyFromEmission record
  | .detection record => partitionKeyFromDetection record
  | .feature record => partitionKeyFromFeature record

/-- The timestamp the hour is taken from. -/
def timestamp : DatasetRecord ρ → Datetime
  | .emission record => record.windowStart
  | .detection record => record.eventTimestamp
  | .feature record => record.payload.windowStart

def storeId : DatasetRecord ρ → String
  | .emission record => record.partitionKey
  | .detection record => record.payload.storeId
  | .feature record => record.payload.partitionKey

theorem partitionKey_eq (record : DatasetRecord ρ) :
    record.partitionKey = ⟨record.storeId, truncateToHour record.timestamp⟩ := by
  cases record <;> rfl

end DatasetRecord

/-- A UTC hour and an instant in it. -/
structure WithinHour (hour : Instant) (t : Datetime) : Prop where
  exact : hour.micros % microsPerHour = 0
  begun : hour.micros ≤ t.micros
  notOver : t.micros < hour.micros + microsPerHour

/-- Taking the offset off the wall clock leaves it in the hour it shows. -/
def StaysInHour (t : Datetime) : Prop :=
  t.offset ≤ t.wall % microsPerHour ∧ t.wall % microsPerHour - t.offset < microsPerHour

theorem truncateToHour_exact (t : Datetime) : (truncateToHour t).micros % microsPerHour = 0 := by
  simp only [truncateToHour, microsPerHour, microsPerSecond]
  omega

theorem withinHour_iff (t : Datetime) : WithinHour (truncateToHour t) t ↔ StaysInHour t := by
  have micros : (truncateToHour t).micros = t.wall - t.wall % microsPerHour := rfl
  constructor
  · rintro ⟨_, begun, notOver⟩
    rw [micros, Datetime.micros] at begun notOver
    exact ⟨by omega, by omega⟩
  · rintro ⟨begun, notOver⟩
    refine ⟨truncateToHour_exact t, ?_, ?_⟩
    · rw [micros, Datetime.micros]
      omega
    · rw [micros, Datetime.micros]
      omega

/-- An instant lies in one hour. -/
theorem WithinHour.unique {hour other : Instant} {t u : Datetime} (here : WithinHour hour t)
    (there : WithinHour other u) (same : t.micros = u.micros) : hour = other := by
  have exact := here.exact
  have begun := here.begun
  have notOver := here.notOver
  have otherExact := there.exact
  have otherBegun := there.begun
  have otherNotOver := there.notOver
  apply Instant.ext
  simp only [microsPerHour, microsPerSecond] at *
  omega

/-- A UTC timestamp stays in its hour, as the schema has the window bounds of every feature. -/
theorem staysInHour_of_utc {t : Datetime} (utc : t.offset = 0) : StaysInHour t := by
  simp only [StaysInHour, utc, microsPerHour, microsPerSecond]
  omega

section

variable {ρ : Type}

/-- Every record lies in the UTC hour of its key, and records of a store at one instant have one
key. -/
def KeyedByUtcHour (records : List (DatasetRecord ρ)) : Prop :=
  (∀ record ∈ records, WithinHour record.partitionKey.hour record.timestamp) ∧
    ∀ first ∈ records, ∀ second ∈ records, first.storeId = second.storeId →
      first.timestamp.micros = second.timestamp.micros → first.partitionKey = second.partitionKey

/-- Records are keyed by their UTC hours exactly where each stays, without its offset, in the hour
its wall clock shows. -/
theorem keyedByUtcHour_iff (records : List (DatasetRecord ρ)) :
    KeyedByUtcHour records ↔ ∀ record ∈ records, StaysInHour record.timestamp := by
  have hours : ∀ record : DatasetRecord ρ,
      WithinHour record.partitionKey.hour record.timestamp ↔ StaysInHour record.timestamp := by
    intro record
    rw [record.partitionKey_eq]
    exact withinHour_iff record.timestamp
  constructor
  · exact fun keyed record member => (hours record).mp (keyed.1 record member)
  · intro stay
    refine ⟨fun record member => (hours record).mpr (stay record member), ?_⟩
    intro first firstMember second secondMember sameStore sameInstant
    have hour := ((hours first).mpr (stay first firstMember)).unique
      ((hours second).mpr (stay second secondMember)) sameInstant
    rw [first.partitionKey_eq, second.partitionKey_eq] at *
    rw [sameStore, PartitionKey.mk.injEq]
    exact ⟨rfl, hour⟩

end

section Sample

/-- A detection at 02:30 on a clock two hours ahead of UTC. -/
def aheadDetection : DetectionEvent where
  eventId := 0#128
  eventTimestamp := { Datetime.utc (.second 9000) with offset := 2 * microsPerHour }
  traceId := none
  payload := {
    detectionId := 0#128
    detectionType := "device.offline"
    severity := .warning
    detectedAt := .utc .epoch
    storeId := "store-1"
    deviceId := none
    sourceEventId := 0#128
    thresholdBreached := "no events for 400s (threshold 300s)"
    details := .empty }

/-- It happened at 00:30 UTC and is filed under 02:00. -/
theorem aheadDetection_misfiled :
    ¬ KeyedByUtcHour [(DatasetRecord.detection aheadDetection : DatasetRecord Unit)] := by
  intro keyed
  have within := keyed.1 _ (List.mem_singleton_self _)
  exact absurd within.begun (by decide +kernel)

end Sample

end SignalForge
