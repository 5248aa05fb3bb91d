import SignalForge.DynamoDbProjectionStore

/-! The keys of the anomaly buckets, read back for the expiry of their items. -/

set_option autoImplicit false

namespace SignalForge

namespace TtlResolver

@[simp] theorem truncate_intCast (whole : Int) : truncate whole = whole := by
  simp [truncate]

/-- The resolver reads off a key the bucket that was written into it, whatever the signal's name. -/
theorem makeTtlResolver_key {policies : OrderedDict String Int} {view : String} {retention : Int}
    (policy : policies.get? view = some retention) (signalName : String) (bucket : Instant) :
    makeTtlResolver policies view (AnomalyRateProjection.key signalName (.utc bucket)) =
      .ok (some (truncate (Binary64.round (bucket.micros / microsPerSecond)) + retention)) := by
  have utc : (Datetime.utc bucket).micros = bucket.micros := Datetime.utc_micros bucket
  simp only [makeTtlResolver, policy, AnomalyRateProjection.rpartition_key,
    AnomalyRateProjection.fromisoformat_bucketText]
  rw [← utc]
  rfl

end TtlResolver

namespace AnomalyRateProjection

/-- A bucket's timestamp is a whole number of seconds, and the double nearest to it is that. -/
theorem Aligned.timestamp {bucket : Instant} (aligned : Aligned bucket) :
    ∃ seconds : Int, bucket.micros = seconds * microsPerSecond ∧
      Binary64.round (bucket.micros / microsPerSecond) = seconds := by
  obtain ⟨minute, here⟩ := aligned
  have lower := bucket.min_le
  have upper := bucket.le_max
  have inSeconds : bucket.micros = minute * bucketSeconds * microsPerSecond := by
    rw [here, bucketMicros, Int.mul_assoc]
  refine ⟨minute * bucketSeconds, inSeconds, ?_⟩
  have small : |minute * bucketSeconds| < 2 ^ 53 := by
    rw [abs_lt]
    simp only [inSeconds, minMicros, maxMicros, microsPerSecond] at lower upper
    omega
  have exact : (bucket.micros : ℚ) / microsPerSecond = (minute * bucketSeconds : Int) := by
    have nonzero : (microsPerSecond : ℚ) ≠ 0 := by decide
    rw [div_eq_iff nonzero, inSeconds, Int.cast_mul]
  rw [exact, Binary64.round_intCast small]

/-- Keys of buckets tell their signals and buckets apart, and a resolver with a policy for the view
answers with the seconds of the bucket and the retention. -/
theorem bucketKeys_resolve (signalName : String) {moment bucket : Datetime}
    (started : bucketStart moment = .ok bucket) :
    (∀ other otherMoment otherBucket, bucketStart otherMoment = .ok otherBucket →
      (key signalName bucket = key other otherBucket ↔
        signalName = other ∧ bucket = otherBucket)) ∧
      ∃ seconds : Int, bucket.micros = seconds * microsPerSecond ∧
        ∀ policies view retention, policies.get? view = some retention →
          TtlResolver.makeTtlResolver policies view (key signalName bucket) =
            .ok (some (seconds + retention)) := by
  obtain ⟨instant, rfl, aligned⟩ := bucketStartBy_ok started
  constructor
  · intro other otherMoment otherBucket otherStarted
    obtain ⟨otherInstant, rfl, _⟩ := bucketStartBy_ok otherStarted
    constructor
    · intro same
      obtain ⟨signals, buckets⟩ := key_injective same
      exact ⟨signals, congrArg Datetime.utc buckets⟩
    · rintro ⟨rfl, same⟩
      rw [same]
  · obtain ⟨seconds, inSeconds, timestamp⟩ := aligned.timestamp
    refine ⟨seconds, (Datetime.utc_micros instant).trans inSeconds, ?_⟩
    intro policies view retention policy
    rw [TtlResolver.makeTtlResolver_key policy, timestamp, TtlResolver.truncate_intCast]

/-- A bucket before the epoch, of a signal whose name holds the separator. -/
theorem bucketKeys_resolve_sample :
    ∃ seconds : Int, (-120 * microsPerSecond) = seconds * microsPerSecond ∧
      TtlResolver.makeTtlResolver (OrderedDict.empty.set view 86400) view
          (key "latency|ms" (.utc ⟨-120 * microsPerSecond, by decide, by decide⟩)) =
        .ok (some (seconds + 86400)) := by
  have started : bucketStart (.utc ⟨-90 * microsPerSecond, by decide, by decide⟩) =
      .ok (.utc ⟨-120 * microsPerSecond, by decide, by decide⟩) := by decide +kernel
  obtain ⟨seconds, inSeconds, resolves⟩ := (bucketKeys_resolve "latency|ms" started).2
  exact ⟨seconds, (Datetime.utc_micros _).symm.trans inSeconds,
    resolves _ view 86400 (OrderedDict.get?_set_self ..)⟩

end AnomalyRateProjection

end SignalForge
