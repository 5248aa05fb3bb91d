import Mathlib.Data.Finset.Card
import Mathlib.Tactic.NormNum
import SignalForge.DatetimeTextInjectivity
import SignalForge.OfflineDetector
import SignalForge.SharedProjections

/-! The anomalies of a signal counted over a window: the buckets the window overlaps are read back
one after the other. Quotients are rounded by `round`, which is `Binary64.round` for doubles and
`id` for exact rationals. -/

set_option autoImplicit false

namespace SignalForge.AnomalyRateProjection

def bucketMicros : Int := bucketSeconds * microsPerSecond

/-- `len(json.loads(raw))` of what is kept under a key, where something is. -/
def keptIn (store : ProjectionStore) (key : String) : Except Raised Nat :=
  match store.get view key with
  | none => .ok 0
  | some raw => (JsonArray.loads raw).map List.length

/-- The loop from a bucket on; `none` where its turns run out. -/
def countFrom (store : ProjectionStore) (signalName : String) (asOf : Datetime) :
    Nat → Datetime → Nat → Option (Except Raised Nat)
  | 0, _, _ => none
  | turns + 1, bucket, total =>
      if bucket.micros < asOf.micros then
        match keptIn store (key signalName bucket) with
        | .error reason => some (.error reason)
        | .ok kept =>
            match bucket.add bucketMicros with
            | .error reason => some (.error reason)
            | .ok next => countFrom store signalName asOf turns next (total + kept)
      else some (.ok total)

/-- The bucket a window begins in. -/
def firstBucket (round : ℚ → ℚ) (asOf : Datetime) (windowSeconds : Int) :
    Except Raised Datetime := do
  let window ← timedeltaSeconds windowSeconds
  let start ← asOf.sub window
  bucketStartBy round start

def countInWindow (round : ℚ → ℚ) (store : ProjectionStore) (signalName : String) (asOf : Datetime)
    (windowSeconds : Int) (turns : Nat) : Option (Except Raised Nat) :=
  match firstBucket round asOf windowSeconds with
  | .error reason => some (.error reason)
  | .ok bucket => countFrom store signalName asOf turns bucket 0

/-- The store the detections leave when each is observed in turn. -/
def folded (round : ℚ → ℚ) (formatReal : Double → String) (detections : List DetectionEvent) :
    ProjectionStore :=
  routeDetections [observeBy round formatReal] detections .empty

/-- The signal and the bucket an anomaly counts for; none for another detection, or where the bucket
is no date. -/
def onsetOf (round : ℚ → ℚ) (formatReal : Double → String) (detection : DetectionEvent) :
    Option (String × Datetime) :=
  if detection.payload.detectionType ≠ detectionTypeSignalAnomaly then none
  else match detection.payload.details.get? "signal_name",
      bucketStartBy round detection.payload.detectedAt with
    | some signalName, .ok bucket => some (detailText formatReal signalName, bucket)
    | _, _ => none

/-- Whether a detection is an anomaly of the signal whose bucket starts at `low` or later and before
`high`. -/
def isOnset (round : ℚ → ℚ) (formatReal : Double → String) (signalName : String) (low high : Int)
    (detection : DetectionEvent) : Bool :=
  match onsetOf round formatReal detection with
  | none => false
  | some (signal, bucket) => signal = signalName ∧ low ≤ bucket.micros ∧ bucket.micros < high

def onsetIds (round : ℚ → ℚ) (formatReal : Double → String) (detections : List DetectionEvent)
    (signalName : String) (low high : Int) : Finset Uuid :=
  ((detections.filter (isOnset round formatReal signalName low high)).map
    (·.payload.detectionId)).toFinset

/-- Detections of one id are of one moment and one signal. -/
def IdsAgree (detections : List DetectionEvent) : Prop :=
  ∀ first ∈ detections, ∀ second ∈ detections,
    first.payload.detectionId = second.payload.detectionId →
      first.payload.detectedAt.micros = second.payload.detectedAt.micros ∧
        first.payload.details.get? "signal_name" = second.payload.details.get? "signal_name"

variable {round : ℚ → ℚ} {formatReal : Double → String}

section Buckets

/-- The instant begins a minute of the epoch. -/
def Aligned (instant : Instant) : Prop := ∃ minute : Int, instant.micros = minute * bucketMicros

/-- The last bucket there is a date for. -/
def lastBucket : Int := maxMicros + 1 - bucketMicros

theorem bucketStartBy_ok {moment bucket : Datetime} (returned : bucketStartBy round moment = .ok bucket) :
    ∃ instant, bucket = .utc instant ∧ Aligned instant := by
  rw [bucketStartBy] at returned
  split at returned
  · rename_i instant found
    cases returned
    refine ⟨instant, rfl, ⌊round (round (moment.micros / microsPerSecond) / bucketSeconds)⌋, ?_⟩
    rw [Instant.ofMicros_eq_ok.mp found, bucketMicros, Int.mul_assoc]
  · cases returned

theorem bucketStartBy_congr {moment other : Datetime} (same : moment.micros = other.micros) :
    bucketStartBy round moment = bucketStartBy round other := by
  rw [bucketStartBy, bucketStartBy, same]

theorem firstBucket_ok {asOf bucket : Datetime} {windowSeconds : Int}
    (returned : firstBucket round asOf windowSeconds = .ok bucket) :
    ∃ instant, bucket = .utc instant ∧ Aligned instant := by
  simp only [firstBucket, Except.bind_eq_ok] at returned
  obtain ⟨_, _, _, _, started⟩ := returned
  exact bucketStartBy_ok started

theorem Aligned.le_last {bucket : Instant} (aligned : Aligned bucket) : bucket.micros ≤ lastBucket := by
  obtain ⟨minute, here⟩ := aligned
  have below := bucket.le_max
  simp only [lastBucket, maxMicros, bucketMicros, bucketSeconds, microsPerSecond] at here below ⊢
  omega

/-- Two aligned instants less than a bucket apart are one. -/
theorem Aligned.eq_of_near {first second : Instant} (aligned : Aligned first)
    (otherAligned : Aligned second) (low : first.micros ≤ second.micros)
    (high : second.micros < first.micros + bucketMicros) : second = first := by
  obtain ⟨minute, here⟩ := aligned
  obtain ⟨other, there⟩ := otherAligned
  ext
  simp only [bucketMicros, bucketSeconds, microsPerSecond] at here there high
  omega

theorem Aligned.next {bucket next : Instant} (aligned : Aligned bucket)
    (later : next.micros = bucket.micros + bucketMicros) : Aligned next := by
  obtain ⟨minute, here⟩ := aligned
  exact ⟨minute + 1, by rw [later, here, Int.add_mul, Int.one_mul]⟩

/-- No bucket's text holds the mark before it. -/
theorem bar_not_mem_bucketText (bucket : Instant) :
    '|' ∉ ((Datetime.utc bucket).isoformat "T").toList := by
  have letter : "T" = String.singleton 'T' := rfl
  rw [letter]
  exact Datetime.not_mem_isoformat_utc (show '|'.isDigit = false by decide)
    (show '|' ≠ 'T' by decide) (by decide) bucket

theorem key_toList (signalName : String) (bucket : Instant) :
    (key signalName (.utc bucket)).toList =
      signalName.toList ++ '|' :: ((Datetime.utc bucket).isoformat "T").toList := by
  have mark : "|".toList = ['|'] := rfl
  rw [key, String.toList_append, String.toList_append, mark, List.append_assoc,
    List.singleton_append]

/-- A key tells its signal and its bucket, whatever the signal's name holds. -/
theorem key_injective {signal other : String} {bucket otherBucket : Instant}
    (same : key signal (.utc bucket) = key other (.utc otherBucket)) :
    signal = other ∧ bucket = otherBucket := by
  have letter : "T" = String.singleton 'T' := rfl
  have same := congrArg String.toList same
  rw [key_toList, key_toList] at same
  obtain ⟨signals, buckets⟩ := Text.split_last (bar_not_mem_bucketText bucket)
    (bar_not_mem_bucketText otherBucket) same
  rw [letter] at buckets
  exact ⟨String.toList_inj.mp signals,
    Datetime.isoformat_utc_injective (show 'T'.isDigit = false by decide)
      (String.toList_inj.mp buckets)⟩

end Buckets

section Onsets

variable {detections : List DetectionEvent} {signalName : String}

theorem onsetOf_eq_some {detection : DetectionEvent} {signal : String} {bucket : Datetime} :
    onsetOf round formatReal detection = some (signal, bucket) ↔
      detection.payload.detectionType = detectionTypeSignalAnomaly ∧
        ∃ signalName, detection.payload.details.get? "signal_name" = some signalName ∧
          detailText formatReal signalName = signal ∧
          bucketStartBy round detection.payload.detectedAt = .ok bucket := by
  rw [onsetOf]
  by_cases anomaly : detection.payload.detectionType = detectionTypeSignalAnomaly
  · rw [if_neg (not_not.mpr anomaly)]
    rcases detection.payload.details.get? "signal_name" with _ | name <;>
      rcases bucketStartBy round detection.payload.detectedAt with _ | start <;>
      simp [anomaly]
  · rw [if_pos anomaly]
    simp [anomaly]

/-- An anomaly is kept under the key of its signal and its bucket. -/
theorem entryBy_eq_some {detection : DetectionEvent} {kept : String} {id : Uuid} :
    entryBy round formatReal detection = .ok (some (kept, id)) ↔
      ∃ signal bucket, onsetOf round formatReal detection = some (signal, bucket) ∧
        kept = key signal bucket ∧ id = detection.payload.detectionId := by
  rw [entryBy, onsetOf]
  by_cases anomaly : detection.payload.detectionType = detectionTypeSignalAnomaly
  · simp only [anomaly, ne_eq, not_true_eq_false, ↓reduceIte]
    rcases detection.payload.details.get? "signal_name" with _ | name <;>
      rcases bucketStartBy round detection.payload.detectedAt with _ | start <;>
      simp [eq_comm]
  · simp [anomaly]

theorem onsetOf_aligned {detection : DetectionEvent} {signal : String} {bucket : Datetime}
    (onset : onsetOf round formatReal detection = some (signal, bucket)) :
    ∃ instant, bucket = .utc instant ∧ Aligned instant := by
  obtain ⟨_, _, _, _, started⟩ := onsetOf_eq_some.mp onset
  exact bucketStartBy_ok started

theorem mem_onsetIds {low high : Int} {id : Uuid} :
    id ∈ onsetIds round formatReal detections signalName low high ↔
      ∃ detection ∈ detections, detection.payload.detectionId = id ∧
        ∃ bucket, onsetOf round formatReal detection = some (signalName, bucket) ∧
          low ≤ bucket.micros ∧ bucket.micros < high := by
  simp only [onsetIds, List.mem_toFinset, List.mem_map, List.mem_filter, isOnset]
  constructor
  · rintro ⟨detection, ⟨member, onset⟩, rfl⟩
    rcases found : onsetOf round formatReal detection with _ | ⟨signal, bucket⟩
    · rw [found] at onset
      cases onset
    · rw [found] at onset
      obtain ⟨rfl, low, high⟩ := of_decide_eq_true onset
      exact ⟨detection, member, rfl, bucket, found, low, high⟩
  · rintro ⟨detection, member, rfl, bucket, found, low, high⟩
    refine ⟨detection, ⟨member, ?_⟩, rfl⟩
    rw [found]
    exact decide_eq_true ⟨rfl, low, high⟩

/-- Onsets of one id are in one bucket. -/
theorem IdsAgree.bucket_eq (agree : IdsAgree detections) {first second : DetectionEvent}
    (member : first ∈ detections) (otherMember : second ∈ detections)
    (same : first.payload.detectionId = second.payload.detectionId)
    {signal other : String} {bucket otherBucket : Datetime}
    (onset : onsetOf round formatReal first = some (signal, bucket))
    (otherOnset : onsetOf round formatReal second = some (other, otherBucket)) :
    bucket = otherBucket := by
  obtain ⟨_, _, _, _, started⟩ := onsetOf_eq_some.mp onset
  obtain ⟨_, _, _, _, otherStarted⟩ := onsetOf_eq_some.mp otherOnset
  rw [bucketStartBy_congr (agree first member second otherMember same).1, otherStarted] at started
  exact (Except.ok.inj started).symm

theorem onsetIds_of_le {low high : Int} (reached : high ≤ low) :
    onsetIds round formatReal detections signalName low high = ∅ := by
  apply Finset.eq_empty_of_forall_notMem
  intro id member
  obtain ⟨_, _, _, _, _, above, below⟩ := mem_onsetIds.mp member
  omega

/-- The onsets of a bucket and of those behind it. -/
theorem card_onsetIds (agree : IdsAgree detections) {bucket : Instant} (aligned : Aligned bucket)
    {high : Int} (before : bucket.micros < high) :
    (onsetIds round formatReal detections signalName bucket.micros high).card =
      (onsetIds round formatReal detections signalName bucket.micros
          (bucket.micros + bucketMicros)).card +
        (onsetIds round formatReal detections signalName (bucket.micros + bucketMicros) high).card := by
  have positive : 0 < bucketMicros := by decide
  rw [← Finset.card_union_of_disjoint]
  · congr 1
    ext id
    simp only [Finset.mem_union, mem_onsetIds]
    constructor
    · rintro ⟨detection, member, same, other, onset, low, below⟩
      by_cases near : other.micros < bucket.micros + bucketMicros
      · exact Or.inl ⟨detection, member, same, other, onset, low, near⟩
      · exact Or.inr ⟨detection, member, same, other, onset, Int.not_lt.mp near, below⟩
    · rintro (⟨detection, member, same, other, onset, low, near⟩ |
        ⟨detection, member, same, other, onset, far, below⟩)
      · obtain ⟨instant, rfl, otherAligned⟩ := onsetOf_aligned onset
        rw [Datetime.utc_micros] at low near
        have equal := aligned.eq_of_near otherAligned low near
        refine ⟨detection, member, same, _, onset, ?_, ?_⟩ <;>
          rw [Datetime.utc_micros, equal]
        exact before
      · exact ⟨detection, member, same, other, onset, by omega, below⟩
  · rw [Finset.disjoint_left]
    intro id here there
    obtain ⟨first, member, rfl, bucket, onset, _, near⟩ := mem_onsetIds.mp here
    obtain ⟨second, otherMember, same, other, otherOnset, far, _⟩ := mem_onsetIds.mp there
    have one := agree.bucket_eq member otherMember same.symm onset otherOnset
    rw [one] at near
    omega

end Onsets

section Store

variable {detections : List DetectionEvent}

theorem folded_keeps : KeepsIds view (folded round formatReal detections) :=
  (observeBy_writes round formatReal).kept_fold (keepsIds_empty _) detections

theorem heldIds_folded : heldIds view (folded round formatReal detections) =
    PointWrite.applyAll (heldIds view .empty) (detections.filterMap (writeOf round formatReal)) :=
  (observeBy_writes round formatReal).view_fold (keepsIds_empty _) detections

/-- What is kept under a key is the ids of the anomalies with that key. -/
theorem mem_idsAt_folded {kept : String} {id : Str} :
    id ∈ idsAt view (folded round formatReal detections) kept ↔
      ∃ detection ∈ detections, ∃ detectionId,
        entryBy round formatReal detection = .ok (some (kept, detectionId)) ∧
          detectionId.text = id := by
  have held : heldIds view (folded round formatReal detections) (kept, id) =
      PointWrite.applyAll (heldIds view .empty) (detections.filterMap (writeOf round formatReal))
        (kept, id) := congrFun heldIds_folded (kept, id)
  have values : ∀ write ∈ detections.filterMap (writeOf round formatReal), write.key = (kept, id) →
      write.value = some () := by
    intro write member _
    obtain ⟨_, _, written⟩ := List.mem_filterMap.mp member
    obtain ⟨_, _, _, rfl⟩ := writeOf_eq_some written
    rfl
  constructor
  · intro member
    by_contra nowhere
    have absent : ∀ write ∈ detections.filterMap (writeOf round formatReal),
        write.key ≠ (kept, id) := by
      intro write written same
      obtain ⟨detection, inside, written⟩ := List.mem_filterMap.mp written
      obtain ⟨_, detectionId, entered, rfl⟩ := writeOf_eq_some written
      obtain ⟨rfl, text⟩ := Prod.mk.inj same
      exact nowhere ⟨detection, inside, detectionId, entered, text⟩
    rw [PointWrite.applyAll_of_absent absent, heldIds, if_pos member] at held
    cases held
  · rintro ⟨detection, inside, detectionId, entered, rfl⟩
    have written : writeOf round formatReal detection =
        some ⟨(kept, detectionId.text), some ()⟩ := by rw [writeOf, entered]
    have present : ∃ write ∈ detections.filterMap (writeOf round formatReal),
        write.key = (kept, detectionId.text) :=
      ⟨_, List.mem_filterMap.mpr ⟨detection, inside, written⟩, rfl⟩
    by_contra absent
    rw [PointWrite.applyAll_of_agree present values, heldIds, if_neg absent] at held
    cases held

/-- As many ids are kept under the key of a bucket as the bucket has onsets. -/
theorem keptIn_folded {signalName : String} {bucket : Instant} (aligned : Aligned bucket) :
    keptIn (folded round formatReal detections) (key signalName (.utc bucket)) =
      .ok (onsetIds round formatReal detections signalName bucket.micros
        (bucket.micros + bucketMicros)).card := by
  have keeps : KeepsIds view (folded round formatReal detections) := folded_keeps
  have positive : 0 < bucketMicros := by decide
  have ids : ((idsAt view (folded round formatReal detections)
        (key signalName (.utc bucket))).items).toFinset =
      (onsetIds round formatReal detections signalName bucket.micros
        (bucket.micros + bucketMicros)).image Uuid.text := by
    ext id
    rw [List.mem_toFinset, ← SortedSet.mem_def, mem_idsAt_folded, Finset.mem_image]
    constructor
    · rintro ⟨detection, member, detectionId, entered, rfl⟩
      obtain ⟨signal, other, onset, keys, rfl⟩ := entryBy_eq_some.mp entered
      obtain ⟨instant, rfl, _⟩ := onsetOf_aligned onset
      obtain ⟨rfl, rfl⟩ := key_injective keys
      refine ⟨_, mem_onsetIds.mpr ⟨detection, member, rfl, _, onset, ?_, ?_⟩, rfl⟩ <;>
        rw [Datetime.utc_micros]
      omega
    · rintro ⟨detectionId, counted, rfl⟩
      obtain ⟨detection, member, rfl, other, onset, low, near⟩ := mem_onsetIds.mp counted
      obtain ⟨instant, rfl, otherAligned⟩ := onsetOf_aligned onset
      rw [Datetime.utc_micros] at low near
      have same := aligned.eq_of_near otherAligned low near
      rw [same] at onset
      exact ⟨detection, member, _, entryBy_eq_some.mpr ⟨_, _, onset, rfl, rfl⟩, rfl⟩
  have count := congrArg Finset.card ids
  rw [List.toFinset_card_of_nodup (SortedSet.items_nodup _),
    Finset.card_image_of_injective _ Uuid.text_injective] at count
  rw [keptIn, keeps.get_eq, ← count, stored]
  split
  · rename_i found
    split at found
    · rename_i empty
      rw [empty]
      rfl
    · cases found
  · rename_i raw found
    split at found
    · cases found
    · cases found
      rw [dumpIds, JsonArray.loads_dumps (keeps.plain _)]
      rfl

end Store

section Count

variable {detections : List DetectionEvent}

/-- From any bucket on the loop ends: it has added up the onsets of the buckets before `as_of`, or run
into the end of the calendar where `as_of` is behind the last bucket there is. -/
theorem countFrom_folded (agree : IdsAgree detections) (signalName : String) (asOf : Datetime)
    (turns : Nat) (bucket : Instant) (aligned : Aligned bucket) (total : Nat)
    (enough : min asOf.micros (maxMicros + 1) ≤ bucket.micros + turns * bucketMicros) :
    countFrom (folded round formatReal detections) signalName asOf (turns + 1) (.utc bucket) total =
      some (if asOf.micros ≤ lastBucket then .ok (total +
        (onsetIds round formatReal detections signalName bucket.micros asOf.micros).card)
        else .error .overflowError) := by
  have last := aligned.le_last
  have positive : 0 < bucketMicros := by decide
  induction turns generalizing bucket total with
  | zero =>
      have inside := bucket.le_max
      have reached : asOf.micros ≤ bucket.micros := by omega
      rw [countFrom, Datetime.utc_micros, if_neg (Int.not_lt.mpr reached),
        if_pos (Int.le_trans reached last), onsetIds_of_le reached]
      rfl
  | succ turns ih =>
      rw [countFrom, Datetime.utc_micros]
      by_cases before : bucket.micros < asOf.micros
      · rw [if_pos before, keptIn_folded aligned]
        simp only
        by_cases more : bucket.micros + bucketMicros ≤ maxMicros
        · have lower : minMicros ≤ bucket.micros + bucketMicros := by
            have := bucket.min_le
            omega
          have stepped : (Datetime.utc bucket).add bucketMicros =
              .ok (.utc ⟨bucket.micros + bucketMicros, lower, more⟩) := by
            rw [Datetime.add, dif_pos ⟨lower, more⟩]
            rfl
          have nextAligned : Aligned ⟨bucket.micros + bucketMicros, lower, more⟩ := aligned.next rfl
          have enoughNext : min asOf.micros (maxMicros + 1) ≤
              bucket.micros + bucketMicros + turns * bucketMicros := by
            rw [Int.natCast_succ, Int.add_mul, Int.one_mul] at enough
            omega
          rw [stepped]
          simp only
          rw [ih _ nextAligned _ enoughNext nextAligned.le_last, card_onsetIds agree aligned before,
            Nat.add_assoc]
        · have stopped : (Datetime.utc bucket).add bucketMicros = .error .overflowError := by
            rw [Datetime.add, dif_neg fun range => more range.2]
          rw [stopped]
          simp only
          rw [if_neg]
          simp only [lastBucket] at last ⊢
          omega
      · have reached := Int.not_lt.mp before
        rw [if_neg before, if_pos (Int.le_trans reached last), onsetIds_of_le reached]
        rfl

theorem get_folded_congr {others : List DetectionEvent}
    (same : ∀ detection, detection ∈ others ↔ detection ∈ detections) (kept : String) :
    (folded round formatReal others).get view kept =
      (folded round formatReal detections).get view kept := by
  have keeps : KeepsIds view (folded round formatReal others) := folded_keeps
  have keepsToo : KeepsIds view (folded round formatReal detections) := folded_keeps
  have ids : idsAt view (folded round formatReal others) kept =
      idsAt view (folded round formatReal detections) kept := by
    ext id
    simp only [mem_idsAt_folded, same]
  rw [keeps.get_eq, keepsToo.get_eq, ids]

theorem countFrom_congr {store other : ProjectionStore}
    (same : ∀ kept, store.get view kept = other.get view kept) (signalName : String)
    (asOf : Datetime) (turns : Nat) (bucket : Datetime) (total : Nat) :
    countFrom store signalName asOf turns bucket total =
      countFrom other signalName asOf turns bucket total := by
  induction turns generalizing bucket total with
  | zero => rfl
  | succ turns ih => simp only [countFrom, keptIn, same, ih]

/-- No window overlaps more buckets than the calendar has. -/
def allBuckets : Nat := 5258964960

theorem allBuckets_span : maxMicros + 1 = minMicros + allBuckets * bucketMicros := by decide

/-- The count of a window ends, and it is the number of the ids of the signal's onsets in it, where
the window begins at a date and `as_of` is not behind the last bucket there is; elsewhere it raises.
Order and repetition of the detections do not show in it. -/
theorem countInWindow_onsets (round : ℚ → ℚ) (formatReal : Double → String)
    {detections : List DetectionEvent} (agree : IdsAgree detections) (signalName : String)
    (asOf : Datetime) (windowSeconds : Int) :
    (∃ enough, ∀ turns, enough ≤ turns → ∃ outcome,
      countInWindow round (folded round formatReal detections) signalName asOf windowSeconds turns =
          some outcome ∧
        ∀ count, outcome = .ok count ↔ ∃ first, firstBucket round asOf windowSeconds = .ok first ∧
          asOf.micros ≤ lastBucket ∧ count =
            (onsetIds round formatReal detections signalName first.micros asOf.micros).card) ∧
      ∀ others, (∀ detection, detection ∈ others ↔ detection ∈ detections) → ∀ turns,
        countInWindow round (folded round formatReal others) signalName asOf windowSeconds turns =
          countInWindow round (folded round formatReal detections) signalName asOf windowSeconds
            turns := by
  constructor
  · refine ⟨allBuckets + 1, fun turns enough => ?_⟩
    obtain ⟨turns, rfl⟩ := Nat.exists_eq_add_of_le' (Nat.le_of_add_left_le enough)
    rcases begun : firstBucket round asOf windowSeconds with reason | first
    · refine ⟨.error reason, by rw [countInWindow, begun], fun count => ?_⟩
      simp only [reduceCtorEq, false_and, exists_false]
    · obtain ⟨bucket, rfl, aligned⟩ := firstBucket_ok begun
      have positive : 0 ≤ bucketMicros := by decide
      have within : (allBuckets : Int) * bucketMicros ≤ turns * bucketMicros :=
        Int.mul_le_mul_of_nonneg_right (by omega) positive
      have reached : min asOf.micros (maxMicros + 1) ≤ bucket.micros + turns * bucketMicros := by
        have span := allBuckets_span
        have lower := bucket.min_le
        omega
      refine ⟨_, by rw [countInWindow, begun]; exact
        countFrom_folded agree signalName asOf turns bucket aligned 0 reached, fun count => ?_⟩
      simp only [Except.ok.injEq, exists_eq_left', Datetime.utc_micros, Nat.zero_add]
      by_cases inside : asOf.micros ≤ lastBucket
      · rw [if_pos inside, Except.ok.injEq, and_iff_right inside]
        exact eq_comm
      · rw [if_neg inside]
        simp only [reduceCtorEq, inside, false_and]
  · intro others same turns
    rw [countInWindow, countInWindow]
    rcases firstBucket round asOf windowSeconds with _ | first
    · rfl
    · exact countFrom_congr (get_folded_congr same) signalName asOf turns first 0

end Count

section Exact

/-- With exact quotients a bucket starts at the last whole minute of the epoch. -/
theorem bucketStartBy_exact {moment : Datetime} {bucket : Instant} :
    bucketStartBy id moment = .ok (.utc bucket) ↔
      bucket.micros = moment.micros / bucketMicros * bucketMicros := by
  have quotient : (moment.micros : ℚ) / (microsPerSecond : ℚ) / (bucketSeconds : ℚ) =
      (moment.micros : ℚ) / ((60000000 : Nat) : ℚ) := by
    rw [div_div]
    norm_num [microsPerSecond, bucketSeconds]
  have floored : ⌊(moment.micros : ℚ) / (microsPerSecond : ℚ) / (bucketSeconds : ℚ)⌋ =
      moment.micros / bucketMicros := by
    rw [quotient, Rat.floor_intCast_div_natCast]
    rfl
  rw [bucketStartBy]
  simp only [id_eq, floored, Int.mul_assoc]
  rw [show bucketSeconds * microsPerSecond = bucketMicros from rfl]
  split
  · rename_i instant found
    rw [← Instant.ofMicros_eq_ok, found]
    simp only [Except.ok.injEq, Datetime.utc, Datetime.mk.injEq, and_true]
    exact Instant.ext_iff.symm
  · rename_i reason found
    simp only [reduceCtorEq, ← Instant.ofMicros_eq_ok, found]

/-- With exact quotients a window begins at a date exactly when `as_of - window_seconds` is one, by
its own clock and in UTC. -/
theorem firstBucket_exact (asOf : Datetime) (windowSeconds : Int) :
    (∃ first, firstBucket id asOf windowSeconds = .ok first) ↔
      (minMicros ≤ asOf.wall - windowSeconds * microsPerSecond ∧
        asOf.wall - windowSeconds * microsPerSecond ≤ maxMicros) ∧
      minMicros ≤ asOf.micros - windowSeconds * microsPerSecond ∧
        asOf.micros - windowSeconds * microsPerSecond ≤ maxMicros := by
  have lower := asOf.min_le_wall
  have upper := asOf.wall_le_max
  simp only [firstBucket, Except.bind_eq_ok]
  constructor
  · rintro ⟨first, window, given, start, started, begun⟩
    obtain ⟨bucket, rfl, _⟩ := bucketStartBy_ok begun
    have floor := bucketStartBy_exact.mp begun
    have least := bucket.min_le
    have most := bucket.le_max
    rw [timedeltaSeconds] at given
    split at given
    · cases given
      rw [Datetime.sub] at started
      split at started
      · rename_i range
        cases started
        refine ⟨range, ?_⟩
        simp only [Datetime.micros, bucketMicros, bucketSeconds, minMicros, maxMicros,
          microsPerSecond] at *
        omega
      · cases started
    · cases given
  · rintro ⟨range, least, most⟩
    have days : timedeltaSeconds windowSeconds = .ok (windowSeconds * microsPerSecond) := by
      rw [timedeltaSeconds, if_pos]
      rw [Int.fdiv_eq_ediv_of_nonneg _ (by decide)]
      simp only [minMicros, maxMicros, microsPerSecond] at *
      omega
    have started : asOf.sub (windowSeconds * microsPerSecond) =
        .ok ⟨asOf.wall - windowSeconds * microsPerSecond, asOf.offset, range.1, range.2⟩ := by
      rw [Datetime.sub, dif_pos range]
    have floors : minMicros ≤
          (asOf.micros - windowSeconds * microsPerSecond) / bucketMicros * bucketMicros ∧
        (asOf.micros - windowSeconds * microsPerSecond) / bucketMicros * bucketMicros ≤
          maxMicros := by
      simp only [minMicros, maxMicros, microsPerSecond, bucketMicros, bucketSeconds] at *
      omega
    refine ⟨.utc ⟨_, floors.1, floors.2⟩, _, days, _, started, bucketStartBy_exact.mpr ?_⟩
    simp only [Datetime.micros]
    rw [sub_right_comm]

end Exact

section Samples

open SharedProjection (sampleAnomaly)

/-- Two anomalies of one signal in the first minute of the epoch, one of them delivered twice. -/
theorem countInWindow_onsets_sample :
    let detections := [sampleAnomaly false, sampleAnomaly true, sampleAnomaly false]
    let asOf := Datetime.utc ⟨bucketMicros, by decide, by decide⟩
    (∃ enough, ∀ turns, enough ≤ turns → ∃ outcome,
      countInWindow id (folded id (fun _ => "") detections) "latency_ms" asOf 60 turns =
          some outcome ∧
        ∀ count, outcome = .ok count ↔ ∃ first, firstBucket id asOf 60 = .ok first ∧
          asOf.micros ≤ lastBucket ∧ count =
            (onsetIds id (fun _ => "") detections "latency_ms" first.micros asOf.micros).card) ∧
      ∀ others, (∀ detection, detection ∈ others ↔ detection ∈ detections) → ∀ turns,
        countInWindow id (folded id (fun _ => "") others) "latency_ms" asOf 60 turns =
          countInWindow id (folded id (fun _ => "") detections) "latency_ms" asOf 60 turns := by
  intro detections asOf
  have agree : IdsAgree detections := by
    unfold IdsAgree
    decide +kernel
  exact countInWindow_onsets id (fun _ => "") agree "latency_ms" asOf 60

/-- The last minute of the calendar is counted and then left for the next, which has no date. -/
theorem last_minute_overflows :
    ∃ asOf : Datetime, firstBucket id asOf 60 = .ok (.utc ⟨lastBucket - bucketMicros, by decide,
        by decide⟩) ∧
      countInWindow id (folded id (fun _ => "") []) "latency_ms" asOf 60 3 =
        some (.error .overflowError) :=
  ⟨⟨lastBucket + 30 * microsPerSecond, 0, by decide, by decide⟩, by decide +kernel,
    by decide +kernel⟩

end Samples

end SignalForge.AnomalyRateProjection
