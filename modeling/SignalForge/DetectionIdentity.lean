import SignalForge.DatetimeTextInjectivity
import SignalForge.OutageRepairs

/-! When the detections of a run carry distinct ids. An id is derived from the window and from what
is reported about it, so it tells these and no more. -/

set_option autoImplicit false

namespace SignalForge

namespace EmissionDetector

variable {ω : Type}

variable {ε κ : Type} {observe : ε → Call Raised (Running ω) (List DetectionEvent)}
  {reports : Running ω → ε → κ → Prop} {idOf : κ → ε → Uuid}

def detectionIds (observe : ε → Call Raised (Running ω) (List DetectionEvent)) (emissions : List ε)
    (running : Running ω) : List Uuid :=
  (observeAll observe emissions running).1.map fun detection => detection.payload.detectionId

/-- A call returns a detection where there is something to report, under the id of what it reports
about the emission. -/
structure ReportsOnce (observe : ε → Call Raised (Running ω) (List DetectionEvent))
    (reports : Running ω → ε → κ → Prop) (idOf : κ → ε → Uuid) : Prop where
  reported : ∀ running emission kind, reports running emission kind →
    (Call.answered (observe emission) running).map (fun detection => detection.payload.detectionId) =
      [idOf kind emission]
  quiet : ∀ running emission, (∀ kind, ¬ reports running emission kind) →
    Call.answered (observe emission) running = []

/-- No two emissions that are the same for the purpose are reported as the same kind. -/
def NoneTwice (observe : ε → Call Raised (Running ω) (List DetectionEvent))
    (reports : Running ω → ε → κ → Prop) (same : ε → ε → Prop) (emissions : List ε)
    (running : Running ω) : Prop :=
  ∀ front first middle second back, emissions = front ++ first :: (middle ++ second :: back) →
    same first second → ∀ kind, reports (observeAll observe front running).2 first kind →
      ¬ reports (observeAll observe (front ++ first :: middle) running).2 second kind

theorem noneTwice_cons {same : ε → ε → Prop} {emission : ε} {rest : List ε} {running : Running ω} :
    NoneTwice observe reports same (emission :: rest) running ↔
      (∀ middle second back, rest = middle ++ second :: back → same emission second →
        ∀ kind, reports running emission kind →
          ¬ reports (observeAll observe middle (observe emission running).2).2 second kind) ∧
      NoneTwice observe reports same rest (observe emission running).2 := by
  constructor
  · intro once
    refine ⟨fun middle second back split => once [] emission middle second back (by rw [split]; rfl),
      fun front first middle second back split => ?_⟩
    exact once (emission :: front) first middle second back (by rw [split]; rfl)
  · rintro ⟨here, later⟩ front first middle second back split
    cases front with
    | nil =>
        obtain ⟨rfl, rest⟩ := List.cons.inj split
        exact here middle second back rest
    | cons other front =>
        obtain ⟨rfl, rest⟩ := List.cons.inj split
        exact later front first middle second back rest

theorem detectionIds_cons (emission : ε) (rest : List ε) (running : Running ω) :
    detectionIds observe (emission :: rest) running =
      (Call.answered (observe emission) running).map (fun detection => detection.payload.detectionId) ++
        detectionIds observe rest (observe emission running).2 := by
  rw [detectionIds, observeAll, List.map_append, detectionIds]

theorem mem_detectionIds (once : ReportsOnce observe reports idOf) {emissions : List ε}
    {running : Running ω} {id : Uuid} :
    id ∈ detectionIds observe emissions running ↔
      ∃ front emission back kind, emissions = front ++ emission :: back ∧
        reports (observeAll observe front running).2 emission kind ∧ id = idOf kind emission := by
  induction emissions generalizing running with
  | nil =>
      constructor
      · intro member
        cases member
      · rintro ⟨front, emission, back, _, split, _⟩
        exact absurd split.symm (List.append_ne_nil_of_right_ne_nil _ (List.cons_ne_nil _ _))
  | cons emission rest ih =>
      rw [detectionIds_cons, List.mem_append, ih]
      constructor
      · rintro (here | ⟨front, other, back, kind, split, reported, same⟩)
        · by_cases reporting : ∃ kind, reports running emission kind
          · obtain ⟨kind, reported⟩ := reporting
            rw [once.reported running emission kind reported] at here
            exact ⟨[], emission, rest, kind, rfl, reported, List.mem_singleton.mp here⟩
          · rw [once.quiet running emission (not_exists.mp reporting)] at here
            cases here
        · exact ⟨emission :: front, other, back, kind, by rw [split]; rfl, reported, same⟩
      · rintro ⟨front, other, back, kind, split, reported, same⟩
        cases front with
        | nil =>
            obtain ⟨rfl, _⟩ := List.cons.inj split
            left
            rw [once.reported running emission kind reported, same]
            exact List.mem_singleton_self _
        | cons first front =>
            obtain ⟨rfl, rest⟩ := List.cons.inj split
            exact Or.inr ⟨front, other, back, kind, rest, reported, same⟩

/-- Where an id tells the kind and the emission, ids are distinct exactly when nothing is reported
twice. -/
theorem detectionIds_nodup_iff (once : ReportsOnce observe reports idOf) {same : ε → ε → Prop}
    {emissions : List ε} (running : Running ω)
    (identify : ∀ first ∈ emissions, ∀ second ∈ emissions, ∀ kind other,
      idOf kind first = idOf other second ↔ kind = other ∧ same first second) :
    (detectionIds observe emissions running).Nodup ↔
      NoneTwice observe reports same emissions running := by
  induction emissions generalizing running with
  | nil =>
      refine iff_of_true List.nodup_nil fun front first middle second back split => ?_
      exact absurd split.symm (List.append_ne_nil_of_right_ne_nil _ (List.cons_ne_nil _ _))
  | cons emission rest ih =>
      have tail := ih (observe emission running).2 fun first member second other =>
        identify first (List.mem_cons_of_mem _ member) second (List.mem_cons_of_mem _ other)
      rw [noneTwice_cons, detectionIds_cons, List.nodup_append, tail]
      have known {middle : List ε} {second : ε} {back : List ε}
          (split : rest = middle ++ second :: back) : second ∈ emission :: rest := by
        rw [split]
        exact List.mem_cons_of_mem _ (List.mem_append_right _ List.mem_cons_self)
      by_cases reporting : ∃ kind, reports running emission kind
      · obtain ⟨kind, reported⟩ := reporting
        rw [once.reported running emission kind reported]
        constructor
        · rintro ⟨_, later, apart⟩
          refine ⟨fun middle second back split same other reportsOther again => ?_, later⟩
          have single := once.reported running emission kind reported
          rw [once.reported running emission other reportsOther] at single
          have listed := (mem_detectionIds once).mpr
            ⟨middle, second, back, other, split, again, rfl⟩
          refine apart _ (List.mem_singleton_self _) _ listed ?_
          rw [← (List.cons.inj single).1]
          exact (identify emission List.mem_cons_self second (known split) other other).mpr
            ⟨rfl, same⟩
        · rintro ⟨here, later⟩
          refine ⟨List.nodup_singleton _, later, fun id single other listed equal => ?_⟩
          obtain ⟨middle, second, back, again, split, reportsAgain, rfl⟩ :=
            (mem_detectionIds once).mp listed
          rw [List.mem_singleton.mp single] at equal
          obtain ⟨rfl, same⟩ := (identify emission List.mem_cons_self second (known split) kind
            again).mp equal
          exact here middle second back split same kind reported reportsAgain
      · rw [once.quiet running emission (not_exists.mp reporting), List.map_nil]
        constructor
        · rintro ⟨_, later, _⟩
          exact ⟨fun _ _ _ _ _ kind reported => absurd ⟨kind, reported⟩ reporting, later⟩
        · rintro ⟨_, later⟩
          exact ⟨List.nodup_nil, later, fun _ member => by cases member⟩

end EmissionDetector

namespace Identity

/-- The text an id is derived from. -/
def nameOf (role : String) (parts : List Str) : Str := List.intercalate ['|'] (role.toList :: parts)

/-- No two of these names are derived to one id. -/
def CollisionFree (sha1 : List UInt8 → BitVec 160) (names : List Str) : Prop :=
  ∀ left ∈ names, ∀ right ∈ names, Uuid.uuid5 sha1 (rootNamespace sha1) left =
    Uuid.uuid5 sha1 (rootNamespace sha1) right → left = right

instance (sha1 : List UInt8 → BitVec 160) (names : List Str) : Decidable (CollisionFree sha1 names) :=
  inferInstanceAs (Decidable (∀ left ∈ names, ∀ right ∈ names, _ → _))

theorem CollisionFree.derive_eq_iff {sha1 : List UInt8 → BitVec 160} {names : List Str}
    (collisionFree : CollisionFree sha1 names) {role other : String} {parts otherParts : List Str}
    (listed : nameOf role parts ∈ names) (otherListed : nameOf other otherParts ∈ names) :
    derive sha1 role parts = derive sha1 other otherParts ↔
      nameOf role parts = nameOf other otherParts := by
  constructor
  · exact collisionFree _ listed _ otherListed
  · intro same
    rw [nameOf, nameOf] at same
    rw [derive, derive, same]

theorem bar_not_mem_str (instant : Instant) : '|' ∉ (Datetime.str (.utc instant)).toList :=
  Datetime.not_mem_isoformat_utc (show '|'.isDigit = false by decide)
    (show '|' ≠ ' ' by decide) (by decide) instant

end Identity

/-- The two emissions are of one window. -/
def SameWindow {ρ : Type} (first second : WindowEmission ρ) : Prop :=
  first.partitionKey = second.partitionKey ∧ first.windowStart = second.windowStart ∧
    first.windowEnd = second.windowEnd

open EmissionDetector (Running Buildable Traced ReportsOnce NoneTwice detectionIds)
open WindowAggregator (InUtc)

/-- The text that ends in the bounds of a window tells them. -/
theorem bounds_tell {ρ : Type} {first second : WindowEmission ρ} {left right : Str}
    (utc : InUtc first) (otherUtc : InUtc second) :
    left ++ '|' :: (first.windowStart.str.toList ++ '|' :: first.windowEnd.str.toList) =
        right ++ '|' :: (second.windowStart.str.toList ++ '|' :: second.windowEnd.str.toList) ↔
      left = right ∧ first.windowStart = second.windowStart ∧
        first.windowEnd = second.windowEnd := by
  obtain ⟨start, finish, starts, ends⟩ := utc
  obtain ⟨otherStart, otherFinish, otherStarts, otherEnds⟩ := otherUtc
  constructor
  · intro same
    rw [starts, ends, otherStarts, otherEnds, ← List.cons_append, ← List.append_assoc,
      ← List.cons_append, ← List.append_assoc] at same
    obtain ⟨same, finishes⟩ := Text.split_last (Identity.bar_not_mem_str _)
      (Identity.bar_not_mem_str _) same
    obtain ⟨same, begins⟩ := Text.split_last (Identity.bar_not_mem_str _)
      (Identity.bar_not_mem_str _) same
    rw [starts, ends, otherStarts, otherEnds,
      Datetime.str_utc_injective (String.toList_inj.mp begins),
      Datetime.str_utc_injective (String.toList_inj.mp finishes)]
    exact ⟨same, rfl, rfl⟩
  · rintro ⟨same, begins, finishes⟩
    rw [same, begins, finishes]

namespace OutageDetector

variable {ω : Type} {detector : OutageDetector ω} {rules : DetectionRules ω}

def role (entered : Bool) : String :=
  if entered then "detection.store_outage" else "detection.store_recovered"

/-- The id of the detection that a store entered outage, or left it. -/
def identity (sha1 : List UInt8 → BitVec 160) (entered : Bool) (emission : WindowEmission Nat) :
    Uuid :=
  Identity.derive sha1 (role entered) (coordinates emission)

/-- The names the ids of a run are derived from. -/
def names (emissions : List (WindowEmission Nat)) : List Str :=
  emissions.flatMap fun emission =>
    [Identity.nameOf (role true) (coordinates emission),
      Identity.nameOf (role false) (coordinates emission)]

/-- The emission takes its store into outage, or out of it, and the detection is built. -/
def Reports (detector : OutageDetector ω) (rules : DetectionRules ω) (running : Running ω)
    (emission : WindowEmission Nat) (entered : Bool) : Prop :=
  ∃ registered, Switches detector running emission registered ∧
    detector.verdict registered emission = entered ∧ Traced rules emission ∧
    Buildable rules (detector.looked running emission) emission

theorem reportsOnce (detector : OutageDetector ω) (rules : DetectionRules ω) :
    ReportsOnce (detector.observeEmission rules) (Reports detector rules) (identity rules.sha1) where
  reported running emission entered reports := by
    obtain ⟨registered, switches, verdict, traced, buildable⟩ := reports
    obtain ⟨after, returned, _⟩ := detector.observe_switching rules switches
    obtain ⟨detection, later, built⟩ := (build_returns _).mpr ⟨traced, buildable⟩
    have payload := (Detections.makeDetection_ok built).1
    rw [built] at returned
    simp only [Call.answered, returned, Except.map, List.map_cons, List.map_nil, payload,
      switchPayload, verdict]
    cases entered <;> rfl
  quiet running emission silent := by
    by_cases switching : ∃ registered, Switches detector running emission registered
    · obtain ⟨registered, switches⟩ := switching
      obtain ⟨after, returned, _⟩ := detector.observe_switching rules switches
      rcases built : build rules (detector.switchPayload rules.sha1 registered emission) emission
          (detector.looked running emission) with ⟨reason | detection, later⟩
      · rw [built] at returned
        rw [Call.answered, returned]
        rfl
      · obtain ⟨traced, buildable⟩ := (build_returns _).mp ⟨detection, later, built⟩
        exact absurd ⟨registered, switches, rfl, traced, buildable⟩ (silent _)
    · exact (detector.observe_steady rules switching).2

theorem nameOf_coordinates (role : String) (emission : WindowEmission Nat) :
    Identity.nameOf role (coordinates emission) =
      (role.toList ++ '|' :: emission.partitionKey.toList) ++
        '|' :: (emission.windowStart.str.toList ++ '|' :: emission.windowEnd.str.toList) := by
  simp [Identity.nameOf, coordinates, List.intercalate, List.intersperse]

theorem role_tells {entered other : Bool} {left right : Str} :
    (role entered).toList ++ '|' :: left = (role other).toList ++ '|' :: right ↔
      entered = other ∧ left = right := by
  constructor
  · intro same
    have prefixes := congrArg (List.take 18) same
    rw [List.take_append_of_le_length (by cases entered <;> decide),
      List.take_append_of_le_length (by cases other <;> decide)] at prefixes
    have sameKind : entered = other := by
      revert prefixes
      cases entered <;> cases other <;> decide
    subst sameKind
    exact ⟨rfl, (List.cons.inj (List.append_cancel_left same)).2⟩
  · rintro ⟨rfl, rfl⟩
    rfl

theorem identity_eq_iff {emissions : List (WindowEmission Nat)}
    (collisionFree : Identity.CollisionFree rules.sha1 (names emissions))
    {first second : WindowEmission Nat} (member : first ∈ emissions) (other : second ∈ emissions)
    (utc : InUtc first) (otherUtc : InUtc second) (kind otherKind : Bool) :
    identity rules.sha1 kind first = identity rules.sha1 otherKind second ↔
      kind = otherKind ∧ SameWindow first second := by
  have listed {emission : WindowEmission Nat} (member : emission ∈ emissions) (entered : Bool) :
      Identity.nameOf (role entered) (coordinates emission) ∈ names emissions :=
    List.mem_flatMap.mpr ⟨emission, member, by cases entered <;> simp⟩
  rw [identity, identity, collisionFree.derive_eq_iff (listed member kind) (listed other otherKind),
    nameOf_coordinates, nameOf_coordinates, bounds_tell utc otherUtc, role_tells, String.toList_inj,
    and_assoc, SameWindow]

end OutageDetector

namespace AnomalyDetector

variable {ω ρ : Type}

/-- The id of the detection of an anomaly. -/
def identity (detector : AnomalyDetector ρ) (sha1 : List UInt8 → BitVec 160) (_ : Unit)
    (emission : WindowEmission ρ) : Uuid :=
  Identity.derive sha1 "detection.signal_anomaly" (coordinates detector emission)

/-- The names the ids of a run are derived from. -/
def names (detector : AnomalyDetector ρ) (emissions : List (WindowEmission ρ)) : List Str :=
  emissions.map fun emission =>
    Identity.nameOf "detection.signal_anomaly" (coordinates detector emission)

/-- The emission's signal comes to be anomalous, and the detection is built. -/
def Reports (detector : AnomalyDetector ρ) (rules : DetectionRules ω) (running : Running ω)
    (emission : WindowEmission ρ) (_ : Unit) : Prop :=
  (∃ value, detector.float emission.value = .ok value ∧ detector.compare value = true) ∧
    running.state.contains emission.partitionKey = false ∧ Traced rules emission ∧
    Buildable rules running.world emission

theorem build_returns {detector : AnomalyDetector ρ} {rules : DetectionRules ω} {value : Double}
    {emission : WindowEmission ρ} (world : ω) :
    (build rules (anomalyPayload detector rules value emission) emission).Returns world ↔
      Traced rules emission ∧ Buildable rules world emission := by
  have dotted : Detections.isDottedName detectionTypeSignalAnomaly = true := by decide
  have worded : (anomalyPayload detector rules value emission).thresholdBreached ≠ "" := by
    simp [anomalyPayload]
  have about : EmissionDetector.About (anomalyPayload detector rules value emission) emission :=
    ⟨Detections.isVersion4Or5_derive .., Detections.isVersion4Or5_derive .., dotted, rfl, rfl, worded⟩
  exact about.returns rules world

/-- Past the reading of its value, an emission makes a transition or none. -/
theorem observe_valued {detector : AnomalyDetector ρ} (rules : DetectionRules ω)
    {emission : WindowEmission ρ} {value : Double} (float : detector.float emission.value = .ok value)
    (running : Running ω) :
    detector.observeEmission rules emission running =
      EmissionDetector.transition emission.partitionKey (detector.compare value)
        (build rules (anomalyPayload detector rules value emission) emission) none running := by
  rw [observeEmission, float]
  rfl

theorem reportsOnce (detector : AnomalyDetector ρ) (rules : DetectionRules ω) :
    ReportsOnce (detector.observeEmission rules) (Reports detector rules)
      (identity detector rules.sha1) where
  reported running emission kind reports := by
    obtain ⟨⟨value, float, anomalous⟩, new, traced, buildable⟩ := reports
    have entered := EmissionDetector.transition_entering
      (build rules (anomalyPayload detector rules value emission) emission) none new
    have returns : (build rules (anomalyPayload detector rules value emission) emission).Returns
        running.world := (build_returns _).mpr ⟨traced, buildable⟩
    obtain ⟨detection, later, built⟩ := returns
    rw [built] at entered
    have payload := (Detections.makeDetection_ok built).1
    have returned := observe_valued rules float running
    rw [anomalous, entered] at returned
    simp only [Call.answered, returned, Except.map, List.map_cons, List.map_nil, payload]
    rfl
  quiet running emission silent := by
    rcases float : detector.float emission.value with reason | value
    · rw [Call.answered, observeEmission, float]
      rfl
    · have returned := observe_valued rules float running
      rw [Call.answered, returned]
      by_cases same : running.state.contains emission.partitionKey = detector.compare value
      · rw [EmissionDetector.transition_steady _ _ same]
      · cases anomalous : detector.compare value with
        | false =>
            rw [anomalous] at same
            rw [EmissionDetector.transition_silent _ (Bool.eq_true_of_not_eq_false same)]
        | true =>
            rw [anomalous] at same
            have new := Bool.eq_false_of_not_eq_true same
            rcases built : build rules (anomalyPayload detector rules value emission) emission
                running.world with ⟨reason | detection, later⟩
            · have entered := EmissionDetector.transition_entering
                (build rules (anomalyPayload detector rules value emission) emission) none new
              rw [entered, built]
              rfl
            · obtain ⟨traced, buildable⟩ := (build_returns _).mp ⟨detection, later, built⟩
              exact absurd ⟨⟨value, float, anomalous⟩, new, traced, buildable⟩ (silent ())

theorem nameOf_coordinates (detector : AnomalyDetector ρ) (emission : WindowEmission ρ) :
    Identity.nameOf "detection.signal_anomaly" (coordinates detector emission) =
      ("detection.signal_anomaly".toList ++
          '|' :: (emission.partitionKey.toList ++ '|' :: detector.signalName.toList)) ++
        '|' :: (emission.windowStart.str.toList ++ '|' :: emission.windowEnd.str.toList) := by
  simp [Identity.nameOf, coordinates, List.intercalate, List.intersperse]

theorem identity_eq_iff {detector : AnomalyDetector ρ} {rules : DetectionRules ω}
    {emissions : List (WindowEmission ρ)}
    (collisionFree : Identity.CollisionFree rules.sha1 (detector.names emissions))
    {first second : WindowEmission ρ} (member : first ∈ emissions) (other : second ∈ emissions)
    (utc : InUtc first) (otherUtc : InUtc second) (kind otherKind : Unit) :
    identity detector rules.sha1 kind first = identity detector rules.sha1 otherKind second ↔
      kind = otherKind ∧ SameWindow first second := by
  have listed {emission : WindowEmission ρ} (member : emission ∈ emissions) :
      Identity.nameOf "detection.signal_anomaly" (coordinates detector emission) ∈
        detector.names emissions := List.mem_map_of_mem member
  rw [identity, identity, collisionFree.derive_eq_iff (listed member) (listed other),
    nameOf_coordinates, nameOf_coordinates, bounds_tell utc otherUtc, List.append_cancel_left_eq,
    List.cons.injEq, List.append_cancel_right_eq, String.toList_inj, SameWindow]
  exact ⟨fun same => ⟨rfl, same.1.2, same.2⟩, fun same => ⟨⟨rfl, same.2.1⟩, same.2.2⟩⟩

end AnomalyDetector

/-- The detections of an outage detector carry distinct ids exactly when no window is reported twice
as the start of an outage, or twice as its end; those of an anomaly detector exactly when no window
is reported twice. -/
theorem detectionIds_distinct_iff {ω σ κ σ' κ' ρ : Type} (rules : DetectionRules ω) (world : ω)
    (outage : OutageDetector ω) (aggregator : WindowAggregator σ κ Nat)
    (events : List (StreamEvent κ)) (anomaly : AnomalyDetector ρ)
    (signals : WindowAggregator σ' κ' ρ) (signalEvents : List (StreamEvent κ'))
    (collisionFree : Identity.CollisionFree rules.sha1
      (OutageDetector.names (Windowing.produced aggregator events)))
    (signalCollisionFree : Identity.CollisionFree rules.sha1
      (anomaly.names (Windowing.produced signals signalEvents))) :
    ((detectionIds (outage.observeEmission rules) (Windowing.produced aggregator events)
          ⟨.empty, world⟩).Nodup ↔
        NoneTwice (outage.observeEmission rules) (outage.Reports rules) SameWindow
          (Windowing.produced aggregator events) ⟨.empty, world⟩) ∧
      ((detectionIds (anomaly.observeEmission rules) (Windowing.produced signals signalEvents)
          ⟨.empty, world⟩).Nodup ↔
        NoneTwice (anomaly.observeEmission rules) (anomaly.Reports rules) SameWindow
          (Windowing.produced signals signalEvents) ⟨.empty, world⟩) := by
  constructor
  · apply EmissionDetector.detectionIds_nodup_iff (outage.reportsOnce rules)
    exact fun first member second other => OutageDetector.identity_eq_iff collisionFree member other
      (Windowing.produced_inUtc aggregator events first member)
      (Windowing.produced_inUtc aggregator events second other)
  · apply EmissionDetector.detectionIds_nodup_iff (anomaly.reportsOnce rules)
    exact fun first member second other => AnomalyDetector.identity_eq_iff signalCollisionFree member
      other (Windowing.produced_inUtc signals signalEvents first member)
      (Windowing.produced_inUtc signals signalEvents second other)

section Samples

open OfflineDetector (sampleRules secondOfDay_lt)
open OutageDetector (distinctDevices sampleDetector sampleEvent sampleEvents)

def sampleAnomaly : AnomalyDetector Nat where
  threshold := .finite 1
  comparison := .above
  signalName := "devices"
  float value := .ok (.finite value)

theorem detectionIds_distinct_iff_sample :
    ((detectionIds (sampleDetector.observeEmission sampleRules)
          (Windowing.produced distinctDevices sampleEvents) ⟨.empty, ()⟩).Nodup ↔
        NoneTwice (sampleDetector.observeEmission sampleRules) (sampleDetector.Reports sampleRules)
          SameWindow (Windowing.produced distinctDevices sampleEvents) ⟨.empty, ()⟩) ∧
      ((detectionIds (sampleAnomaly.observeEmission sampleRules)
          (Windowing.produced distinctDevices sampleEvents) ⟨.empty, ()⟩).Nodup ↔
        NoneTwice (sampleAnomaly.observeEmission sampleRules) (sampleAnomaly.Reports sampleRules)
          SameWindow (Windowing.produced distinctDevices sampleEvents) ⟨.empty, ()⟩) :=
  detectionIds_distinct_iff sampleRules () sampleDetector distinctDevices sampleEvents sampleAnomaly
    distinctDevices sampleEvents (by decide +kernel) (by decide +kernel)

/-- One device of four is heard in the first minute and two in the second; a late event of the first
minute repairs it, and the store is in outage again under the id of the first outage. -/
def flappingEvents : List (StreamEvent Nat) :=
  [sampleEvent 1 10 (secondOfDay_lt 10), sampleEvent 1 70 (secondOfDay_lt 70),
    sampleEvent 2 80 (secondOfDay_lt 80), sampleEvent 1 240 (secondOfDay_lt 240),
    sampleEvent 1 20 (secondOfDay_lt 20)]

theorem repaired_window_repeats_id :
    Identity.CollisionFree sampleRules.sha1
        (OutageDetector.names (Windowing.produced distinctDevices flappingEvents)) ∧
      ¬ (detectionIds (sampleDetector.observeEmission sampleRules)
        (Windowing.produced distinctDevices flappingEvents) ⟨.empty, ()⟩).Nodup :=
  ⟨by decide +kernel, by decide +kernel⟩

end Samples

end SignalForge
