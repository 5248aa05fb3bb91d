import SignalForge.Alternation
import SignalForge.EmissionDetectors
import SignalForge.OfflineDetectorRun
import SignalForge.ProjectionFolds

/-! The stores in outage as the dashboard shows them, beside the state the outage detector keeps. -/

set_option autoImplicit false

namespace SignalForge

open EmissionDetector (Running Buildable Traced)

namespace OutageDetector

variable {ω : Type}

/-- The share of devices not reporting is above the threshold. -/
def verdict (detector : OutageDetector ω) (registered : Nat) (emission : WindowEmission Nat) : Bool :=
  detector.thresholdRatio < offlineRatio registered emission.value

/-- The detection due when the store enters outage, or leaves it. -/
def switchPayload (detector : OutageDetector ω) (sha1 : List UInt8 → BitVec 160) (registered : Nat)
    (emission : WindowEmission Nat) : DetectionEventPayload :=
  if detector.verdict registered emission then outagePayload detector sha1 registered emission
  else recoveredPayload detector sha1 registered emission

/-- The store has devices registered, and the emission takes it into outage or out of it. -/
structure Switches (detector : OutageDetector ω) (running : Running ω)
    (emission : WindowEmission Nat) (registered : Nat) : Prop where
  looked : (detector.registeredCountLookup emission.partitionKey running.world).1 =
    .ok (some registered)
  some_registered : registered ≠ 0
  differs : running.state.contains emission.partitionKey ≠ detector.verdict registered emission

theorem Switches.turns {detector : OutageDetector ω} {running : Running ω}
    {emission : WindowEmission Nat} {registered : Nat}
    (switches : Switches detector running emission registered) :
    (running.state.contains emission.partitionKey = false ∧
      detector.verdict registered emission = true) ∨
    (running.state.contains emission.partitionKey = true ∧
      detector.verdict registered emission = false) := by
  have differs := switches.differs
  cases before : running.state.contains emission.partitionKey with
  | false => exact Or.inl ⟨rfl, Bool.eq_true_of_not_eq_false (before ▸ differs).symm⟩
  | true => exact Or.inr ⟨rfl, Bool.eq_false_of_not_eq_true (before ▸ differs).symm⟩

/-- The world once the registered count has been looked up. -/
def looked (detector : OutageDetector ω) (running : Running ω) (emission : WindowEmission Nat) : ω :=
  (detector.registeredCountLookup emission.partitionKey running.world).2

variable {detector : OutageDetector ω} {rules : DetectionRules ω} {running : Running ω}
  {emission : WindowEmission Nat} {registered : Nat}

theorem switchPayload_about (sha1 : List UInt8 → BitVec 160) :
    EmissionDetector.About (detector.switchPayload sha1 registered emission) emission := by
  have outage : Detections.isDottedName detectionTypeStoreOutage = true := by decide
  have recovered : Detections.isDottedName detectionTypeStoreRecovered = true := by decide
  have ends (text : String) : text ++ "%)" ≠ "" :=
    fun none => absurd (String.append_eq_empty_iff.mp none).2 (by decide)
  rw [switchPayload]
  split
  · exact ⟨Detections.isVersion4Or5_derive .., Detections.isVersion4Or5_derive .., outage, rfl, rfl,
      ends _⟩
  · exact ⟨Detections.isVersion4Or5_derive .., Detections.isVersion4Or5_derive .., recovered, rfl,
      rfl, ends _⟩

theorem build_returns (world : ω) :
    (build rules (detector.switchPayload rules.sha1 registered emission) emission).Returns world ↔
      Traced rules emission ∧ Buildable rules world emission :=
  (detector.switchPayload_about rules.sha1).returns rules world

/-- The lookup, and the world it leaves behind. -/
theorem outside_lookup {answer : Except Raised (Option Nat)}
    (answered : (detector.registeredCountLookup emission.partitionKey running.world).1 = answer) :
    EmissionDetector.outside (detector.registeredCountLookup emission.partitionKey) running =
      (answer, { running with world := detector.looked running emission }) := by
  rw [EmissionDetector.outside, Call.zoom, answered, looked]

/-- Past the lookup, a count decides the transition there is to make. -/
theorem observe_counted (rules : DetectionRules ω)
    (counted : (detector.registeredCountLookup emission.partitionKey running.world).1 =
      .ok (some registered)) (some_registered : registered ≠ 0) :
    detector.observeEmission rules emission running =
      EmissionDetector.transition emission.partitionKey (detector.verdict registered emission)
        (build rules (outagePayload detector rules.sha1 registered emission) emission)
        (some (build rules (recoveredPayload detector rules.sha1 registered emission) emission))
        { running with world := detector.looked running emission } := by
  obtain ⟨count, rfl⟩ := Nat.exists_eq_succ_of_ne_zero some_registered
  rw [observeEmission, Call.bind_of_ok (outside_lookup counted)]
  rfl

/-- A store that is as the emission has it, or has no devices registered, stays as it is. -/
theorem observe_steady (rules : DetectionRules ω)
    (steady : ¬ ∃ registered, Switches detector running emission registered) :
    (detector.observeEmission rules emission running).2.state = running.state ∧
      Call.answered (detector.observeEmission rules emission) running = [] := by
  have outcome : ∃ answer, detector.observeEmission rules emission running =
      (answer, { running with world := detector.looked running emission }) ∧
        (answer = .ok [] ∨ ∃ reason, answer = .error reason) := by
    rcases counted : (detector.registeredCountLookup emission.partitionKey running.world).1 with
      reason | _ | _ | count
    · rw [observeEmission, Call.bind_of_error (outside_lookup counted)]
      exact ⟨_, rfl, Or.inr ⟨reason, rfl⟩⟩
    · rw [observeEmission, Call.bind_of_ok (outside_lookup counted)]
      exact ⟨_, rfl, Or.inl rfl⟩
    · rw [observeEmission, Call.bind_of_ok (outside_lookup counted)]
      exact ⟨_, rfl, Or.inl rfl⟩
    · have same : running.state.contains emission.partitionKey =
          detector.verdict (count + 1) emission := by
        by_contra differs
        exact steady ⟨count + 1, counted, Nat.succ_ne_zero count, differs⟩
      rw [observe_counted rules counted (Nat.succ_ne_zero count)]
      exact ⟨_, EmissionDetector.transition_steady _ _ same, Or.inl rfl⟩
  obtain ⟨answer, returned, answer_eq⟩ := outcome
  simp only [Call.answered, returned, true_and]
  rcases answer_eq with rfl | ⟨reason, rfl⟩ <;> rfl

/-- A store that switches does so whether or not its detection can be built. -/
theorem observe_switching (rules : DetectionRules ω)
    (switches : Switches detector running emission registered) :
    ∃ after, detector.observeEmission rules emission running =
        ((build rules (detector.switchPayload rules.sha1 registered emission) emission
          (detector.looked running emission)).1.map ([·]), after) ∧
      ∀ storeId, after.state.contains storeId =
        if storeId = emission.partitionKey then detector.verdict registered emission
        else running.state.contains storeId := by
  have turns := switches.turns
  rw [observe_counted rules switches.looked switches.some_registered]
  refine ⟨_, Prod.ext ?_ rfl, fun storeId => EmissionDetector.contains_transition ..⟩
  let between : Running ω := { running with world := detector.looked running emission }
  rcases turns with ⟨new, holds⟩ | ⟨old, holds⟩
  · have entered := EmissionDetector.transition_entering
      (build rules (outagePayload detector rules.sha1 registered emission) emission)
      (some (build rules (recoveredPayload detector rules.sha1 registered emission) emission))
      (show between.state.contains emission.partitionKey = false from new)
    rw [switchPayload, holds, if_pos rfl, entered]
  · have recovered := EmissionDetector.transition_recovering
      (build rules (outagePayload detector rules.sha1 registered emission) emission)
      (build rules (recoveredPayload detector rules.sha1 registered emission) emission)
      (show between.state.contains emission.partitionKey = true from old)
    rw [switchPayload, holds, if_neg Bool.false_ne_true, recovered]

end OutageDetector

/-- The detector and the world around it, the store behind the dashboard, and the detections
emitted so far. -/
structure OutageDashboard (ω : Type) where
  running : Running ω
  store : ProjectionStore
  emitted : List DetectionEvent

namespace OutageDashboard

variable {ω : Type}

def start (world : ω) : OutageDashboard ω := ⟨⟨.empty, world⟩, .empty, []⟩

/-- The detections of an emission are folded into the projection in order. -/
def observe (detector : OutageDetector ω) (rules : DetectionRules ω) (dashboard : OutageDashboard ω)
    (emission : WindowEmission Nat) : OutageDashboard ω :=
  let call := detector.observeEmission rules emission
  let detections := Call.answered call dashboard.running
  { running := (call dashboard.running).2
    store := routeDetections [ActiveOutageProjection.observe] detections dashboard.store
    emitted := dashboard.emitted ++ detections }

def run (detector : OutageDetector ω) (rules : DetectionRules ω) (world : ω)
    (emissions : List (WindowEmission Nat)) : OutageDashboard ω :=
  emissions.foldl (observe detector rules) (start world)

/-- The types of the detections emitted for a store. -/
def history (dashboard : OutageDashboard ω) (storeId : String) : List String :=
  (dashboard.emitted.filter fun detection => detection.payload.storeId = storeId).map
    fun detection => detection.payload.detectionType

/-- The dashboard shows the stores the detector holds in outage, and the detections of each store
alternate. -/
structure Agrees (dashboard : OutageDashboard ω) : Prop where
  stores : ActiveOutageProjection.storesInOutage dashboard.store =
    dashboard.running.state.keys.insertionSort (· ≤ ·)
  count : ActiveOutageProjection.activeOutageCount dashboard.store =
    dashboard.running.state.length
  alternates : ∀ storeId,
    Alternates detectionTypeStoreOutage detectionTypeStoreRecovered (dashboard.history storeId)

/-- The emissions that take a store into outage or out of it can each be reported. -/
def ReportsSwitches (detector : OutageDetector ω) (rules : DetectionRules ω) (world : ω)
    (emissions : List (WindowEmission Nat)) : Prop :=
  ∀ before emission after, emissions = before ++ emission :: after → ∀ registered,
    OutageDetector.Switches detector (run detector rules world before).running emission registered →
    Buildable rules
      (detector.looked (run detector rules world before).running emission) emission

/-- What holds while every switch is reported. -/
structure InStep (dashboard : OutageDashboard ω) : Prop where
  shown : ∀ storeId, (dashboard.store.get ActiveOutageProjection.view storeId).isSome =
    dashboard.running.state.contains storeId
  alternates : ∀ storeId,
    Alternates detectionTypeStoreOutage detectionTypeStoreRecovered (dashboard.history storeId)
  odd : ∀ storeId, (dashboard.history storeId).length % 2 =
    if dashboard.running.state.contains storeId then 1 else 0

theorem shown_iff {dashboard : OutageDashboard ω} :
    ActiveOutageProjection.storesInOutage dashboard.store =
        dashboard.running.state.keys.insertionSort (· ≤ ·) ↔
      ∀ storeId, (dashboard.store.get ActiveOutageProjection.view storeId).isSome =
        dashboard.running.state.contains storeId := by
  have listed (storeId : String) : storeId ∈ dashboard.running.state.keys.insertionSort (· ≤ ·) ↔
      dashboard.running.state.contains storeId = true := by
    rw [(List.perm_insertionSort _ _).mem_iff, OrderedDict.mem_keys_iff, OrderedDict.contains]
  constructor
  · intro same storeId
    apply Bool.eq_iff_iff.mpr
    rw [← ProjectionStore.mem_keys, ← listed, ← same]
    rfl
  · intro shown
    apply ProjectionStore.keys_eq (List.pairwise_insertionSort _ _)
    · exact (List.perm_insertionSort _ _).nodup_iff.mpr (OrderedDict.keys_nodup _)
    · intro storeId
      rw [listed, shown]

theorem InStep.agrees {dashboard : OutageDashboard ω} (inStep : InStep dashboard) :
    Agrees dashboard where
  stores := shown_iff.mpr inStep.shown
  count := by
    have stores := shown_iff.mpr inStep.shown
    rw [ActiveOutageProjection.storesInOutage] at stores
    rw [ActiveOutageProjection.activeOutageCount, stores, List.length_insertionSort,
      OrderedDict.keys, List.length_map, OrderedDict.length]
  alternates := inStep.alternates

theorem inStep_start (world : ω) : InStep (start world) where
  shown _ := rfl
  alternates _ := Alternates.nil
  odd _ := rfl

variable {detector : OutageDetector ω} {rules : DetectionRules ω} {dashboard : OutageDashboard ω}
  {emission : WindowEmission Nat} {registered : Nat}

open OutageDetector (Switches)

theorem run_concat (world : ω) (emissions : List (WindowEmission Nat))
    (emission : WindowEmission Nat) :
    run detector rules world (emissions ++ [emission]) =
      observe detector rules (run detector rules world emissions) emission :=
  List.foldl_concat ..

/-- A switch that is not reported changes the state and nothing else. -/
theorem observe_unreported
    (switches : Switches detector dashboard.running emission registered)
    (unbuildable : ¬ Buildable rules (detector.looked dashboard.running emission) emission) :
    (observe detector rules dashboard emission).store = dashboard.store := by
  obtain ⟨after, returned, _⟩ := detector.observe_switching rules switches
  rcases built : OutageDetector.build rules (detector.switchPayload rules.sha1 registered emission)
      emission (detector.looked dashboard.running emission) with ⟨reason | detection, later⟩
  · rw [built] at returned
    rw [observe, Call.answered]
    simp only [returned]
    rfl
  · exact absurd ((OutageDetector.build_returns _).mp ⟨detection, later, built⟩).2 unbuildable

theorem observe_reported
    (switches : Switches detector dashboard.running emission registered)
    (traced : Traced rules emission)
    (buildable : Buildable rules (detector.looked dashboard.running emission) emission) :
    ∃ detection : DetectionEvent,
      detection.payload = detector.switchPayload rules.sha1 registered emission ∧
      (observe detector rules dashboard emission).emitted = dashboard.emitted ++ [detection] ∧
      (observe detector rules dashboard emission).store =
        (ActiveOutageProjection.observe detection dashboard.store).2 := by
  obtain ⟨after, returned, _⟩ := detector.observe_switching rules switches
  obtain ⟨detection, later, built⟩ := (OutageDetector.build_returns _).mpr ⟨traced, buildable⟩
  refine ⟨detection, (Detections.makeDetection_ok built).1, ?_, ?_⟩ <;>
  · rw [built] at returned
    rw [observe, Call.answered]
    simp only [returned]
    rfl

/-- What a reported switch writes into the view. -/
theorem get_observe_switch {detection : DetectionEvent}
    (payload : detection.payload = detector.switchPayload rules.sha1 registered emission)
    (store : ProjectionStore) (storeId : String) :
    ((ActiveOutageProjection.observe detection store).2.get ActiveOutageProjection.view
        storeId).isSome =
      if storeId = emission.partitionKey then detector.verdict registered emission
      else (store.get ActiveOutageProjection.view storeId).isSome := by
  rw [ActiveOutageProjection.get_observe, ActiveOutageProjection.writeOf, payload,
    OutageDetector.switchPayload]
  cases detector.verdict registered emission with
  | true =>
      simp only [↓reduceIte, OutageDetector.outagePayload, true_and]
      split <;> rfl
  | false =>
      have apart : detectionTypeStoreRecovered ≠ detectionTypeStoreOutage := by decide
      simp only [Bool.false_eq_true, ↓reduceIte, OutageDetector.recoveredPayload, apart, true_and]
      split <;> rfl

theorem switchPayload_type :
    (detector.switchPayload rules.sha1 registered emission).detectionType =
      if detector.verdict registered emission then detectionTypeStoreOutage
      else detectionTypeStoreRecovered := by
  rw [OutageDetector.switchPayload]
  split <;> rfl

theorem switchPayload_store :
    (detector.switchPayload rules.sha1 registered emission).storeId = emission.partitionKey := by
  rw [OutageDetector.switchPayload]
  split <;> rfl

/-- One more detection joins the history of its store. -/
theorem history_concat {after : OutageDashboard ω} {detection : DetectionEvent}
    (emitted : after.emitted = dashboard.emitted ++ [detection]) (storeId : String) :
    after.history storeId = dashboard.history storeId ++
      if detection.payload.storeId = storeId then [detection.payload.detectionType] else [] := by
  rw [history, emitted, List.filter_append, List.map_append, ← history]
  split
  · rename_i here
    rw [List.filter_cons_of_pos (by simpa using here)]
    rfl
  · rename_i apart
    rw [List.filter_cons_of_neg (by simpa using apart)]
    rfl

theorem InStep.observe_steady (inStep : InStep dashboard)
    (steady : ¬ ∃ registered, Switches detector dashboard.running emission registered) :
    InStep (observe detector rules dashboard emission) := by
  obtain ⟨same, nothing⟩ := detector.observe_steady rules steady
  have emitted : (observe detector rules dashboard emission).emitted = dashboard.emitted := by
    rw [observe, nothing, List.append_nil]
  have store : (observe detector rules dashboard emission).store = dashboard.store := by
    rw [observe, nothing]
    rfl
  have state : (observe detector rules dashboard emission).running.state =
    dashboard.running.state := same
  refine ⟨?_, ?_, ?_⟩
  · rw [store, state]
    exact inStep.shown
  · simp only [history, emitted]
    exact inStep.alternates
  · simp only [history, emitted, state]
    exact inStep.odd

theorem InStep.observe_reported (inStep : InStep dashboard) (traced : Traced rules emission)
    (switches : Switches detector dashboard.running emission registered)
    (buildable : Buildable rules (detector.looked dashboard.running emission) emission) :
    InStep (observe detector rules dashboard emission) := by
  obtain ⟨detection, payload, emitted, store⟩ :=
    OutageDashboard.observe_reported switches traced buildable
  have state : ∀ storeId,
      (observe detector rules dashboard emission).running.state.contains storeId =
        if storeId = emission.partitionKey then detector.verdict registered emission
        else dashboard.running.state.contains storeId := by
    obtain ⟨after, returned, contains⟩ := detector.observe_switching rules switches
    rw [OutageDashboard.observe, returned]
    exact contains
  have extended := history_concat emitted
  rw [payload, switchPayload_type, switchPayload_store] at extended
  refine ⟨?_, ?_, ?_⟩
  · intro storeId
    rw [store, get_observe_switch payload, state, inStep.shown]
  · intro storeId
    rw [extended]
    split
    · rename_i here
      subst here
      apply (inStep.alternates _).concat
      have odd := inStep.odd emission.partitionKey
      rw [odd]
      rcases switches.turns with ⟨before, verdict⟩ | ⟨before, verdict⟩
      · simp only [before, verdict, Bool.false_eq_true, ↓reduceIte]
      · simp only [before, verdict, Bool.false_eq_true, ↓reduceIte, Nat.one_ne_zero]
    · rw [List.append_nil]
      exact inStep.alternates storeId
  · intro storeId
    rw [extended, state]
    by_cases here : emission.partitionKey = storeId
    · subst here
      have odd := inStep.odd emission.partitionKey
      rw [if_pos rfl, if_pos rfl, List.length_append, List.length_singleton, Nat.add_mod, odd]
      rcases switches.turns with ⟨before, verdict⟩ | ⟨before, verdict⟩
      · simp only [before, verdict, Bool.false_eq_true, ↓reduceIte]
      · simp only [before, verdict, Bool.false_eq_true, ↓reduceIte]
    · rw [if_neg here, if_neg (Ne.symm here), List.append_nil]
      exact inStep.odd storeId

/-- The dashboard agrees with the detector after every emission exactly when every emission that
takes a store into outage or out of it can be reported. -/
theorem agrees_iff_reportsSwitches (world : ω) (emissions : List (WindowEmission Nat))
    (traced : ∀ emission ∈ emissions, Traced rules emission) :
    (∀ before after, emissions = before ++ after → Agrees (run detector rules world before)) ↔
      ReportsSwitches detector rules world emissions := by
  constructor
  · intro agrees before emission after split registered switches
    by_contra unbuildable
    have shownBefore := shown_iff.mp (agrees before (emission :: after) split).stores
      emission.partitionKey
    have next := agrees (before ++ [emission]) after (by rw [split, List.append_assoc]; rfl)
    rw [run_concat] at next
    have shownAfter := shown_iff.mp next.stores emission.partitionKey
    obtain ⟨later, returned, contains⟩ := detector.observe_switching rules switches
    have state : (observe detector rules (run detector rules world before)
        emission).running.state.contains emission.partitionKey =
          detector.verdict registered emission := by
      rw [observe, returned]
      exact (contains _).trans (if_pos rfl)
    rw [observe_unreported switches unbuildable, state, shownBefore] at shownAfter
    exact switches.differs shownAfter
  · intro reports before after split
    apply InStep.agrees
    induction before using List.reverseRecOn generalizing after with
    | nil => exact inStep_start world
    | append_singleton before emission ih =>
        rw [List.append_assoc, List.singleton_append] at split
        have inStep := ih (emission :: after) split
        have traced : Traced rules emission := traced emission (by
          rw [split]
          exact List.mem_append_right before List.mem_cons_self)
        rw [run_concat]
        by_cases switching : ∃ registered, Switches detector (run detector rules world before).running
            emission registered
        · obtain ⟨registered, switches⟩ := switching
          exact inStep.observe_reported traced switches
            (reports before emission after split registered switches)
        · exact inStep.observe_steady switching

section Samples

open OfflineDetector (sampleRules sampleInstant)

def sampleDetector : OutageDetector Unit where
  thresholdRatio := 1 / 2
  registeredCountLookup _ := pure (some 2)
  ratio_pos := by decide +kernel
  ratio_lt_one := by decide +kernel

/-- The devices heard in a minute of the day. -/
def sampleEmission (value seconds : Nat) (day : seconds + 60 < 86400) : WindowEmission Nat where
  partitionKey := "store-1"
  aggregationName := OutageDetector.aggregationName
  windowStart := .utc (sampleInstant seconds (by omega))
  windowEnd := .utc (sampleInstant (seconds + 60) day)
  value := value
  eventCount := value
  isRepair := false
  lastContributingTraceId := none

theorem agrees_iff_reportsSwitches_sample :
    let emissions := [sampleEmission 0 0 (by decide), sampleEmission 2 60 (by decide)]
    (∀ before after, emissions = before ++ after →
        Agrees (run sampleDetector sampleRules () before)) ↔
      ReportsSwitches sampleDetector sampleRules () emissions :=
  agrees_iff_reportsSwitches () _ fun emission member => ⟨none, by
    simp only [List.mem_cons, List.not_mem_nil, or_false] at member
    rcases member with rfl | rfl <;> rfl⟩

/-- The window ends 400 seconds ahead of the clock: the store is in outage for the detector, its
detection is refused, and the dashboard never shows it. -/
theorem unreported_outage_stays_hidden :
    ∃ emissions, (∀ emission ∈ emissions, Traced sampleRules emission) ∧
      ¬ ∀ before after, emissions = before ++ after →
        Agrees (run sampleDetector sampleRules () before) := by
  refine ⟨[sampleEmission 0 80340 (by decide)], ?_, fun agrees => ?_⟩
  · intro emission member
    rw [List.mem_singleton.mp member]
    exact ⟨none, rfl⟩
  · have stores := (agrees [sampleEmission 0 80340 (by decide)] [] rfl).stores
    revert stores
    decide +kernel

end Samples

end OutageDashboard

end SignalForge
