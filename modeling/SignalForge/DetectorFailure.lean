import SignalForge.DetectionIdentity
import SignalForge.OfflineDetectorFailure

/-! When a detector that raises has kept its state. All three write the state before they build
the detection that reports the change. -/

set_option autoImplicit false

namespace SignalForge

open EmissionDetector (Running Traced Buildable)

namespace OutageDetector

variable {ω : Type} {detector : OutageDetector ω} {rules : DetectionRules ω}

/-- A call that raises leaves the stores in outage as they were. -/
def KeptOnRaise (detector : OutageDetector ω) (rules : DetectionRules ω) (running : Running ω)
    (emission : WindowEmission Nat) : Prop :=
  ∀ reason, (detector.observeEmission rules emission running).1 = .error reason →
    (detector.observeEmission rules emission running).2.state = running.state

/-- Where the emission takes its store into outage or out of it, the detection can be built. -/
def Keeps (detector : OutageDetector ω) (rules : DetectionRules ω) (running : Running ω)
    (emission : WindowEmission Nat) : Prop :=
  ∀ registered, Switches detector running emission registered →
    Traced rules emission ∧ Buildable rules (detector.looked running emission) emission

theorem keptOnRaise_iff (running : Running ω) (emission : WindowEmission Nat) :
    KeptOnRaise detector rules running emission ↔ Keeps detector rules running emission := by
  by_cases switching : ∃ registered, Switches detector running emission registered
  · obtain ⟨registered, switches⟩ := switching
    obtain ⟨after, returned, contains⟩ := detector.observe_switching rules switches
    have changed : after.state ≠ running.state := by
      intro same
      have here := contains emission.partitionKey
      rw [same, if_pos rfl] at here
      exact switches.differs here
    unfold KeptOnRaise Keeps
    simp only [returned, Except.map_raises]
    rw [Call.forall_raises_iff changed, detector.build_returns]
    exact ⟨fun reported _ _ => reported, fun keeps => keeps registered switches⟩
  · have steady := (detector.observe_steady rules switching).1
    exact iff_of_true (fun _ _ => steady) fun registered switches =>
      (switching ⟨registered, switches⟩).elim

end OutageDetector

namespace AnomalyDetector

variable {ω ρ : Type} {detector : AnomalyDetector ρ} {rules : DetectionRules ω}

/-- A call that raises leaves the anomalous partitions as they were. -/
def KeptOnRaise (detector : AnomalyDetector ρ) (rules : DetectionRules ω) (running : Running ω)
    (emission : WindowEmission ρ) : Prop :=
  ∀ reason, (detector.observeEmission rules emission running).1 = .error reason →
    (detector.observeEmission rules emission running).2.state = running.state

/-- Where the emission's signal comes to be anomalous, the detection can be built. -/
def Keeps (detector : AnomalyDetector ρ) (rules : DetectionRules ω) (running : Running ω)
    (emission : WindowEmission ρ) : Prop :=
  ∀ value, detector.float emission.value = .ok value → detector.compare value = true →
    running.state.contains emission.partitionKey = false →
      Traced rules emission ∧ Buildable rules running.world emission

theorem keptOnRaise_iff (running : Running ω) (emission : WindowEmission ρ) :
    KeptOnRaise detector rules running emission ↔ Keeps detector rules running emission := by
  unfold KeptOnRaise Keeps
  rcases float : detector.float emission.value with reason | value
  · have unread : detector.observeEmission rules emission running = (.error reason, running) := by
      rw [observeEmission, float]
      rfl
    rw [unread]
    exact iff_of_true (fun _ _ => rfl) fun _ read => by cases read
  · rw [observe_valued rules float running]
    simp only [Except.ok.injEq, forall_eq']
    by_cases same : running.state.contains emission.partitionKey = detector.compare value
    · rw [EmissionDetector.transition_steady _ _ same]
      refine iff_of_true (fun _ _ => rfl) fun anomalous new => ?_
      rw [anomalous, new] at same
      cases same
    · cases anomalous : detector.compare value with
      | false =>
          rw [anomalous] at same
          rw [EmissionDetector.transition_silent _ (Bool.eq_true_of_not_eq_false same)]
          exact iff_of_true (fun _ failed => by cases failed) fun impossible => by cases impossible
      | true =>
          rw [anomalous] at same
          have new := Bool.eq_false_of_not_eq_true same
          have changed : (EmissionDetector.mark emission.partitionKey running).state ≠
              running.state := by
            intro same
            have marked := EmissionDetector.contains_mark emission.partitionKey
              emission.partitionKey running
            rw [same, new] at marked
            simp at marked
          rw [EmissionDetector.transition_entering _ _ new]
          simp only [Except.map_raises, new, true_implies]
          rw [Call.forall_raises_iff changed, build_returns]

end AnomalyDetector

/-- For every history of each detector and every next input, a call that raises leaves the state
as it was exactly when nothing can raise once the state has changed. -/
theorem detectors_keep_state_iff {ω π ρ : Type} (rules : DetectionRules ω) :
    (∀ (detector : OfflineDetector ω π) (history : List (TelemetryEvent π))
      (running : OfflineDetector.Running ω) (event : TelemetryEvent π),
      OfflineDetector.Reached detector rules history running →
        (OfflineDetector.KeptOnRaise detector rules running event ↔
          OfflineDetector.Keeps detector rules running event)) ∧
    (∀ (detector : OutageDetector ω) (running : Running ω) (emission : WindowEmission Nat),
      OutageDetector.KeptOnRaise detector rules running emission ↔
        OutageDetector.Keeps detector rules running emission) ∧
    (∀ (detector : AnomalyDetector ρ) (running : Running ω) (emission : WindowEmission ρ),
      AnomalyDetector.KeptOnRaise detector rules running emission ↔
        AnomalyDetector.Keeps detector rules running emission) :=
  ⟨fun _ _ running _ reached => OfflineDetector.keptOnRaise_iff running reached.tracked,
    fun _ => OutageDetector.keptOnRaise_iff, fun _ => AnomalyDetector.keptOnRaise_iff⟩

section Samples

open OfflineDetector (Reached sampleDetector sampleRules sampleEvent sampleAfter
  sampleAfter_reached firstDevice secondDevice secondOfDay_lt)

theorem fourHundred_lt : 400 < 86400 := by decide

/-- The second device's event, 400 seconds after the first device's, under a version 1 id. -/
def versionOneEvent : TelemetryEvent Uuid :=
  { sampleEvent 2 secondDevice 400 fourHundred_lt with
    eventId := 0x11111111111111118111111111110002#128 }

/-- The detectors of one deployment: here nothing of the second device's event is refused, so the
first device is marked offline and the detection returned. -/
theorem detectors_keep_state_iff_sample :
    let running := sampleAfter [sampleEvent 1 firstDevice 0 (secondOfDay_lt 0)]
    let event := sampleEvent 2 secondDevice 400 (secondOfDay_lt 400)
    OfflineDetector.KeptOnRaise sampleDetector sampleRules running event ↔
      OfflineDetector.Keeps sampleDetector sampleRules running event :=
  (detectors_keep_state_iff (ρ := Nat) sampleRules).1 sampleDetector _ _ _ (sampleAfter_reached _)

/-- The first device is marked offline, its detection is refused for the event's id, and none is
returned. -/
theorem refused_detection_loses_transition :
    let history := [sampleEvent 1 firstDevice 0 (secondOfDay_lt 0)]
    let running := sampleAfter history
    Reached sampleDetector sampleRules history running ∧
      (sampleDetector.observeEvent sampleRules versionOneEvent running).1.map (fun _ => ()) =
        .error (.validationError ["source_event_id"]) ∧
      running.detector.state.get? firstDevice = some .seen ∧
      (sampleDetector.observeEvent sampleRules versionOneEvent running).2.detector.state.get?
        firstDevice = some .offline ∧
      ¬ OfflineDetector.KeptOnRaise sampleDetector sampleRules running versionOneEvent := by
  intro history running
  have refused : (sampleDetector.observeEvent sampleRules versionOneEvent running).1.map
      (fun _ => ()) = .error (.validationError ["source_event_id"]) := by decide +kernel
  have before : running.detector.state.get? firstDevice = some .seen := by decide +kernel
  have after : (sampleDetector.observeEvent sampleRules versionOneEvent
      running).2.detector.state.get? firstDevice = some .offline := by decide +kernel
  refine ⟨sampleAfter_reached history, refused, before, after, fun kept => ?_⟩
  cases outcome : (sampleDetector.observeEvent sampleRules versionOneEvent running).1 with
  | ok detections =>
      rw [outcome] at refused
      cases refused
  | error reason =>
      rw [kept reason outcome, before] at after
      cases after

end Samples

end SignalForge
