import SignalForge.EmissionDetectors

/-! When an anomaly is reported: at an emission that meets the condition where the one before it on
its partition did not, whichever of the emissions in between could be read. -/

set_option autoImplicit false

namespace EdgeDetection

variable {ι κ : Type} [DecidableEq κ]

/-- Whether the condition held at the key's last item that tells. -/
def heldLast (key : ι → κ) (met? : ι → Option Bool) (items : List ι) (k : κ) : Bool :=
  ((items.filter fun item => key item = k).filterMap met?).getLast?.getD false

variable {key : ι → κ} {met? : ι → Option Bool}

theorem heldLast_nil (k : κ) : heldLast key met? [] k = false := rfl

theorem heldLast_of_ne (items : List ι) {item : ι} {k : κ} (other : key item ≠ k) :
    heldLast key met? (items ++ [item]) k = heldLast key met? items k := by
  rw [heldLast, List.filter_append, List.filter_cons_of_neg (by simpa using other),
    List.filter_nil, List.append_nil]
  rfl

theorem heldLast_of_none (items : List ι) {item : ι} (silent : met? item = none) (k : κ) :
    heldLast key met? (items ++ [item]) k = heldLast key met? items k := by
  by_cases own : key item = k
  · rw [heldLast, List.filter_append, List.filter_cons_of_pos (by simpa using own),
      List.filter_nil, List.filterMap_append, List.filterMap_cons_none silent, List.filterMap_nil,
      List.append_nil]
    rfl
  · exact heldLast_of_ne items own

theorem heldLast_of_some (items : List ι) {item : ι} {met : Bool} (tells : met? item = some met) :
    heldLast key met? (items ++ [item]) (key item) = met := by
  rw [heldLast, List.filter_append, List.filter_cons_of_pos (by simp), List.filter_nil,
    List.filterMap_append, List.filterMap_cons_some tells, List.filterMap_nil,
    List.getLast?_concat]
  rfl

end EdgeDetection

namespace SignalForge.AnomalyDetector

open EmissionDetector (Running observeAll transition contains_transition transition_steady
  transition_entering transition_silent)
open EdgeDetection

variable {ω ρ : Type} (detector : AnomalyDetector ρ) (rules : DetectionRules ω)

/-- Whether an emission is anomalous, where its value can be read. -/
def met? (emission : WindowEmission ρ) : Option Bool :=
  match detector.float emission.value with
  | .error _ => none
  | .ok value => some (detector.compare value)

/-- Whether the partition's last emission that could be read was anomalous. -/
def anomalous (emissions : List (WindowEmission ρ)) (partitionKey : String) : Bool :=
  heldLast WindowEmission.partitionKey detector.met? emissions partitionKey

/-- The detector after some emissions. -/
def after (emissions : List (WindowEmission ρ)) (world : ω) : Running ω :=
  (observeAll (observeEmission detector rules) emissions ⟨.empty, world⟩).2

variable {detector rules}

theorem met?_of_ok {emission : WindowEmission ρ} {value : Double}
    (read : detector.float emission.value = .ok value) :
    detector.met? emission = some (detector.compare value) := by
  rw [met?, read]

theorem met?_of_error {emission : WindowEmission ρ} {reason : Raised}
    (failed : detector.float emission.value = .error reason) : detector.met? emission = none := by
  rw [met?, failed]

theorem observeEmission_of_error {emission : WindowEmission ρ} {reason : Raised}
    (failed : detector.float emission.value = .error reason) (running : Running ω) :
    observeEmission detector rules emission running = (.error reason, running) := by
  rw [observeEmission, failed]
  rfl

theorem observeEmission_of_ok {emission : WindowEmission ρ} {value : Double}
    (read : detector.float emission.value = .ok value) (running : Running ω) :
    observeEmission detector rules emission running =
      transition emission.partitionKey (detector.compare value)
        (build rules (anomalyPayload detector rules value emission) emission) none running := by
  rw [observeEmission, read]
  rfl

/-- The detector keeps the partitions that were anomalous last, whatever raised on the way. -/
theorem contains_after (emissions : List (WindowEmission ρ)) (world : ω) (partitionKey : String) :
    (after detector rules emissions world).state.contains partitionKey =
      anomalous detector emissions partitionKey := by
  induction emissions using List.reverseRecOn with
  | nil => rfl
  | append_singleton emissions emission ih =>
      have last : after detector rules (emissions ++ [emission]) world =
          (observeEmission detector rules emission (after detector rules emissions world)).2 :=
        EmissionDetector.observeAll_concat _ emissions emission _
      rw [last, anomalous]
      rcases read : detector.float emission.value with reason | value
      · rw [observeEmission_of_error read, heldLast_of_none _ (met?_of_error read)]
        exact ih
      · rw [observeEmission_of_ok read, contains_transition]
        split
        · rename_i own
          rw [own, heldLast_of_some _ (met?_of_ok read)]
        · rename_i other
          rw [heldLast_of_ne _ (Ne.symm other)]
          exact ih

/-- What the detector answers after any emissions: a value that cannot be read raises; an anomalous
one is reported, or the report raises, exactly where the partition was not anomalous before; and
nothing else is reported. -/
theorem anomalies_at_onsets (emissions : List (WindowEmission ρ)) (emission : WindowEmission ρ)
    (world : ω) :
    (observeEmission detector rules emission (after detector rules emissions world)).1 =
      match detector.float emission.value with
      | .error reason => .error reason
      | .ok value =>
          if detector.compare value && !anomalous detector emissions emission.partitionKey then
            (build rules (anomalyPayload detector rules value emission) emission
              (after detector rules emissions world).world).1.map ([·])
          else .ok [] := by
  have held : (after detector rules emissions world).state.contains emission.partitionKey =
      anomalous detector emissions emission.partitionKey :=
    contains_after emissions world emission.partitionKey
  rcases read : detector.float emission.value with reason | value
  · rw [observeEmission_of_error read]
  · rw [observeEmission_of_ok read]
    show _ = if detector.compare value && !anomalous detector emissions emission.partitionKey then _
      else _
    rw [← held]
    cases met : detector.compare value with
    | false =>
        cases was : (after detector rules emissions world).state.contains emission.partitionKey with
        | false => exact congrArg Prod.fst (transition_steady _ _ was)
        | true => exact congrArg Prod.fst (transition_silent _ was)
    | true =>
        cases was : (after detector rules emissions world).state.contains emission.partitionKey with
        | false => exact congrArg Prod.fst (transition_entering _ _ was)
        | true => exact congrArg Prod.fst (transition_steady _ _ was)

end SignalForge.AnomalyDetector
