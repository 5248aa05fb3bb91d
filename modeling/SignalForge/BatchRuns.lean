import SignalForge.RealtimePipeline

/-! Batches as runs: what a batch returns is what its events return one after the other, its
summary is the totals of that, and the cut of a stream into batches does not show. -/

set_option autoImplicit false

namespace SignalForge

/-- The counters of two batches together. -/
def BatchSummary.plus (first second : BatchSummary) : BatchSummary where
  events := first.events + second.events
  onTime := first.onTime + second.onTime
  lateTolerated := first.lateTolerated + second.lateTolerated
  lateDropped := first.lateDropped + second.lateDropped
  extractionFailures := first.extractionFailures + second.extractionFailures
  emissions := first.emissions + second.emissions
  detections := first.detections + second.detections

namespace RealtimePipeline

variable {ω π ρ : Type}

/-- Events processed one after the other, with the results so far lost where one raises. -/
def processAll (pipeline : RealtimePipeline ω π ρ) :
    List (TelemetryEvent π) → Call Raised (State ω) (List (ProcessingResult ρ))
  | [] => pure []
  | event :: rest => do
      let result ← process pipeline event
      let later ← processAll pipeline rest
      pure (result :: later)

/-- Batches processed one after the other, with the results and the summary of each. -/
def processBatches (pipeline : RealtimePipeline ω π ρ) : List (List (TelemetryEvent π)) →
    Call Raised (State ω) (List (List (ProcessingResult ρ) × BatchSummary))
  | [] => pure []
  | batch :: rest => do
      let processed ← processBatch pipeline batch
      let later ← processBatches pipeline rest
      pure (processed :: later)

/-- The results of some batches in turn, and their counters together. -/
def joined (processed : List (List (ProcessingResult ρ) × BatchSummary)) :
    List (ProcessingResult ρ) × BatchSummary :=
  (processed.flatMap Prod.fst, (processed.map Prod.snd).foldr BatchSummary.plus {})

/-- The results classified as this, extraction failures apart. -/
def classified (classification : EventClassification) (results : List (ProcessingResult ρ)) : Nat :=
  results.countP fun result =>
    !result.extractionFailed && result.classification = some classification

/-- The counters of the summary as totals over the results. -/
def totals (results : List (ProcessingResult ρ)) : BatchSummary where
  events := results.length
  onTime := classified .onTime results
  lateTolerated := classified .lateTolerated results
  lateDropped := classified .lateDropped results
  extractionFailures := results.countP (·.extractionFailed)
  emissions := (results.map (·.emissions.length)).sum
  detections := (results.map (·.detections.length)).sum

variable {pipeline : RealtimePipeline ω π ρ}

theorem batchLoop_eq (events : List (TelemetryEvent π)) (results : List (ProcessingResult ρ))
    (summary : BatchSummary) :
    batchLoop pipeline events results summary = processAll pipeline events >>= fun found =>
      pure (results ++ found, found.foldl count summary) := by
  induction events generalizing results summary with
  | nil => rw [batchLoop, processAll, Call.pure_bind, List.append_nil, List.foldl_nil]
  | cons event rest ih =>
      rw [batchLoop, processAll, Call.bind_assoc]
      congr 1
      funext result
      rw [ih, Call.bind_assoc]
      congr 1
      funext found
      rw [Call.pure_bind, List.append_assoc, List.singleton_append, List.foldl_cons]

theorem processAll_append (first second : List (TelemetryEvent π)) :
    processAll pipeline (first ++ second) = processAll pipeline first >>= fun results =>
      processAll pipeline second >>= fun later => pure (results ++ later) := by
  induction first with
  | nil =>
      rw [List.nil_append, processAll, Call.pure_bind]
      funext state
      rw [Call.bind_apply]
      rcases processAll pipeline second state with ⟨reason | later, after⟩ <;> rfl
  | cons event rest ih =>
      rw [List.cons_append, processAll, processAll, ih, Call.bind_assoc]
      congr 1
      funext result
      rw [Call.bind_assoc, Call.bind_assoc]
      congr 1
      funext results
      rw [Call.bind_assoc, Call.pure_bind]
      congr 1

/-- One more result counted at the end of the totals. -/
theorem count_totals (results : List (ProcessingResult ρ)) (result : ProcessingResult ρ) :
    { count (totals results) result with events := results.length + 1 } =
      totals (results ++ [result]) := by
  rcases failed : result.extractionFailed with _ | _
  · rcases found : result.classification with _ | (_ | _ | _) <;>
      simp [count, totals, classified, failed, found, List.countP_append]
  · simp [count, totals, classified, failed, List.countP_append]

/-- The loop does not count the events themselves. -/
theorem count_events (summary : BatchSummary) (events : Nat) (result : ProcessingResult ρ) :
    count { summary with events } result = { count summary result with events } := by
  simp only [count]
  split
  · rfl
  · split <;> rfl

theorem foldl_count (results : List (ProcessingResult ρ)) :
    { results.foldl count {} with events := results.length } = totals results := by
  induction results using List.reverseRecOn with
  | nil => rfl
  | append_singleton results result ih =>
      rw [List.foldl_concat, ← count_totals, ← ih, List.length_append]
      exact congrArg (fun summary : BatchSummary => { summary with events := results.length + 1 })
        (count_events (results.foldl count {}) results.length result).symm

/-- What a batch returns, and the summary it logs. -/
theorem processBatch_eq (events : List (TelemetryEvent π)) :
    processBatch pipeline events = processAll pipeline events >>= fun results =>
      pure (results, totals results) := by
  rw [processBatch, batchLoop_eq, Call.bind_assoc]
  congr 1
  funext results
  rw [Call.pure_bind, List.nil_append]
  exact congrArg (fun summary => pure (results, summary)) (foldl_count results)

theorem classified_append (classification : EventClassification)
    (first second : List (ProcessingResult ρ)) :
    classified classification (first ++ second) =
      classified classification first + classified classification second :=
  List.countP_append ..

theorem totals_append (first second : List (ProcessingResult ρ)) :
    totals (first ++ second) = (totals first).plus (totals second) := by
  simp only [totals, BatchSummary.plus, classified_append, List.length_append, List.countP_append,
    List.map_append, List.sum_append_nat]

theorem processBatch_append (first second : List (TelemetryEvent π)) :
    processBatch pipeline (first ++ second) = processBatch pipeline first >>= fun processed =>
      processBatch pipeline second >>= fun later =>
        pure (processed.1 ++ later.1, processed.2.plus later.2) := by
  simp only [processBatch_eq, processAll_append, Call.bind_assoc, Call.pure_bind, totals_append]

/-- However a stream is cut into batches, they come together to what one batch of the whole stream
comes to: the same results, and summaries that add up to its summary. -/
theorem processBatch_flatten (pipeline : RealtimePipeline ω π ρ)
    (batches : List (List (TelemetryEvent π))) :
    processBatch pipeline batches.flatten = processBatches pipeline batches >>= fun processed =>
      pure (joined processed) := by
  induction batches with
  | nil => rfl
  | cons batch rest ih =>
      rw [List.flatten_cons, processBatch_append, processBatches, ih]
      simp only [Call.bind_assoc, Call.pure_bind]
      rfl

end RealtimePipeline

end SignalForge
