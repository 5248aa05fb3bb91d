import SignalForge.RealtimePipeline
import SignalForge.Unwinding

/-! What the stages of the pipeline leave as it is: no more is touched than by the components they
call. -/

set_option autoImplicit false

namespace SignalForge

namespace EventRouter

variable {ω π : Type}

/-- The key whose handlers an event is dispatched to. -/
def matched? (router : EventRouter ω π) (event : TelemetryEvent π) : Option RouteKey :=
  if router.handlers.contains (requestedKey event) then some (requestedKey event)
  else match resolveCompatibleKey router.digits (requestedKey event) router.handlers.keys with
    | .error _ => none
    | .ok compatible => compatible

/-- A dispatch that returned called the handlers of the matched key in turn, and those alone. -/
theorem dispatch_ok {router : EventRouter ω π} {event : TelemetryEvent π} {world after : ω}
    {dispatched : DispatchResult} (returned : router.dispatch event world = (.ok dispatched, after)) :
    ∃ counts, invoke router.strict event
      ((router.matched? event).elim [] fun key => (router.handlers.get? key).getD []) world =
        (.ok counts, after) := by
  have called : ∀ key fellBack, dispatchTo router event key fellBack world = (.ok dispatched, after) →
      ∃ counts, invoke router.strict event ((router.handlers.get? key).getD []) world =
        (.ok counts, after) := by
    intro key fellBack sent
    rw [dispatchTo] at sent
    generalize (router.handlers.get? key).getD [] = handlers at sent ⊢
    cases handlers with
    | nil =>
        cases sent
        exact ⟨(0, 0), rfl⟩
    | cons handler rest =>
        obtain ⟨counts, between, invoked, last⟩ := Call.bind_eq_ok.mp sent
        cases last
        exact ⟨counts, invoked⟩
  rw [dispatch] at returned
  rw [matched?]
  by_cases registered : router.handlers.contains (requestedKey event)
  · rw [if_pos registered] at returned ⊢
    exact called _ false returned
  · rw [if_neg registered] at returned ⊢
    obtain ⟨compatible, between, resolved, sent⟩ := Call.bind_eq_ok.mp returned
    simp only [Call.lift_apply, Prod.mk.injEq] at resolved
    obtain ⟨resolved, rfl⟩ := resolved
    rw [resolved]
    cases compatible with
    | none =>
        cases sent
        exact ⟨(0, 0), rfl⟩
    | some key => exact called key true sent

theorem frames_invoke {τ : Type} {view : ω → τ} (strict : Bool) {event : TelemetryEvent π}
    {handlers : List (TelemetryEvent π → Call Raised ω Unit)}
    (frames : ∀ handler ∈ handlers, Call.Frames view (handler event)) :
    Call.Frames view (invoke strict event handlers) := by
  induction handlers with
  | nil => exact Call.frames_pure _
  | cons handler rest ih =>
      obtain ⟨here, later⟩ := List.forall_mem_cons.mp frames
      exact ((here.bind fun _ => Call.frames_pure _).guarded _ _).bind fun _ =>
        (ih later).bind fun _ => Call.frames_pure _

/-- A dispatch leaves what all its handlers leave. -/
theorem frames_dispatch {τ : Type} {view : ω → τ} {router : EventRouter ω π}
    (frames : ∀ key, ∀ handler ∈ (router.handlers.get? key).getD [], ∀ event,
      Call.Frames view (handler event)) (event : TelemetryEvent π) :
    Call.Frames view (router.dispatch event) := by
  have sent : ∀ key fellBack, Call.Frames view (dispatchTo router event key fellBack) := by
    intro key fellBack
    rw [dispatchTo]
    have handlers := frames key
    generalize (router.handlers.get? key).getD [] = listed at handlers ⊢
    cases listed with
    | nil => exact Call.frames_pure _
    | cons handler rest =>
        exact (frames_invoke _ fun other member => handlers other member event).bind fun _ =>
          Call.frames_pure _
  rw [dispatch]
  split
  · exact sent _ false
  · refine (Call.frames_lift _).bind fun compatible => ?_
    cases compatible with
    | none => exact Call.frames_pure _
    | some key => exact sent key true

end EventRouter

namespace RealtimePipeline

variable {ω τ π ρ : Type} {view : ω → τ} {pipeline : RealtimePipeline ω π ρ}

/-- The key an extractor comes to: none where it raises or the key is empty. -/
def keyOf : Except Raised String → Option String
  | .error _ => none
  | .ok partitionKey => if partitionKey = "" then none else some partitionKey

theorem ne_empty_of_keyOf {extracted : Except Raised String} {partitionKey : String}
    (keyed : keyOf extracted = some partitionKey) : partitionKey ≠ "" := by
  rcases extracted with reason | key
  · cases keyed
  · rw [keyOf] at keyed
    split at keyed
    · cases keyed
    · rename_i named
      cases keyed
      exact named

/-- Extraction by a computation that reads and writes nothing. -/
theorem extractKey_lifted {event : TelemetryEvent π} {extracted : Except Raised String}
    (lifted : pipeline.extract event = Call.lift extracted) {world after : ω}
    {partitionKey : Option String}
    (returned : extractKey pipeline event world = (.ok partitionKey, after)) :
    after = world ∧ partitionKey = keyOf extracted := by
  rw [extractKey, lifted] at returned
  rcases extracted with reason | key
  · rcases Call.guarded_ok returned with keyed | ⟨⟨_, raised⟩, rfl⟩
    · cases keyed
    · cases raised
      exact ⟨rfl, rfl⟩
  · rw [keyOf]
    by_cases empty : key = ""
    · rw [if_pos empty]
      rcases Call.guarded_ok returned with keyed | ⟨⟨_, raised⟩, rfl⟩
      · rw [Call.bind_lift_of_ok rfl, if_pos empty] at keyed
        cases keyed
      · rw [Call.bind_lift_of_ok rfl, if_pos empty] at raised
        cases raised
        exact ⟨rfl, rfl⟩
    · rw [if_neg empty]
      rcases Call.guarded_ok returned with keyed | ⟨⟨_, raised⟩, rfl⟩
      · rw [Call.bind_lift_of_ok rfl, if_neg empty] at keyed
        cases keyed
        exact ⟨rfl, rfl⟩
      · rw [Call.bind_lift_of_ok rfl, if_neg empty] at raised
        cases raised

theorem frames_collect {α : Type} (strict : Bool) {calls : List (Call Raised ω (List α))}
    (frames : ∀ call ∈ calls, Call.Frames view call) : Call.Frames view (collect strict calls) := by
  induction calls with
  | nil => exact Call.frames_pure _
  | cons call rest ih =>
      obtain ⟨here, later⟩ := List.forall_mem_cons.mp frames
      exact (here.guarded strict []).bind fun _ => (ih later).bind fun _ => Call.frames_pure _

theorem frames_detect (fromEvents : ∀ detector ∈ pipeline.eventDetectors, ∀ event,
      Call.Frames view (detector event))
    (fromEmissions : ∀ name, ∀ detector ∈ (pipeline.emissionDetectors.get? name).getD [],
      ∀ emission, Call.Frames view (detector emission))
    (event : TelemetryEvent π) (emissions : List (WindowEmission ρ)) :
    Call.Frames view (detect pipeline event emissions) := by
  refine Call.Frames.bind (frames_collect _ ?_) fun _ =>
    Call.Frames.bind (frames_collect _ ?_) fun _ => Call.frames_pure _
  · intro call member
    obtain ⟨detector, listed, rfl⟩ := List.mem_map.mp member
    exact fromEvents detector listed event
  · intro call member
    obtain ⟨emission, _, mapped⟩ := List.mem_flatMap.mp member
    obtain ⟨detector, listed, rfl⟩ := List.mem_map.mp mapped
    exact fromEmissions _ detector listed emission

theorem frames_bundle {rules : FeatureRules ω ρ}
    (clock : ∀ world, view (rules.now world).2 = view world) (emissions : List (WindowEmission ρ)) :
    Call.Frames view (FeatureBundling.bundleFeatureEvents rules emissions) := by
  rw [FeatureBundling.bundleFeatureEvents]
  induction (FeatureBundling.groups emissions).entries with
  | nil => exact Call.frames_pure _
  | cons group rest ih =>
      have here : Call.Frames view (FeatureBundling.bundleGroup rules group) := by
        rw [FeatureBundling.bundleGroup]
        split
        · exact Call.frames_pure _
        · exact (Call.frames_lift _).bind fun _ => (Call.frames_lift _).bind fun _ =>
            Call.Frames.bind clock fun _ => (Call.frames_lift _).bind fun _ => Call.frames_pure _
      exact here.bind fun _ => ih.bind fun _ => Call.frames_pure _

theorem frames_routeAlerts (frames : ∀ route, pipeline.alertRouter = some route → ∀ detections,
    Call.Frames view (route detections)) (detections : List DetectionEvent) :
    Call.Frames view (routeAlerts pipeline detections) := by
  rw [routeAlerts]
  cases router : pipeline.alertRouter with
  | none => exact Call.frames_pure _
  | some route => exact (frames route router detections).guarded _ _

theorem frames_writeResult (frames : ∀ write, pipeline.datasetWriter = some write → ∀ result,
    Call.Frames view (write result)) (result : ProcessingResult ρ) :
    Call.Frames view (writeResult pipeline result) := by
  rw [writeResult]
  cases writer : pipeline.datasetWriter with
  | none => exact Call.frames_pure _
  | some write => exact (frames write writer result).guarded _ _

end RealtimePipeline

end SignalForge
