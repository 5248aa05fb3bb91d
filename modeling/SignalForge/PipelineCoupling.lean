import SignalForge.Coupling
import SignalForge.RealtimePipeline

/-! Two realtime pipelines side by side: where each stage of the one matches that of the other,
so do the results of every batch. -/

set_option autoImplicit false

namespace SignalForge

/-- The same items on both sides, each with the property. -/
def SameItems {α : Type} (property : α → Prop) (left right : List α) : Prop :=
  left = right ∧ ∀ item ∈ left, property item

theorem SameItems.append {α : Type} {property : α → Prop} {left right more others : List α}
    (here : SameItems property left right) (later : SameItems property more others) :
    SameItems property (left ++ more) (right ++ others) := by
  obtain ⟨rfl, all⟩ := here
  obtain ⟨rfl, rest⟩ := later
  exact ⟨rfl, fun item member => (List.mem_append.mp member).elim (all item) (rest item)⟩

theorem sameItems_nil {α : Type} (property : α → Prop) : SameItems property [] [] :=
  ⟨rfl, List.forall_mem_nil _⟩

namespace EventRouter

variable {ω ω' π : Type}

/-- The routers have handlers for the same keys, and the handlers of a key match in turn. -/
structure Coupled (states : ω → ω' → Prop) (admitted : TelemetryEvent π → Prop)
    (left : EventRouter ω π) (right : EventRouter ω' π) : Prop where
  strict : left.strict = right.strict
  digits : left.digits = right.digits
  keys : left.handlers.keys = right.handlers.keys
  contains : ∀ key, left.handlers.contains key = right.handlers.contains key
  handlers : ∀ key, List.Forall₂ (fun one other => ∀ event, admitted event →
      Call.Couples states (fun _ _ => True) (one event) (other event))
    ((left.handlers.get? key).getD []) ((right.handlers.get? key).getD [])

variable {states : ω → ω' → Prop} {event : TelemetryEvent π}

theorem couples_invoke (strict : Bool) {handlers : List (TelemetryEvent π → Call Raised ω Unit)}
    {others : List (TelemetryEvent π → Call Raised ω' Unit)}
    (coupled : List.Forall₂ (fun one other =>
      Call.Couples states (fun _ _ => True) (one event) (other event)) handlers others) :
    Call.Couples states Eq (invoke strict event handlers) (invoke strict event others) := by
  induction coupled with
  | nil => exact Call.couples_pure rfl
  | cons here _ ih =>
      rw [invoke, invoke]
      refine ((here.bind fun _ _ _ => Call.couples_pure rfl).guarded strict rfl).bind ?_
      rintro counted _ rfl
      refine ih.bind ?_
      rintro later _ rfl
      exact Call.couples_pure rfl

variable {admitted : TelemetryEvent π → Prop} {left : EventRouter ω π} {right : EventRouter ω' π}

theorem Coupled.dispatchTo (coupled : Coupled states admitted left right)
    (allowed : admitted event) (matched : RouteKey) (fellBack : Bool) :
    Call.Couples states Eq (dispatchTo left event matched fellBack)
      (dispatchTo right event matched fellBack) := by
  have handlers := coupled.handlers matched
  rw [EventRouter.dispatchTo, EventRouter.dispatchTo, coupled.strict]
  generalize (left.handlers.get? matched).getD [] = ones at handlers
  generalize (right.handlers.get? matched).getD [] = others at handlers
  cases handlers with
  | nil => exact Call.couples_pure rfl
  | cons here rest =>
      have invoked := couples_invoke right.strict
        (List.Forall₂.cons (here event allowed) (rest.imp fun _ _ later => later event allowed))
      refine invoked.bind ?_
      rintro counts _ rfl
      exact Call.couples_pure rfl

theorem Coupled.dispatch (coupled : Coupled states admitted left right)
    (allowed : admitted event) :
    Call.Couples states Eq (left.dispatch event) (right.dispatch event) := by
  rw [EventRouter.dispatch, EventRouter.dispatch, coupled.contains, coupled.digits, coupled.keys]
  split
  · exact coupled.dispatchTo allowed _ false
  · refine (Call.couples_lift (Call.matched_eq.mpr rfl)).bind ?_
    rintro compatible _ rfl
    cases compatible with
    | none => exact Call.couples_pure rfl
    | some matched => exact coupled.dispatchTo allowed matched true

end EventRouter

namespace RealtimePipeline

variable {ω ω' π ρ : Type}

theorem couples_collect {α : Type} {states : ω → ω' → Prop} {property : α → Prop} (strict : Bool)
    {calls : List (Call Raised ω (List α))} {others : List (Call Raised ω' (List α))}
    (coupled : List.Forall₂ (Call.Couples states (SameItems property)) calls others) :
    Call.Couples states (SameItems property) (collect strict calls) (collect strict others) := by
  induction coupled with
  | nil => exact Call.couples_pure (sameItems_nil property)
  | cons here _ ih =>
      rw [collect, collect]
      refine (here.guarded strict (sameItems_nil property)).bind fun items same found => ?_
      exact ih.bind fun later rest others => Call.couples_pure (found.append others)

/-- The results are the same but for their alerts, which are related. -/
structure Agree (alerts : List AlertEvent → List AlertEvent → Prop)
    (one other : ProcessingResult ρ) : Prop where
  same : { one with alerts := [] } = { other with alerts := [] }
  alerts : alerts one.alerts other.alerts

theorem agree_eq {one other : ProcessingResult ρ} : Agree Eq one other ↔ one = other := by
  constructor
  · rintro ⟨same, alerts⟩
    obtain ⟨⟩ := one
    obtain ⟨⟩ := other
    simp only [ProcessingResult.mk.injEq] at same alerts ⊢
    tauto
  · rintro rfl
    exact ⟨rfl, rfl⟩

/-- Each stage of the one pipeline matches that of the other: for the events admitted, on the
emissions that can be emitted and the detections that can be made of them. -/
structure Coupled (states : ω → ω' → Prop) (alerts : List AlertEvent → List AlertEvent → Prop)
    (admitted : TelemetryEvent π → Prop) (emitted : WindowEmission ρ → Prop)
    (detected : DetectionEvent → Prop) (left : RealtimePipeline ω π ρ)
    (right : RealtimePipeline ω' π ρ) : Prop where
  extracts : ∀ {event}, admitted event →
    Call.Couples states Eq (extractKey left event) (extractKey right event)
  aggregates : ∀ {event} partitionKey observation, admitted event →
    Call.Couples states (SameItems emitted) (aggregate left event partitionKey observation)
      (aggregate right event partitionKey observation)
  dispatches : ∀ {event}, admitted event →
    Call.Couples states Eq (left.router.dispatch event) (right.router.dispatch event)
  detects : ∀ {event emissions}, admitted event → (∀ emission ∈ emissions, emitted emission) →
    Call.Couples states (SameItems detected) (detect left event emissions)
      (detect right event emissions)
  routes : ∀ {detections}, (∀ detection ∈ detections, detected detection) →
    Call.Couples states alerts (routeAlerts left detections) (routeAlerts right detections)
  bundles : ∀ {emissions}, (∀ emission ∈ emissions, emitted emission) →
    Call.Couples states Eq (FeatureBundling.bundleFeatureEvents left.rules emissions)
      (FeatureBundling.bundleFeatureEvents right.rules emissions)
  writes : ∀ {one other}, Agree alerts one other →
    Call.Couples states (fun _ _ => True) (writeResult left one) (writeResult right other)

/-- The same watermarks, and components in the relation. -/
def StatesRelated (states : ω → ω' → Prop) (left : State ω) (right : State ω') : Prop :=
  left.watermarks = right.watermarks ∧ states left.components right.components

section

variable {states : ω → ω' → Prop} {alerts : List AlertEvent → List AlertEvent → Prop}
  {admitted : TelemetryEvent π → Prop} {emitted : WindowEmission ρ → Prop}
  {detected : DetectionEvent → Prop} {left : RealtimePipeline ω π ρ}
  {right : RealtimePipeline ω' π ρ} {event : TelemetryEvent π}

theorem couples_component {α β : Type} {values : α → β → Prop} {call : Call Raised ω α}
    {other : Call Raised ω' β} (coupled : Call.Couples states values call other) :
    Call.Couples (StatesRelated states) values (component call) (component other) :=
  coupled.zoom (fun _ _ related => related.2) fun _ _ related _ _ after => ⟨related.1, after⟩

theorem Coupled.processObserved (coupled : Coupled states alerts admitted emitted detected left right)
    (allowed : admitted event) (partitionKey : String)
    (observation : WatermarkObservation Datetime) :
    Call.Couples states (Agree alerts) (processObserved left event partitionKey observation)
      (processObserved right event partitionKey observation) := by
  rw [RealtimePipeline.processObserved, RealtimePipeline.processObserved]
  refine (coupled.aggregates partitionKey observation allowed).bind ?_
  rintro emissions _ ⟨rfl, listed⟩
  refine (coupled.dispatches allowed).bind ?_
  rintro dispatched _ rfl
  refine (coupled.detects allowed listed).bind ?_
  rintro detections _ ⟨rfl, found⟩
  refine (coupled.routes found).bind fun routed others related => ?_
  refine (coupled.bundles listed).bind ?_
  rintro features _ rfl
  have agree : Agree alerts
      { eventId := String.ofList event.eventId.text, partitionKey := some partitionKey,
        classification := some observation.classification,
        handlersInvoked := dispatched.handlersInvoked,
        handlerFailures := dispatched.handlerFailures, emissions := emissions,
        detections := detections, alerts := routed, extractionFailed := false,
        features := features : ProcessingResult ρ }
      { eventId := String.ofList event.eventId.text, partitionKey := some partitionKey,
        classification := some observation.classification,
        handlersInvoked := dispatched.handlersInvoked,
        handlerFailures := dispatched.handlerFailures, emissions := emissions,
        detections := detections, alerts := others, extractionFailed := false,
        features := features : ProcessingResult ρ } := ⟨rfl, related⟩
  exact (coupled.writes agree).bind fun _ _ _ => Call.couples_pure agree

theorem Coupled.process (coupled : Coupled states alerts admitted emitted detected left right)
    (none : alerts [] []) (allowed : admitted event) :
    Call.Couples (StatesRelated states) (Agree alerts) (process left event)
      (process right event) := by
  rw [RealtimePipeline.process, RealtimePipeline.process]
  refine (couples_component (coupled.extracts allowed)).bind ?_
  rintro partitionKey _ rfl
  cases partitionKey with
  | none => exact Call.couples_pure ⟨rfl, none⟩
  | some partitionKey =>
      have observed : Call.Couples (StatesRelated states) Eq
          (Call.zoom State.watermarks (fun state watermarks => { state with watermarks })
            (WatermarkManager.observe partitionKey event.eventTimestamp))
          (Call.zoom State.watermarks (fun state watermarks => { state with watermarks })
            (WatermarkManager.observe partitionKey event.eventTimestamp)) := by
        rintro here there ⟨same, related⟩
        refine ⟨?_, ?_, related⟩ <;> simp only [Call.zoom, same]
        exact Call.matched_eq.mpr rfl
      rw [processKeyed, processKeyed]
      refine observed.bind ?_
      rintro observation _ rfl
      exact couples_component (coupled.processObserved allowed partitionKey observation)

theorem Agree.count {one other : ProcessingResult ρ} (agree : Agree alerts one other)
    (summary : BatchSummary) : count summary one = count summary other := by
  have counted := congrArg (RealtimePipeline.count summary) agree.same
  exact counted

theorem Coupled.batchLoop (coupled : Coupled states alerts admitted emitted detected left right)
    (none : alerts [] []) {events : List (TelemetryEvent π)}
    (allowed : ∀ event ∈ events, admitted event) {results others : List (ProcessingResult ρ)}
    (agree : List.Forall₂ (Agree alerts) results others) (summary : BatchSummary) :
    Call.Couples (StatesRelated states)
      (fun one other => List.Forall₂ (Agree alerts) one.1 other.1 ∧ one.2 = other.2)
      (batchLoop left events results summary) (batchLoop right events others summary) := by
  induction events generalizing results others summary with
  | nil => exact Call.couples_pure ⟨agree, rfl⟩
  | cons event rest ih =>
      obtain ⟨here, later⟩ := List.forall_mem_cons.mp allowed
      rw [RealtimePipeline.batchLoop, RealtimePipeline.batchLoop]
      refine (coupled.process none here).bind fun result same agreed => ?_
      rw [agreed.count]
      exact ih later (List.rel_append agree (.cons agreed .nil)) _

/-- Batches of the same events come to results that agree, and to the same summary. -/
theorem Coupled.processBatch (coupled : Coupled states alerts admitted emitted detected left right)
    (none : alerts [] []) {events : List (TelemetryEvent π)}
    (allowed : ∀ event ∈ events, admitted event) :
    Call.Couples (StatesRelated states)
      (fun one other => List.Forall₂ (Agree alerts) one.1 other.1 ∧ one.2 = other.2)
      (processBatch left events) (processBatch right events) := by
  rw [RealtimePipeline.processBatch, RealtimePipeline.processBatch]
  refine (coupled.batchLoop none allowed .nil {}).bind ?_
  rintro ⟨results, summary⟩ ⟨others, _⟩ ⟨agree, rfl⟩
  refine Call.couples_pure ⟨agree, ?_⟩
  rw [agree.length_eq]

end

end RealtimePipeline

end SignalForge
