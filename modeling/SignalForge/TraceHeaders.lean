import SignalForge.LoggingAdapters

/-! A trace handed from one service to another in a dictionary of headers that may hold some already:
what the state leaves unwritten is read from what stood there. -/

set_option autoImplicit false

namespace SignalForge.TracePropagation

open TraceContext

variable {ν : Type} (ε : Type) (runtime : TraceRuntime ν)

/-- The states `start_trace`, `child_trace` and `span` set, over contexts they or inbound headers
set. -/
inductive Produced : TraceState ν → Prop
  | started {traceId correlationId pipelineStage : Option ν} {var after : TraceVariable ν}
      {state : TraceState ν}
      (returned : (startTrace runtime traceId correlationId pipelineStage : Call ε _ _) var =
        (.ok state, after)) : Produced state
  | child {pipelineStage : Option ν} {var after : TraceVariable ν} {state : TraceState ν}
      (held : ∀ current ∈ var.context, Produced current)
      (returned : (childTrace runtime pipelineStage : Call ε _ _) var = (.ok state, after)) :
      Produced state
  | spanned {pipelineStage : Option ν} {var after : TraceVariable ν} {state : TraceState ν}
      (held : ∀ current ∈ var.context, Produced current)
      (returned : (span runtime pipelineStage pure : Call ε _ _) var = (.ok state, after)) :
      Produced state
  | extracted {headers : TraceHeaders ν} {var after : TraceVariable ν} {state : TraceState ν}
      (held : ∀ current ∈ var.context, Produced current)
      (returned : (extractHeaders runtime headers : Call ε _ _) var = (.ok (), after))
      (left : after.context = some state) : Produced state

/-- What a service whose context is fresh is left with by the headers another one injects. -/
def handOver (sender : TraceVariable ν) (headers : TraceHeaders ν) (drawn : Nat) :
    Except ε Unit × TraceVariable ν :=
  match (injectHeaders runtime headers : Call ε _ _) sender with
  | (.ok injected, _) => extractHeaders runtime injected ⟨none, drawn⟩
  | (.error reason, _) => (.error reason, ⟨none, drawn⟩)

/-- The trace is restored under a span of its own, and nothing else the dictionary held is. -/
structure Restores (state : TraceState ν) (headers : TraceHeaders ν) : Prop where
  restored : ∀ sender : TraceVariable ν, sender.context = some state → ∀ drawn,
    handOver ε runtime sender headers drawn =
      (.ok (), ⟨some ⟨state.traceId, runtime.text (runtime.uuid4 drawn), some state.spanId,
        state.correlationId, state.pipelineStage⟩, drawn + 1⟩)
  forgotten : ∀ sender : TraceVariable ν, sender.context = some state → ∀ drawn,
    handOver ε runtime sender headers drawn = handOver ε runtime sender (fun _ => none) drawn

/-- The state has a value to write under the header, or neither it nor the dictionary has any. -/
def Settled (name : String) (value : Option ν) (headers : TraceHeaders ν) : Prop :=
  (∃ carried, value = some carried ∧ runtime.truthy carried = true) ∨
    value = none ∧ headers name = none

variable {ε runtime}

theorem settled_iff {name : String} {value : Option ν} {headers : TraceHeaders ν} :
    Settled runtime name value headers ↔
      (value.filter runtime.truthy).or (headers name) = value ∧
        value.filter runtime.truthy = (value.filter runtime.truthy).or (headers name) := by
  constructor
  · rintro (⟨carried, rfl, truthy⟩ | ⟨rfl, absent⟩)
    · rw [Option.filter_some_pos truthy]
      exact ⟨rfl, rfl⟩
    · rw [absent]
      exact ⟨rfl, rfl⟩
  · rintro ⟨restored, forgotten⟩
    rw [restored] at forgotten
    cases value with
    | none => exact Or.inr ⟨rfl, restored⟩
    | some carried =>
        refine Or.inl ⟨carried, rfl, ?_⟩
        exact (Option.filter_eq_some_iff.mp forgotten).2

/-- What is handed over is read back from the headers the state overwrites and those it leaves. -/
theorem handOver_eq {state : TraceState ν} (truthy : runtime.truthy state.traceId = true)
    {sender : TraceVariable ν} (held : sender.context = some state) (headers : TraceHeaders ν)
    (drawn : Nat) :
    handOver ε runtime sender headers drawn =
      (.ok (), ⟨some ⟨state.traceId, runtime.text (runtime.uuid4 drawn),
          (some state.spanId).filter runtime.truthy,
          (state.correlationId.filter runtime.truthy).or (headers headerCorrelationId),
          (state.pipelineStage.filter runtime.truthy).or (headers headerPipelineStage)⟩,
        drawn + 1⟩) := by
  obtain ⟨context, sent⟩ := sender
  cases held
  exact extractHeaders_headersOf truthy headers ⟨none, drawn⟩

theorem restores_of_truthy {state : TraceState ν} (trace : runtime.truthy state.traceId = true)
    (span : runtime.truthy state.spanId = true) {headers : TraceHeaders ν} :
    Restores ε runtime state headers ↔
      Settled runtime headerCorrelationId state.correlationId headers ∧
        Settled runtime headerPipelineStage state.pipelineStage headers := by
  rw [settled_iff, settled_iff]
  constructor
  · intro restores
    have restored := restores.restored ⟨some state, 0⟩ rfl 0
    have forgotten := restores.forgotten ⟨some state, 0⟩ rfl 0
    rw [handOver_eq trace rfl] at restored forgotten
    rw [handOver_eq trace rfl] at forgotten
    simp only [Prod.mk.injEq, true_and, TraceVariable.mk.injEq, Option.some.injEq,
      TraceState.mk.injEq, and_true, Option.or_none] at restored forgotten
    exact ⟨⟨restored.2.1, forgotten.1.symm⟩, restored.2.2, forgotten.2.symm⟩
  · rintro ⟨⟨correlation, leftCorrelation⟩, stage, leftStage⟩
    constructor
    · intro sender held drawn
      rw [handOver_eq trace held, Option.filter_some_pos span, correlation, stage]
    · intro sender held drawn
      rw [handOver_eq trace held, handOver_eq trace held, ← leftCorrelation, ← leftStage,
        Option.or_none, Option.or_none]

section Ids

variable (ids : ∀ number, runtime.truthy (runtime.text (runtime.uuid4 number)) = true)

include ids

theorem startTrace_truthy {traceId correlationId pipelineStage : Option ν}
    {var after : TraceVariable ν} {state : TraceState ν}
    (returned : (startTrace runtime traceId correlationId pipelineStage : Call ε _ _) var =
      (.ok state, after)) :
    runtime.truthy state.traceId = true ∧ runtime.truthy state.spanId = true := by
  cases carried : traceId.filter runtime.truthy with
  | none =>
      rw [startTrace, carried] at returned
      cases returned
      exact ⟨ids _, ids _⟩
  | some given =>
      rw [startTrace_of_carried carried] at returned
      cases returned
      exact ⟨(Option.filter_eq_some_iff.mp carried).2, ids _⟩

theorem childTrace_truthy {pipelineStage : Option ν} {var after : TraceVariable ν}
    {state : TraceState ν}
    (held : ∀ current ∈ var.context, runtime.truthy current.traceId = true)
    (returned : (childTrace runtime pipelineStage : Call ε _ _) var = (.ok state, after)) :
    runtime.truthy state.traceId = true ∧ runtime.truthy state.spanId = true := by
  obtain ⟨context, drawn⟩ := var
  cases context with
  | none =>
      rw [childTrace_of_none rfl] at returned
      exact startTrace_truthy ids returned
  | some current =>
      have same := Except.ok.inj (congrArg Prod.fst returned)
      rw [← same]
      exact ⟨held current rfl, ids _⟩

theorem Produced.truthy {state : TraceState ν} (produced : Produced ε runtime state) :
    runtime.truthy state.traceId = true ∧ runtime.truthy state.spanId = true := by
  induction produced with
  | started returned => exact startTrace_truthy ids returned
  | child held returned ih =>
      exact childTrace_truthy ids (fun current here => (ih current here).1) returned
  | @spanned pipelineStage var after state held returned ih =>
      obtain ⟨newSpan, between, opened⟩ := childTrace_returns ε runtime pipelineStage var
      rw [span_apply opened] at returned
      cases returned
      exact childTrace_truthy ids (fun current here => (ih current here).1) opened
  | @extracted headers var after state held returned left ih =>
      cases carried : carriedTraceId runtime headers with
      | none =>
          rw [extractHeaders_of_none carried] at returned
          cases returned
          exact ih state left
      | some traceId =>
          rw [extractHeaders_of_some carried] at returned
          cases returned
          cases left
          exact ⟨(Option.filter_eq_some_iff.mp carried).2, ids _⟩

end Ids

/-- A trace is restored exactly where each of its correlation id and its stage is either written or
absent from the state and from the dictionary. -/
theorem restores_iff_settled
    (ids : ∀ number, runtime.truthy (runtime.text (runtime.uuid4 number)) = true)
    {state : TraceState ν} (produced : Produced ε runtime state) (headers : TraceHeaders ν) :
    Restores ε runtime state headers ↔
      Settled runtime headerCorrelationId state.correlationId headers ∧
        Settled runtime headerPipelineStage state.pipelineStage headers := by
  obtain ⟨trace, span⟩ := produced.truthy ids
  exact restores_of_truthy trace span

section Samples

open Invocation (sampleRuntime)

/-- A trace started without a correlation id. -/
def uncorrelated : TraceState String := ⟨"0", "00", none, none, some "ingest"⟩

theorem uncorrelated_produced : Produced Unit sampleRuntime uncorrelated :=
  .started (show startTrace sampleRuntime none none (some "ingest") ⟨none, 0⟩ =
    (.ok uncorrelated, ⟨some uncorrelated, 2⟩) from rfl)

theorem sampleRuntime_ids (number : Nat) :
    sampleRuntime.truthy (sampleRuntime.text (sampleRuntime.uuid4 number)) = true := by
  apply decide_eq_true
  intro empty
  have texts : (String.ofList (List.replicate (number + 1) '0')).toList = [] :=
    congrArg String.toList empty
  rw [String.toList_ofList] at texts
  cases texts

theorem restores_iff_settled_sample :
    Restores Unit sampleRuntime uncorrelated fun _ => none :=
  (restores_iff_settled sampleRuntime_ids uncorrelated_produced _).mpr
    ⟨Or.inr ⟨rfl, rfl⟩, Or.inl ⟨"ingest", rfl, rfl⟩⟩

/-- The headers of an inbound request that named a correlation id. -/
def inboundHeaders : TraceHeaders String :=
  Function.update (fun _ => none) headerCorrelationId (some "order-7")

/-- Injected into them, the trace is handed over with the correlation id of the request. -/
theorem stale_correlation_survives :
    Produced Unit sampleRuntime uncorrelated ∧ uncorrelated.correlationId = none ∧
      ((handOver Unit sampleRuntime ⟨some uncorrelated, 2⟩ inboundHeaders 0).2.context.bind
        TraceState.correlationId) = some "order-7" ∧
      ¬ Restores Unit sampleRuntime uncorrelated inboundHeaders := by
  have survives : ((handOver Unit sampleRuntime ⟨some uncorrelated, 2⟩ inboundHeaders 0).2.context.bind
      TraceState.correlationId) = some "order-7" := by decide
  refine ⟨uncorrelated_produced, rfl, survives, ?_⟩
  intro restores
  rw [restores.restored ⟨some uncorrelated, 2⟩ rfl 0] at survives
  cases survives

end Samples

end SignalForge.TracePropagation
