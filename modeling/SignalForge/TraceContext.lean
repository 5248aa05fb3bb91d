import Mathlib.Logic.Function.Basic
import SignalForge.Call

/-! The trace context of the structured logging package: a context variable, the operations that
start, continue and clear a trace, and the headers that carry one between services. -/

set_option autoImplicit false

namespace SignalForge

/-- Ids and stages are strings by annotation only; what a dictionary of headers holds under a
header's name is taken as it is. -/
structure TraceState (ν : Type) where
  traceId : ν
  spanId : ν
  parentSpanId : Option ν
  correlationId : Option ν
  pipelineStage : Option ν
  deriving DecidableEq

/-- Which values count as true, a string as a value, and the text of each `uuid4()` by the number
drawn before it. -/
structure TraceRuntime (ν : Type) where
  truthy : ν → Bool
  text : String → ν
  uuid4 : Nat → String

/-- The context variable, and how many ids were drawn so far. -/
structure TraceVariable (ν : Type) where
  context : Option (TraceState ν)
  drawn : Nat

/-- `headers.get`; `none` where the header is absent or holds None. -/
abbrev TraceHeaders (ν : Type) : Type := String → Option ν

namespace TraceContext

variable {ε ν α : Type} (runtime : TraceRuntime ν)

/-- `str(uuid.uuid4())`. -/
def drawId : Call ε (TraceVariable ν) ν := Call.total fun var =>
  (runtime.text (runtime.uuid4 var.drawn), { var with drawn := var.drawn + 1 })

def generateTraceId : Call ε (TraceVariable ν) ν := drawId runtime

def generateSpanId : Call ε (TraceVariable ν) ν := drawId runtime

def get : Call ε (TraceVariable ν) (Option (TraceState ν)) := Call.read (·.context)

/-- `_trace_context.set`. -/
def set (context : Option (TraceState ν)) : Call ε (TraceVariable ν) Unit :=
  Call.write fun var => { var with context }

def clear : Call ε (TraceVariable ν) Unit := set none

def endTrace : Call ε (TraceVariable ν) Unit := clear

def restore (previous : Option (TraceState ν)) : Call ε (TraceVariable ν) Unit :=
  match previous with
  | some state => set (some state)
  | none => clear

/-- A trace id that counts as false is replaced by a generated one. -/
def startTrace (traceId correlationId pipelineStage : Option ν) :
    Call ε (TraceVariable ν) (TraceState ν) := do
  let traceId ← match traceId.filter runtime.truthy with
    | some carried => pure carried
    | none => generateTraceId runtime
  let spanId ← generateSpanId runtime
  let state : TraceState ν :=
    { traceId, spanId, parentSpanId := none, correlationId, pipelineStage }
  set (some state)
  return state

def childTrace (pipelineStage : Option ν) : Call ε (TraceVariable ν) (TraceState ν) := do
  match ← get with
  | none => startTrace runtime none none pipelineStage
  | some current =>
      let spanId ← generateSpanId runtime
      let state : TraceState ν :=
        { traceId := current.traceId
          spanId
          parentSpanId := some current.spanId
          correlationId := current.correlationId
          pipelineStage := (pipelineStage.filter runtime.truthy).or current.pipelineStage }
      set (some state)
      return state

/-- `with span(stage): body`. -/
def span (pipelineStage : Option ν) (body : TraceState ν → Call ε (TraceVariable ν) α) :
    Call ε (TraceVariable ν) α := do
  let previous ← get
  let newSpan ← childTrace runtime pipelineStage
  Call.ensuring (body newSpan) (restore previous)

variable {runtime}

theorem startTrace_of_carried {traceId : Option ν} {carried : ν}
    (truthy : traceId.filter runtime.truthy = some carried)
    (correlationId pipelineStage : Option ν) (var : TraceVariable ν) :
    (startTrace runtime traceId correlationId pipelineStage : Call ε _ _) var =
      let state : TraceState ν :=
        ⟨carried, runtime.text (runtime.uuid4 var.drawn), none, correlationId, pipelineStage⟩
      (.ok state, ⟨some state, var.drawn + 1⟩) := by
  rw [startTrace, truthy]
  rfl

theorem startTrace_generated (correlationId pipelineStage : Option ν) (var : TraceVariable ν) :
    (startTrace runtime none correlationId pipelineStage : Call ε _ _) var =
      let state : TraceState ν :=
        ⟨runtime.text (runtime.uuid4 var.drawn), runtime.text (runtime.uuid4 (var.drawn + 1)), none,
          correlationId, pipelineStage⟩
      (.ok state, ⟨some state, var.drawn + 2⟩) := rfl

theorem childTrace_of_none {var : TraceVariable ν} (empty : var.context = none)
    (pipelineStage : Option ν) :
    (childTrace runtime pipelineStage : Call ε _ _) var =
      startTrace runtime none none pipelineStage var := by
  obtain ⟨context, drawn⟩ := var
  cases empty
  rfl

variable (ε runtime) in
theorem childTrace_of_some {var : TraceVariable ν} {current : TraceState ν}
    (held : var.context = some current) (pipelineStage : Option ν) :
    ∃ child, (childTrace runtime pipelineStage : Call ε _ _) var =
        (.ok child, ⟨some child, var.drawn + 1⟩) ∧
      child.traceId = current.traceId ∧ child.parentSpanId = some current.spanId := by
  obtain ⟨context, drawn⟩ := var
  cases held
  exact ⟨_, rfl, rfl, rfl⟩

theorem restore_eq (previous : Option (TraceState ν)) :
    (restore previous : Call ε (TraceVariable ν) Unit) = set previous := by
  cases previous <;> rfl

variable (ε runtime) in
theorem childTrace_returns (pipelineStage : Option ν) (var : TraceVariable ν) :
    (childTrace runtime pipelineStage : Call ε _ _).Returns var := by
  cases held : var.context with
  | none => exact ⟨_, _, childTrace_of_none held pipelineStage⟩
  | some current =>
      obtain ⟨child, opened, _⟩ := childTrace_of_some ε runtime held pipelineStage
      exact ⟨child, _, opened⟩

/-- The body runs in the new span; whether it returns or raises, the context found is set again. -/
theorem span_apply {pipelineStage : Option ν} {var between : TraceVariable ν} {newSpan : TraceState ν}
    (opened : (childTrace runtime pipelineStage : Call ε _ _) var = (.ok newSpan, between))
    (body : TraceState ν → Call ε (TraceVariable ν) α) :
    span runtime pipelineStage body var =
      ((body newSpan between).1, { (body newSpan between).2 with context := var.context }) := by
  have previous : (get : Call ε _ _) var = (.ok var.context, var) := rfl
  rw [span, Call.bind_of_ok previous, Call.bind_of_ok opened, restore_eq]
  rfl

/-- Whatever its body does, and whether it returns or raises, a span leaves the context it found. -/
theorem span_restores (pipelineStage : Option ν)
    (body : TraceState ν → Call ε (TraceVariable ν) α) (var : TraceVariable ν) :
    (span runtime pipelineStage body var).2.context = var.context := by
  obtain ⟨newSpan, between, opened⟩ :=
    childTrace_returns ε runtime pipelineStage var
  rw [span_apply opened]

end TraceContext

namespace TracePropagation

open TraceContext

variable {ε ν α : Type} (runtime : TraceRuntime ν)

def headerTraceId : String := "x-trace-id"

def headerSpanId : String := "x-trace-span-id"

def headerParentId : String := "x-trace-parent-id"

def headerCorrelationId : String := "x-trace-correlation-id"

def headerPipelineStage : String := "x-trace-pipeline-stage"

/-- The trace id the headers carry; one that counts as false is none. -/
def carriedTraceId (headers : TraceHeaders ν) : Option ν :=
  (headers headerTraceId).filter runtime.truthy

/-- A header is written for a value that counts as true. -/
def injectTruthy (name : String) (value : Option ν) (headers : TraceHeaders ν) : TraceHeaders ν :=
  match value.filter runtime.truthy with
  | some carried => Function.update headers name (some carried)
  | none => headers

def headersOf (state : TraceState ν) (headers : TraceHeaders ν) : TraceHeaders ν :=
  let headers := Function.update headers headerTraceId (some state.traceId)
  let headers := Function.update headers headerSpanId (some state.spanId)
  let headers := injectTruthy runtime headerParentId state.parentSpanId headers
  let headers := injectTruthy runtime headerCorrelationId state.correlationId headers
  injectTruthy runtime headerPipelineStage state.pipelineStage headers

def injectHeaders (headers : TraceHeaders ν) : Call ε (TraceVariable ν) (TraceHeaders ν) := do
  match ← get with
  | none => return headers
  | some state => return headersOf runtime state headers

def extractHeaders (headers : TraceHeaders ν) : Call ε (TraceVariable ν) Unit := do
  match carriedTraceId runtime headers with
  | none => return
  | some traceId =>
      let upstreamSpanId := headers headerSpanId
      let state ← startTrace runtime (some traceId) (headers headerCorrelationId)
        (headers headerPipelineStage)
      match upstreamSpanId.filter runtime.truthy with
      | none => return
      | some upstream => TraceContext.set (some { state with parentSpanId := some upstream })

variable {runtime}

theorem extractHeaders_of_none {headers : TraceHeaders ν}
    (absent : carriedTraceId runtime headers = none) (var : TraceVariable ν) :
    (extractHeaders runtime headers : Call ε _ _) var = (.ok (), var) := by
  rw [extractHeaders, absent]
  rfl

/-- The local span continues the trace the headers carry, under the span they name. -/
theorem extractHeaders_of_some {headers : TraceHeaders ν} {traceId : ν}
    (carried : carriedTraceId runtime headers = some traceId) (var : TraceVariable ν) :
    (extractHeaders runtime headers : Call ε _ _) var =
      (.ok (), ⟨some ⟨traceId, runtime.text (runtime.uuid4 var.drawn),
          (headers headerSpanId).filter runtime.truthy, headers headerCorrelationId,
          headers headerPipelineStage⟩, var.drawn + 1⟩) := by
  have truthy : (some traceId).filter runtime.truthy = some traceId := by
    rw [← carried, carriedTraceId, Option.filter_filter]
    simp only [Bool.and_self]
  rw [extractHeaders, carried]
  simp only
  rw [Call.bind_of_ok (startTrace_of_carried truthy _ _ var)]
  cases upstream : (headers headerSpanId).filter runtime.truthy <;> rfl

/-- A value that counts as false leaves what stood under the header. -/
theorem injectTruthy_self (name : String) (value : Option ν) (headers : TraceHeaders ν) :
    injectTruthy runtime name value headers name =
      (value.filter runtime.truthy).or (headers name) := by
  rw [injectTruthy]
  cases value.filter runtime.truthy with
  | none => rfl
  | some carried => exact Function.update_self name _ headers

theorem injectTruthy_of_ne {name other : String} (differ : other ≠ name) (value : Option ν)
    (headers : TraceHeaders ν) :
    injectTruthy runtime name value headers other = headers other := by
  rw [injectTruthy]
  cases value.filter runtime.truthy with
  | none => rfl
  | some carried => exact Function.update_of_ne differ _ headers

section

variable (state : TraceState ν) (headers : TraceHeaders ν)

theorem headersOf_traceId :
    headersOf runtime state headers headerTraceId = some state.traceId := by
  rw [headersOf, injectTruthy_of_ne (by decide), injectTruthy_of_ne (by decide),
    injectTruthy_of_ne (by decide), Function.update_of_ne (by decide), Function.update_self]

theorem headersOf_spanId : headersOf runtime state headers headerSpanId = some state.spanId := by
  rw [headersOf, injectTruthy_of_ne (by decide), injectTruthy_of_ne (by decide),
    injectTruthy_of_ne (by decide), Function.update_self]

theorem headersOf_correlationId :
    headersOf runtime state headers headerCorrelationId =
      (state.correlationId.filter runtime.truthy).or (headers headerCorrelationId) := by
  rw [headersOf, injectTruthy_of_ne (by decide), injectTruthy_self, injectTruthy_of_ne (by decide),
    Function.update_of_ne (by decide), Function.update_of_ne (by decide)]

theorem headersOf_pipelineStage :
    headersOf runtime state headers headerPipelineStage =
      (state.pipelineStage.filter runtime.truthy).or (headers headerPipelineStage) := by
  rw [headersOf, injectTruthy_self, injectTruthy_of_ne (by decide), injectTruthy_of_ne (by decide),
    Function.update_of_ne (by decide), Function.update_of_ne (by decide)]

end

/-- The headers written to a dictionary are read as the trace they were written for, with its span as
the parent; where the state has nothing to write, what stood there is read. -/
theorem extractHeaders_headersOf {state : TraceState ν}
    (truthy : runtime.truthy state.traceId = true) (headers : TraceHeaders ν)
    (var : TraceVariable ν) :
    (extractHeaders runtime (headersOf runtime state headers) : Call ε _ _) var =
      (.ok (), ⟨some ⟨state.traceId, runtime.text (runtime.uuid4 var.drawn),
          (some state.spanId).filter runtime.truthy,
          (state.correlationId.filter runtime.truthy).or (headers headerCorrelationId),
          (state.pipelineStage.filter runtime.truthy).or (headers headerPipelineStage)⟩,
        var.drawn + 1⟩) := by
  have carried : carriedTraceId runtime (headersOf runtime state headers) = some state.traceId := by
    rw [carriedTraceId, headersOf_traceId, Option.filter_some_pos truthy]
  rw [extractHeaders_of_some carried, headersOf_spanId, headersOf_correlationId,
    headersOf_pipelineStage]

end TracePropagation

end SignalForge
