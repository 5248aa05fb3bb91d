import SignalForge.TraceContext

/-! The Lambda, worker and FastAPI logging adapters over one context variable, and which trace each
invocation of a sequence runs under. Their log records are left out: a logger reads the context and
writes nothing to it. -/

set_option autoImplicit false

namespace SignalForge

open TraceContext TracePropagation

section

variable {ε ν α : Type} (runtime : TraceRuntime ν)

/-- `if isinstance(event, dict): extract_headers(event)`. -/
def restoreTrace (headers : Option (TraceHeaders ν)) : Call ε (TraceVariable ν) Unit :=
  match headers with
  | some headers => extractHeaders runtime headers
  | none => pure ()

/-- How every adapter sets up the trace its handler runs under. -/
def openTrace (headers : Option (TraceHeaders ν)) (pipelineStage : String) :
    Call ε (TraceVariable ν) (TraceState ν) := do
  restoreTrace runtime headers
  match ← TraceContext.get with
  | none => startTrace runtime none none (some (runtime.text pipelineStage))
  | some _ => childTrace runtime (some (runtime.text pipelineStage))

/-- The trace is ended however the handler ends. -/
def tracedCall (headers : Option (TraceHeaders ν)) (pipelineStage : String)
    (handler : Call ε (TraceVariable ν) α) : Call ε (TraceVariable ν) α := do
  let _ ← openTrace runtime headers pipelineStage
  Call.ensuring handler endTrace

/-- The wrapper of `lambda_logging_handler`. It has no `finally`: nothing ends the trace. -/
def lambdaLoggingHandler (event : Option (TraceHeaders ν))
    (handler : Call ε (TraceVariable ν) α) : Call ε (TraceVariable ν) α := do
  let _ ← openTrace runtime event "lambda_invocation"
  handler

/-- The wrapper of `worker_logging_handler` for a function. -/
def syncWorkerLoggingHandler (message : Option (TraceHeaders ν))
    (handler : Call ε (TraceVariable ν) α) : Call ε (TraceVariable ν) α :=
  tracedCall runtime message "worker_execution" handler

/-- The wrapper of `worker_logging_handler` for a coroutine function, a cancelled one included. -/
def asyncWorkerLoggingHandler (message : Option (TraceHeaders ν))
    (handler : Call ε (TraceVariable ν) α) : Call ε (TraceVariable ν) α :=
  tracedCall runtime message "worker_execution" handler

/-- `FastAPILoggingMiddleware.dispatch`. -/
def dispatch (headers : TraceHeaders ν) (callNext : Call ε (TraceVariable ν) α) :
    Call ε (TraceVariable ν) α :=
  tracedCall runtime (some headers) "api_request" callNext

variable {runtime}

theorem restoreTrace_of_none {headers : Option (TraceHeaders ν)}
    (absent : headers.bind (carriedTraceId runtime) = none) (var : TraceVariable ν) :
    (restoreTrace runtime headers : Call ε _ _) var = (.ok (), var) := by
  cases headers with
  | none => rfl
  | some headers => exact extractHeaders_of_none absent var

variable (ε) in
theorem restoreTrace_of_some {headers : Option (TraceHeaders ν)} {traceId : ν}
    (carried : headers.bind (carriedTraceId runtime) = some traceId) (var : TraceVariable ν) :
    ∃ trace, (restoreTrace runtime headers : Call ε _ _) var =
      (.ok (), ⟨some trace, var.drawn + 1⟩) ∧ trace.traceId = traceId := by
  cases headers with
  | none => cases carried
  | some headers => exact ⟨_, extractHeaders_of_some carried var, rfl⟩

variable (ε) in
/-- Headers that carry a trace id decide the trace, whatever was in the context. -/
theorem openTrace_of_carried {headers : Option (TraceHeaders ν)} {traceId : ν}
    (carried : headers.bind (carriedTraceId runtime) = some traceId) (pipelineStage : String)
    (var : TraceVariable ν) :
    ∃ trace, (openTrace runtime headers pipelineStage : Call ε _ _) var =
      (.ok trace, ⟨some trace, var.drawn + 2⟩) ∧ trace.traceId = traceId := by
  obtain ⟨upstream, restored, same⟩ := restoreTrace_of_some ε carried var
  have held : (⟨some upstream, var.drawn + 1⟩ : TraceVariable ν).context = some upstream := rfl
  obtain ⟨trace, opened, inherited, _⟩ :=
    childTrace_of_some ε runtime held (some (runtime.text pipelineStage))
  refine ⟨trace, ?_, inherited.trans same⟩
  rw [openTrace, Call.bind_of_ok restored]
  exact opened

variable (ε) in
/-- Without one, an empty context gets a trace of its own. -/
theorem openTrace_of_empty {headers : Option (TraceHeaders ν)}
    (absent : headers.bind (carriedTraceId runtime) = none) (pipelineStage : String)
    {var : TraceVariable ν} (empty : var.context = none) :
    (openTrace runtime headers pipelineStage : Call ε _ _) var =
      startTrace runtime none none (some (runtime.text pipelineStage)) var := by
  obtain ⟨context, drawn⟩ := var
  cases empty
  rw [openTrace, Call.bind_of_ok (restoreTrace_of_none absent _)]
  rfl

variable (ε) in
/-- Without one, what is still in the context becomes the parent. -/
theorem openTrace_of_held {headers : Option (TraceHeaders ν)}
    (absent : headers.bind (carriedTraceId runtime) = none) (pipelineStage : String)
    {var : TraceVariable ν} {current : TraceState ν} (held : var.context = some current) :
    ∃ trace, (openTrace runtime headers pipelineStage : Call ε _ _) var =
        (.ok trace, ⟨some trace, var.drawn + 1⟩) ∧
      trace.traceId = current.traceId ∧ trace.parentSpanId = some current.spanId := by
  obtain ⟨trace, opened, inherited⟩ :=
    childTrace_of_some ε runtime held (some (runtime.text pipelineStage))
  refine ⟨trace, ?_, inherited⟩
  obtain ⟨context, drawn⟩ := var
  cases held
  rw [openTrace, Call.bind_of_ok (restoreTrace_of_none absent _)]
  exact opened

variable (ε) in
theorem openTrace_returns (headers : Option (TraceHeaders ν)) (pipelineStage : String)
    (var : TraceVariable ν) :
    (openTrace runtime headers pipelineStage : Call ε _ _).Returns var := by
  cases carried : headers.bind (carriedTraceId runtime) with
  | some traceId =>
      obtain ⟨trace, opened, _⟩ := openTrace_of_carried ε carried pipelineStage var
      exact ⟨trace, _, opened⟩
  | none =>
      cases held : var.context with
      | none => exact ⟨_, _, openTrace_of_empty ε carried pipelineStage held⟩
      | some current =>
          obtain ⟨trace, opened, _⟩ := openTrace_of_held ε carried pipelineStage held
          exact ⟨trace, _, opened⟩

theorem openTrace_bind (headers : Option (TraceHeaders ν)) (pipelineStage : String)
    (next : Call ε (TraceVariable ν) α) (var : TraceVariable ν) :
    (openTrace runtime headers pipelineStage >>= fun _ => next) var =
      next ((openTrace runtime headers pipelineStage : Call ε _ _) var).2 := by
  obtain ⟨trace, after, opened⟩ := openTrace_returns ε headers pipelineStage var
  rw [Call.bind_of_ok opened, opened]

end

/-- A call of a decorated handler, with what `headers.get` answers for its input; an event or a
message that is no dictionary has no headers. A handler may do anything to the context. -/
inductive Invocation (ε ν α : Type) where
  | lambda (event : Option (TraceHeaders ν)) (handler : Call ε (TraceVariable ν) α)
  | syncWorker (message : Option (TraceHeaders ν)) (handler : Call ε (TraceVariable ν) α)
  | asyncWorker (message : Option (TraceHeaders ν)) (handler : Call ε (TraceVariable ν) α)
  | request (headers : TraceHeaders ν) (callNext : Call ε (TraceVariable ν) α)

namespace Invocation

variable {ε ν α : Type} (runtime : TraceRuntime ν)

def run : Invocation ε ν α → Call ε (TraceVariable ν) α
  | .lambda event handler => lambdaLoggingHandler runtime event handler
  | .syncWorker message handler => syncWorkerLoggingHandler runtime message handler
  | .asyncWorker message handler => asyncWorkerLoggingHandler runtime message handler
  | .request headers callNext => dispatch runtime headers callNext

def headers : Invocation ε ν α → Option (TraceHeaders ν)
  | .lambda event _ => event
  | .syncWorker message _ => message
  | .asyncWorker message _ => message
  | .request headers _ => some headers

def stage : Invocation ε ν α → String
  | .lambda .. => "lambda_invocation"
  | .syncWorker .. => "worker_execution"
  | .asyncWorker .. => "worker_execution"
  | .request .. => "api_request"

def handler : Invocation ε ν α → Call ε (TraceVariable ν) α
  | .lambda _ handler => handler
  | .syncWorker _ handler => handler
  | .asyncWorker _ handler => handler
  | .request _ callNext => callNext

def isLambda : Invocation ε ν α → Bool
  | .lambda .. => true
  | _ => false

/-- The trace id the input carries. -/
def carried (invocation : Invocation ε ν α) : Option ν :=
  invocation.headers.bind (carriedTraceId runtime)

/-- What the handler starts on. -/
def entered (invocation : Invocation ε ν α) (var : TraceVariable ν) : TraceVariable ν :=
  ((openTrace runtime invocation.headers invocation.stage : Call ε _ _) var).2

/-- The handler runs under the trace id its input carries; where the input carries none, under one
drawn by this invocation, with no parent span and no correlation id. -/
def Isolated (invocation : Invocation ε ν α) (var : TraceVariable ν) : Prop :=
  ∃ trace, (invocation.entered runtime var).context = some trace ∧
    match invocation.carried runtime with
    | some traceId => trace.traceId = traceId
    | none => trace.parentSpanId = none ∧ trace.correlationId = none ∧
        ∃ n, var.drawn ≤ n ∧ n < (invocation.entered runtime var).drawn ∧
          trace.traceId = runtime.text (runtime.uuid4 n)

/-- A Lambda invocation leaves the context as its handler does; any other leaves it empty. -/
def LeavesEmpty (invocation : Invocation ε ν α) (var : TraceVariable ν) : Prop :=
  invocation.isLambda = true →
    (invocation.handler (invocation.entered runtime var)).2.context = none

variable {runtime}

/-- The wrapper hands over to the handler and then, but for Lambda, ends the trace. -/
theorem run_eq (invocation : Invocation ε ν α) (var : TraceVariable ν) :
    invocation.run runtime var =
      if invocation.isLambda then invocation.handler (invocation.entered runtime var)
      else Call.ensuring invocation.handler endTrace (invocation.entered runtime var) := by
  cases invocation with
  | lambda event handler => exact openTrace_bind event _ handler var
  | syncWorker message handler => exact openTrace_bind message _ _ var
  | asyncWorker message handler => exact openTrace_bind message _ _ var
  | request headers callNext => exact openTrace_bind (some headers) _ _ var

theorem run_context_iff (invocation : Invocation ε ν α) (var : TraceVariable ν) :
    (invocation.run runtime var).2.context = none ↔ invocation.LeavesEmpty runtime var := by
  rw [run_eq, LeavesEmpty]
  cases invocation.isLambda with
  | true => simp only [if_true, forall_const]
  | false => exact iff_of_true rfl fun lambda => by cases lambda

/-- What is left in the context reaches the next invocation unless its input carries an id. -/
theorem isolated_iff (invocation : Invocation ε ν α) (var : TraceVariable ν) :
    invocation.Isolated runtime var ↔
      (invocation.carried runtime).isSome = true ∨ var.context = none := by
  cases id : invocation.carried runtime with
  | some traceId =>
      refine iff_of_true ?_ (Or.inl rfl)
      obtain ⟨trace, opened, same⟩ :=
        openTrace_of_carried ε id invocation.stage var
      refine ⟨trace, by rw [entered, opened], ?_⟩
      rw [id]
      exact same
  | none =>
      simp only [Option.isSome_none, reduceCtorEq, false_or]
      constructor
      · rintro ⟨trace, under, fresh⟩
        rw [id] at fresh
        by_contra held
        obtain ⟨current, held⟩ := Option.ne_none_iff_exists'.mp held
        obtain ⟨other, opened, _, parent⟩ :=
          openTrace_of_held ε id invocation.stage held
        rw [entered, opened, Option.some.injEq] at under
        rw [← under, parent] at fresh
        cases fresh.1
      · intro empty
        have opened := openTrace_of_empty ε id invocation.stage empty
        rw [startTrace_generated] at opened
        refine ⟨_, by rw [entered, opened], ?_⟩
        rw [id, entered, opened]
        exact ⟨rfl, rfl, var.drawn, Nat.le_refl _, Nat.lt_add_of_pos_right (by decide), rfl⟩

/-- The context after invocations that followed one another, each from what the last one left. -/
def runAll (runtime : TraceRuntime ν) (invocations : List (Invocation ε ν α))
    (var : TraceVariable ν) : TraceVariable ν :=
  invocations.foldl (fun var invocation => (invocation.run runtime var).2) var

theorem runAll_snoc (invocations : List (Invocation ε ν α)) (last : Invocation ε ν α)
    (var : TraceVariable ν) :
    runAll runtime (invocations ++ [last]) var =
      (last.run runtime (runAll runtime invocations var)).2 := by
  rw [runAll, List.foldl_append]
  rfl

/-- Every invocation of the sequence is isolated from those before it. -/
def TracesIsolated (runtime : TraceRuntime ν) (invocations : List (Invocation ε ν α))
    (var : TraceVariable ν) : Prop :=
  ∀ before invocation after, invocations = before ++ invocation :: after →
    invocation.Isolated runtime (runAll runtime before var)

/-- Every invocation whose input carries no trace id comes first or after one that leaves the
context empty. -/
def FollowsEmpty (runtime : TraceRuntime ν) (invocations : List (Invocation ε ν α))
    (var : TraceVariable ν) : Prop :=
  ∀ before previous invocation after, invocations = before ++ previous :: invocation :: after →
    (invocation.carried runtime).isSome = true ∨
      previous.LeavesEmpty runtime (runAll runtime before var)

theorem tracesIsolated_of_followsEmpty {invocations : List (Invocation ε ν α)} {drawn : Nat}
    (follows : FollowsEmpty runtime invocations ⟨none, drawn⟩) :
    TracesIsolated runtime invocations ⟨none, drawn⟩ := by
  intro before invocation after split
  rw [isolated_iff]
  rcases List.eq_nil_or_concat before with rfl | ⟨earlier, previous, rfl⟩
  · exact Or.inr rfl
  · rw [List.concat_eq_append, runAll_snoc, run_context_iff]
    exact follows earlier previous invocation after (by
      rw [split, List.concat_eq_append, List.append_assoc]
      rfl)

/-- Workers and requests keep traces apart, however their handlers end. -/
theorem tracesIsolated_of_no_lambda {invocations : List (Invocation ε ν α)}
    (noLambda : ∀ invocation ∈ invocations, invocation.isLambda = false) (drawn : Nat) :
    TracesIsolated runtime invocations ⟨none, drawn⟩ := by
  apply tracesIsolated_of_followsEmpty
  intro before previous invocation after split
  refine Or.inr fun lambda => ?_
  have member : previous ∈ invocations := by
    rw [split]
    exact List.mem_append_right _ List.mem_cons_self
  rw [noLambda previous member] at lambda
  cases lambda

/-- Traces stay apart exactly where no invocation without an id of its own follows a Lambda
invocation whose handler left a context behind. -/
theorem tracesIsolated_iff (runtime : TraceRuntime ν) (invocations : List (Invocation ε ν α))
    (drawn : Nat) :
    TracesIsolated runtime invocations ⟨none, drawn⟩ ↔
      FollowsEmpty runtime invocations ⟨none, drawn⟩ := by
  refine ⟨?_, tracesIsolated_of_followsEmpty⟩
  intro isolated before previous invocation after split
  have here := isolated (before ++ [previous]) invocation after (by
    rw [split, List.append_assoc]
    rfl)
  rwa [isolated_iff, runAll_snoc, run_context_iff] at here

/-- Strings as values, and ids told apart by their length. -/
def sampleRuntime : TraceRuntime String where
  truthy text := text ≠ ""
  text := id
  uuid4 drawn := String.ofList (List.replicate (drawn + 1) '0')

/-- A Lambda invocation for an event without headers, by a handler that returns. -/
def bareLambda : Invocation String String Unit := .lambda (some fun _ => none) (pure ())

/-- In a warm container the second of two such invocations runs as a child of the first. -/
theorem warm_lambda_inherits :
    ¬ TracesIsolated sampleRuntime [bareLambda, bareLambda] ⟨none, 0⟩ := by
  intro isolated
  have second := isolated [bareLambda] bareLambda [] rfl
  rw [isolated_iff] at second
  rcases second with carried | empty
  · cases carried
  · cases empty

end Invocation

end SignalForge
