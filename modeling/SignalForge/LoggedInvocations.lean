import SignalForge.LogScoping
import SignalForge.LoggingAdapters

/-! The Lambda, worker and FastAPI logging adapters with what they log, and whose trace the lines of an
invocation carry. -/

set_option autoImplicit false

namespace SignalForge

/-- A call of a decorated handler: the logger, what its lines say of the input and of the response,
the input and what the handler does. -/
inductive LoggedInvocation (ν μ δ : Type) where
  | lambda (logger : String) (functionName : LogValue ν μ δ) (logEventMetadata : Bool)
      (event : Option (OrderedDict String (Option ν))) (handler : LogProgram ν μ δ)
  | worker (logger queueName : String) (retryCount : Int) (message : Option (TraceHeaders ν))
      (handler : LogProgram ν μ δ)
  | request (logger method path : String) (statusCode : Int) (headers : TraceHeaders ν)
      (callNext : LogProgram ν μ δ)

namespace LoggedInvocation

open PipelineLatency (onTrace readTimes)

variable {ω ν μ τ δ : Type} (runtime : LogRuntime ω ν μ τ δ)

def safeKeys : List String := ["source", "detail-type", "id", "time", "region", "account"]

def valueOf (value : Option ν) : LogValue ν μ δ := (value.map LogValue.traced).getD .null

/-- `_safe_event_metadata`. -/
def safeEventMetadata (event : OrderedDict String (Option ν)) : LogMetadata ν μ δ :=
  LogMetadata.of (safeKeys.filterMap fun key => (event.get? key).map fun value =>
    (key, valueOf value))

/-- `headers.get` of an event. -/
def headersOf (event : OrderedDict String (Option ν)) : TraceHeaders ν :=
  fun name => (event.get? name).join

/-- How an adapter is left: how long the handler took is read, then one line says how it ended. -/
def logOutcome (logger : String) (started : τ × Instant)
    (completed : δ → LogRecord ν μ δ) (failed : δ → Raised → LogRecord ν μ δ)
    (reason? : Option Raised) : Call Raised (Logging ω ν) Unit := do
  let ended ← StructuredLogger.reading runtime.perfCounter
  let duration := runtime.durationMs started.1 ended
  StructuredLogger.log runtime logger (match reason? with
    | none => completed duration
    | some reason => failed duration reason)

def coldStartRecord (functionName : LogValue ν μ δ) : LogRecord ν μ δ :=
  StructuredLogger.infoRecord "Lambda cold start detected" "lambda.cold_start"
    (LogMetadata.of [("function_name", functionName)])

def lambdaStarted (event : OrderedDict String (Option ν)) : LogRecord ν μ δ :=
  StructuredLogger.infoRecord "Lambda invocation started" "lambda.invocation.started"
    (safeEventMetadata event)

def lambdaCompleted (functionName : LogValue ν μ δ) (started : τ × Instant) (duration : δ) :
    LogRecord ν μ δ :=
  StructuredLogger.infoRecord "Lambda invocation completed" "lambda.invocation.completed"
    (LogMetadata.of [("duration_ms", .duration duration), ("function_name", functionName),
      ("start_time", .time started.2)])

def lambdaFailed (functionName : LogValue ν μ δ) (duration : δ) (reason : Raised) :
    LogRecord ν μ δ :=
  StructuredLogger.emitErrorRecord "LAMBDA_UNHANDLED_EXCEPTION" (runtime.exceptionText reason)
    "lambda.invocation.failure"
    (LogMetadata.of [("duration_ms", .duration duration), ("function_name", functionName),
      ("exception_type", .text (runtime.exceptionName reason))])

def workerStarted (queueName : String) (started : τ × Instant) : LogRecord ν μ δ :=
  StructuredLogger.infoRecord "Worker execution started" "worker.execution.started"
    (LogMetadata.of [("queue_name", .text queueName), ("start_time", .time started.2)])

def workerCompleted (queueName : String) (duration : δ) : LogRecord ν μ δ :=
  StructuredLogger.infoRecord "Worker execution completed" "worker.execution.completed"
    (LogMetadata.of [("queue_name", .text queueName), ("duration_ms", .duration duration)])

def workerFailed (queueName : String) (retryCount : Int) (duration : δ) (reason : Raised) :
    LogRecord ν μ δ :=
  StructuredLogger.emitErrorRecord "WORKER_EXECUTION_FAILED" (runtime.exceptionText reason)
    "worker.execution.failure"
    (LogMetadata.of [("queue_name", .text queueName), ("duration_ms", .duration duration),
      ("retry_count", .number retryCount),
      ("exception_type", .text (runtime.exceptionName reason))])

def requestCompleted (method path : String) (statusCode : Int) (started : τ × Instant)
    (duration : δ) : LogRecord ν μ δ :=
  StructuredLogger.infoRecord "API request completed" "api.response"
    (LogMetadata.of [("method", .text method), ("path", .text path),
      ("status_code", .number statusCode), ("duration_ms", .duration duration),
      ("start_time", .time started.2)])

def requestFailed (method path : String) (started : τ × Instant) (duration : δ)
    (reason : Raised) : LogRecord ν μ δ :=
  StructuredLogger.emitErrorRecord "FASTAPI_UNHANDLED_EXCEPTION" (runtime.exceptionText reason)
    "api.request.failure"
    (LogMetadata.of [("method", .text method), ("path", .text path),
      ("duration_ms", .duration duration), ("start_time", .time started.2)])

/-- The first invocation of a process is logged as one. -/
def detectColdStart (logger : String) (functionName : LogValue ν μ δ) :
    Call Raised (Logging ω ν) Unit := do
  let cold ← Call.read Logging.coldStart
  if cold then do
    StructuredLogger.log runtime logger (coldStartRecord functionName)
    Call.write fun state => { state with coldStart := false }
  else pure ()

/-- Of the event only what is safe is logged, and only where that is wanted. -/
def logEvent (logger : String) (logEventMetadata : Bool)
    (event : Option (OrderedDict String (Option ν))) : Call Raised (Logging ω ν) Unit :=
  match event.filter fun _ => logEventMetadata with
  | some event => StructuredLogger.log runtime logger (lambdaStarted event)
  | none => pure ()

/-- The wrapper of `lambda_logging_handler`. -/
def lambdaWrapper (logger : String) (functionName : LogValue ν μ δ) (logEventMetadata : Bool)
    (event : Option (OrderedDict String (Option ν))) (handler : Call Raised (Logging ω ν) Unit) :
    Call Raised (Logging ω ν) Unit := do
  let started ← readTimes runtime
  let _ ← onTrace (openTrace runtime.toTraceRuntime (event.map headersOf) "lambda_invocation")
  detectColdStart runtime logger functionName
  logEvent runtime logger logEventMetadata event
  Call.exiting handler
    (logOutcome runtime logger started (lambdaCompleted functionName started)
      (lambdaFailed runtime functionName))

/-- The wrappers of `worker_logging_handler`. -/
def workerWrapper (logger queueName : String) (retryCount : Int)
    (message : Option (TraceHeaders ν)) (handler : Call Raised (Logging ω ν) Unit) :
    Call Raised (Logging ω ν) Unit := do
  let started ← readTimes runtime
  let _ ← onTrace (openTrace runtime.toTraceRuntime message "worker_execution")
  StructuredLogger.log runtime logger (workerStarted queueName started)
  Call.ensuring
    (Call.exiting handler
      (logOutcome runtime logger started (workerCompleted queueName)
        (workerFailed runtime queueName retryCount)))
    (onTrace TraceContext.endTrace)

/-- `FastAPILoggingMiddleware.dispatch`. -/
def dispatchLogged (logger method path : String) (statusCode : Int) (headers : TraceHeaders ν)
    (callNext : Call Raised (Logging ω ν) Unit) : Call Raised (Logging ω ν) Unit := do
  let started ← readTimes runtime
  let _ ← onTrace (openTrace runtime.toTraceRuntime (some headers) "api_request")
  Call.ensuring
    (Call.exiting callNext
      (logOutcome runtime logger started (requestCompleted method path statusCode started)
        (requestFailed runtime method path started)))
    (onTrace TraceContext.endTrace)

def run : LoggedInvocation ν μ δ → Call Raised (Logging ω ν) Unit
  | lambda logger functionName logEventMetadata event handler =>
      lambdaWrapper runtime logger functionName logEventMetadata event (handler.exec runtime)
  | worker logger queueName retryCount message handler =>
      workerWrapper runtime logger queueName retryCount message (handler.exec runtime)
  | request logger method path statusCode headers callNext =>
      dispatchLogged runtime logger method path statusCode headers (callNext.exec runtime)

/-- The trace id the input carries. -/
def headers : LoggedInvocation ν μ δ → Option (TraceHeaders ν)
  | lambda _ _ _ event _ => event.map headersOf
  | worker _ _ _ message _ => message
  | request _ _ _ _ headers _ => some headers

def stage : LoggedInvocation ν μ δ → String
  | lambda .. => "lambda_invocation"
  | worker .. => "worker_execution"
  | request .. => "api_request"

def handler : LoggedInvocation ν μ δ → LogProgram ν μ δ
  | lambda _ _ _ _ handler => handler
  | worker _ _ _ _ handler => handler
  | request _ _ _ _ _ callNext => callNext

def isLambda : LoggedInvocation ν μ δ → Bool
  | lambda .. => true
  | _ => false

/-- What runs under the invocation's trace. -/
def traced (started : τ × Instant) : LoggedInvocation ν μ δ → Call Raised (Logging ω ν) Unit
  | lambda logger functionName logEventMetadata event handler => do
      detectColdStart runtime logger functionName
      logEvent runtime logger logEventMetadata event
      Call.exiting (handler.exec runtime)
        (logOutcome runtime logger started (lambdaCompleted functionName started)
          (lambdaFailed runtime functionName))
  | worker logger queueName retryCount _ handler => do
      StructuredLogger.log runtime logger (workerStarted queueName started)
      Call.exiting (handler.exec runtime)
        (logOutcome runtime logger started (workerCompleted queueName)
          (workerFailed runtime queueName retryCount))
  | request logger method path statusCode _ callNext =>
      Call.exiting (callNext.exec runtime)
        (logOutcome runtime logger started (requestCompleted method path statusCode started)
          (requestFailed runtime method path started))

/-- The trace an invocation sets up in a context, and the number of ids drawn with it. -/
def joined (runtime : TraceRuntime ν) (headers : Option (TraceHeaders ν)) (pipelineStage : String)
    (scope : Option (TraceState ν)) (drawn : Nat) : TraceState ν × Nat :=
  match headers.bind fun headers =>
      (TracePropagation.carriedTraceId runtime headers).map fun traceId => (traceId, headers) with
  | some (traceId, headers) =>
      TraceContext.childOf runtime (some (runtime.text pipelineStage))
        (some ⟨traceId, runtime.text (runtime.uuid4 drawn),
          (headers TracePropagation.headerSpanId).filter runtime.truthy,
          headers TracePropagation.headerCorrelationId,
          headers TracePropagation.headerPipelineStage⟩) (drawn + 1)
  | none => TraceContext.childOf runtime (some (runtime.text pipelineStage)) scope drawn

theorem openTrace_joined {ε : Type} (runtime : TraceRuntime ν) (headers : Option (TraceHeaders ν))
    (pipelineStage : String) (var : TraceVariable ν) :
    (openTrace runtime headers pipelineStage : Call ε _ _) var =
      let opened := joined runtime headers pipelineStage var.context var.drawn
      (.ok opened.1, ⟨some opened.1, opened.2⟩) := by
  obtain ⟨context, drawn⟩ := var
  cases headers with
  | none => cases context <;> rfl
  | some headers =>
      cases carried : TracePropagation.carriedTraceId runtime headers with
      | none =>
          have restored : (restoreTrace runtime (some headers) : Call ε _ _) ⟨context, drawn⟩ = _ :=
            TracePropagation.extractHeaders_of_none carried _
          rw [openTrace, Call.bind_of_ok restored, joined, Option.bind_some, carried]
          cases context <;> rfl
      | some traceId =>
          have restored : (restoreTrace runtime (some headers) : Call ε _ _) ⟨context, drawn⟩ = _ :=
            TracePropagation.extractHeaders_of_some carried _
          rw [openTrace, Call.bind_of_ok restored, joined, Option.bind_some, carried]
          rfl

/-- A call on the state without its trace. -/
def readOutcome (started : τ × Instant) (completed : δ → LogRecord ν μ δ)
    (failed : δ → Raised → LogRecord ν μ δ) (reason? : Option Raised)
    (scope : Option (TraceState ν)) : Call Raised (Unscoped ω) Unit := do
  let ended ← LogProgram.reading runtime.perfCounter
  let duration := runtime.durationMs started.1 ended
  LogProgram.writeLine runtime (match reason? with
    | none => completed duration
    | some reason => failed duration reason) scope

def writeColdStart (functionName : LogValue ν μ δ) (scope : Option (TraceState ν)) :
    Call Raised (Unscoped ω) Unit := do
  let cold ← Call.read Unscoped.coldStart
  if cold then do
    LogProgram.writeLine runtime (coldStartRecord functionName) scope
    Call.write fun rest => { rest with coldStart := false }
  else pure ()

def writeEvent (logEventMetadata : Bool) (event : Option (OrderedDict String (Option ν)))
    (scope : Option (TraceState ν)) : Call Raised (Unscoped ω) Unit :=
  match event.filter fun _ => logEventMetadata with
  | some event => LogProgram.writeLine runtime (lambdaStarted event) scope
  | none => pure ()

/-- What an invocation does in the scope of its trace. -/
def inScope (started : τ × Instant) :
    LoggedInvocation ν μ δ → Option (TraceState ν) → Call Raised (Unscoped ω) Unit
  | lambda _ functionName logEventMetadata event handler, scope => do
      writeColdStart runtime functionName scope
      writeEvent runtime logEventMetadata event scope
      Call.exiting (handler.meaning runtime scope) fun reason? =>
        readOutcome runtime started (lambdaCompleted functionName started)
          (lambdaFailed runtime functionName) reason? scope
  | worker _ queueName retryCount _ handler, scope => do
      LogProgram.writeLine runtime (workerStarted queueName started) scope
      Call.exiting (handler.meaning runtime scope) fun reason? =>
        readOutcome runtime started (workerCompleted queueName)
          (workerFailed runtime queueName retryCount) reason? scope
  | request _ method path statusCode _ callNext, scope =>
      Call.exiting (callNext.meaning runtime scope) fun reason? =>
        readOutcome runtime started (requestCompleted method path statusCode started)
          (requestFailed runtime method path started) reason? scope

/-- The scope an invocation's handler runs in. -/
def joining (invocation : LoggedInvocation ν μ δ) (scope : Option (TraceState ν))
    (rest : Unscoped ω) : Option (TraceState ν) × Unscoped ω :=
  let opened := joined runtime.toTraceRuntime invocation.headers invocation.stage scope rest.drawn
  (some opened.1, { rest with drawn := opened.2 })

/-- What an invocation does in the context it finds. -/
def meaning (invocation : LoggedInvocation ν μ δ) (scope : Option (TraceState ν)) :
    Call Raised (Unscoped ω) Unit := do
  let started ← LogProgram.readTimes runtime
  let trace ← Call.total (invocation.joining runtime scope)
  invocation.inScope runtime started trace

variable {runtime}

section

open LogProgram (scopes_reading scopes_readTimes scopes_log scopes_exec)
open Logging (scoping)

theorem scopes_outcome (logger : String) (started : τ × Instant)
    (completed : δ → LogRecord ν μ δ) (failed : δ → Raised → LogRecord ν μ δ)
    (reason? : Option Raised) :
    Call.Scopes (scoping ω ν) (logOutcome runtime logger started completed failed reason?)
      fun scope => readOutcome runtime started completed failed reason? scope :=
  (scopes_reading runtime.perfCounter).bind fun _ => scopes_log logger _

theorem scopes_coldStart (logger : String) (functionName : LogValue ν μ δ) :
    Call.Scopes (scoping ω ν) (detectColdStart runtime logger functionName)
      fun scope => writeColdStart runtime functionName scope := by
  have read : Call.Scopes (scoping ω ν) (Call.read Logging.coldStart : Call Raised _ _)
      fun _ => Call.read Unscoped.coldStart := fun _ once => ⟨rfl, rfl, once⟩
  have written : Call.Scopes (scoping ω ν)
      (Call.write fun state => { state with coldStart := false } : Call Raised _ _)
      fun _ => Call.write fun rest => { rest with coldStart := false } :=
    fun _ once => ⟨rfl, rfl, once⟩
  refine read.bind fun cold => ?_
  cases cold with
  | false => exact Call.scopes_pure ()
  | true => exact (scopes_log logger _).bind fun _ => written

theorem scopes_event (logger : String) (logEventMetadata : Bool)
    (event : Option (OrderedDict String (Option ν))) :
    Call.Scopes (scoping ω ν) (logEvent runtime logger logEventMetadata event)
      fun scope => writeEvent runtime logEventMetadata event scope := by
  rw [logEvent]
  unfold writeEvent
  cases event.filter fun _ => logEventMetadata with
  | none => exact Call.scopes_pure ()
  | some event => exact scopes_log logger _

variable (runtime) in
theorem scopes_traced (invocation : LoggedInvocation ν μ δ) (started : τ × Instant) :
    Call.Scopes (scoping ω ν) (invocation.traced runtime started)
      (invocation.inScope runtime started) := by
  cases invocation with
  | lambda logger functionName logEventMetadata event handler =>
      exact (scopes_coldStart logger functionName).bind fun _ =>
        (scopes_event logger logEventMetadata event).bind fun _ =>
          (scopes_exec handler).exiting (scopes_outcome logger started _ _)
  | worker logger queueName retryCount message handler =>
      exact (scopes_log logger _).bind fun _ =>
        (scopes_exec handler).exiting (scopes_outcome logger started _ _)
  | request logger method path statusCode headers callNext =>
      exact (scopes_exec callNext).exiting (scopes_outcome logger started _ _)

end

open Logging (scoping)

variable (runtime) in
/-- The state in which an invocation's trace is set up. -/
def entered (invocation : LoggedInvocation ν μ δ) (state : Logging ω ν) : Logging ω ν :=
  let joined := invocation.joining runtime state.var.context state.unscoped
  { state with var := ⟨joined.1, joined.2.drawn⟩ }

variable (runtime) in
theorem openTrace_entered (invocation : LoggedInvocation ν μ δ) (state : Logging ω ν) :
    onTrace (openTrace runtime.toTraceRuntime invocation.headers invocation.stage) state =
      (.ok (joined runtime.toTraceRuntime invocation.headers invocation.stage state.var.context
        state.var.drawn).1, invocation.entered runtime state) := by
  rw [onTrace, Call.zoom, openTrace_joined]
  rfl

variable (runtime) in
theorem readTimes_returns (state : Logging ω ν) : (readTimes runtime).Returns state :=
  ⟨_, _, rfl⟩

/-- The traced part behind the setting up of the trace. -/
def opened (runtime : LogRuntime ω ν μ τ δ) (invocation : LoggedInvocation ν μ δ) :
    Call Raised (Logging ω ν) Unit := do
  let started ← readTimes runtime
  let _ ← onTrace (openTrace runtime.toTraceRuntime invocation.headers invocation.stage)
  invocation.traced runtime started

/-- Every adapter but Lambda's ends the trace, however the handler was left. -/
theorem run_opened (invocation : LoggedInvocation ν μ δ) (state : Logging ω ν) :
    invocation.run runtime state =
      ((invocation.opened runtime state).1,
        if invocation.isLambda then (invocation.opened runtime state).2
        else (scoping ω ν).put none (invocation.opened runtime state).2) := by
  cases invocation with
  | lambda logger functionName logEventMetadata event handler => rfl
  | worker logger queueName retryCount message handler =>
      refine Call.bind_ensuring_write ((scoping ω ν).put none) (readTimes_returns runtime state)
        fun started between => ?_
      refine Call.bind_ensuring_write ((scoping ω ν).put none) ⟨_, _, openTrace_entered runtime
        (.worker logger queueName retryCount message handler) between⟩ fun _ between => ?_
      exact Call.bind_ensuring_write ((scoping ω ν).put none)
        (LogProgram.log_returns logger _ between) fun _ _ => rfl
  | request logger method path statusCode headers callNext =>
      refine Call.bind_ensuring_write ((scoping ω ν).put none) (readTimes_returns runtime state)
        fun started between => ?_
      exact Call.bind_ensuring_write ((scoping ω ν).put none) ⟨_, _, openTrace_entered runtime
        (.request logger method path statusCode headers callNext) between⟩ fun _ _ => rfl

theorem opened_meaning (invocation : LoggedInvocation ν μ δ) (state : Logging ω ν)
    (once : state.Once) :
    ((invocation.opened runtime state).1, (invocation.opened runtime state).2.unscoped) =
        invocation.meaning runtime state.var.context state.unscoped ∧
      (invocation.opened runtime state).2.var.context =
        (invocation.joining runtime state.var.context state.unscoped).1 ∧
      (invocation.opened runtime state).2.Once := by
  obtain ⟨started, between, read⟩ := readTimes_returns runtime state
  obtain ⟨same, -, still⟩ := LogProgram.scopes_readTimes state once
  have context : between.var = state.var := by
    cases read
    rfl
  rw [read] at same still
  have readHere : LogProgram.readTimes runtime state.unscoped = (.ok started, between.unscoped) :=
    same.symm
  obtain ⟨sameTraced, keptTraced, stillTraced⟩ :=
    scopes_traced runtime invocation started (invocation.entered runtime between) still
  have split : invocation.opened runtime state =
      invocation.traced runtime started (invocation.entered runtime between) := by
    rw [opened, Call.bind_of_ok read, Call.bind_of_ok (openTrace_entered runtime invocation between)]
  have under : invocation.meaning runtime state.var.context state.unscoped =
      invocation.inScope runtime started (invocation.entered runtime between).var.context
        (invocation.entered runtime between).unscoped := by
    rw [meaning, Call.bind_of_ok readHere, Call.bind_of_ok (Call.total_apply _ _), ← context]
    rfl
  rw [split, under]
  refine ⟨sameTraced, keptTraced.trans ?_, stillTraced⟩
  cases read
  rfl

/-- An invocation does what it does with its trace handed down, and leaves that trace behind or,
unless it is Lambda's, none. -/
theorem run_meaning (invocation : LoggedInvocation ν μ δ) (state : Logging ω ν)
    (once : state.Once) :
    ((invocation.run runtime state).1, (invocation.run runtime state).2.unscoped) =
        invocation.meaning runtime state.var.context state.unscoped ∧
      (invocation.run runtime state).2.var.context =
        (if invocation.isLambda then
          (invocation.joining runtime state.var.context state.unscoped).1 else none) ∧
      (invocation.run runtime state).2.Once := by
  obtain ⟨same, context, still⟩ := opened_meaning invocation state once
  rw [run_opened]
  cases invocation.isLambda with
  | true => exact ⟨same, context, still⟩
  | false => exact ⟨same, rfl, still⟩

end LoggedInvocation

end SignalForge
