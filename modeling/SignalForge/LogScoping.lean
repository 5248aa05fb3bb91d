import SignalForge.StructuredLogging

/-! Logging is lexically scoped. The trace of a line is kept in a context variable that blocks set and
put back; the same lines come of handing each block's trace down to its body. -/

set_option autoImplicit false

namespace SignalForge

/-- What there is beside the trace: how many ids were drawn, the service context, the world,
`_COLD_START` and the lines written. -/
structure Unscoped (ω : Type) where
  drawn : Nat
  service : ServiceContext
  world : ω
  coldStart : Bool
  lines : List String

namespace Logging

variable {ω ν : Type}

def unscoped (state : Logging ω ν) : Unscoped ω :=
  ⟨state.var.drawn, state.service, state.world, state.coldStart, state.lines⟩

/-- No logger has a second structured handler. -/
def Once (state : Logging ω ν) : Prop := ∀ name, (state.loggers.get? name).getD 0 ≤ 1

variable (ω ν) in
/-- The trace as the context of the state. -/
def scoping : Scoping (Option (TraceState ν)) (Logging ω ν) (Unscoped ω) where
  context state := state.var.context
  rest := unscoped
  put context state := { state with var := { state.var with context } }
  valid := Once
  context_put _ _ := rfl
  rest_put _ _ := rfl
  valid_put _ _ once := once

end Logging

open Logging (scoping)

/-- What a block opens in a scope: its own trace, and the number of ids drawn with it. -/
def TraceContext.childOf {ν : Type} (runtime : TraceRuntime ν) (pipelineStage : Option ν)
    (scope : Option (TraceState ν)) (drawn : Nat) : TraceState ν × Nat :=
  match scope with
  | none =>
      (⟨runtime.text (runtime.uuid4 drawn), runtime.text (runtime.uuid4 (drawn + 1)), none, none,
        pipelineStage⟩, drawn + 2)
  | some current =>
      (⟨current.traceId, runtime.text (runtime.uuid4 drawn), some current.spanId,
        current.correlationId, (pipelineStage.filter runtime.truthy).or current.pipelineStage⟩,
        drawn + 1)

theorem TraceContext.childTrace_eq {ε ν : Type} (runtime : TraceRuntime ν)
    (pipelineStage : Option ν) (var : TraceVariable ν) :
    (childTrace runtime pipelineStage : Call ε _ _) var =
      let opened := childOf runtime pipelineStage var.context var.drawn
      (.ok opened.1, ⟨some opened.1, opened.2⟩) := by
  obtain ⟨context, drawn⟩ := var
  cases context <;> rfl

namespace LogProgram

variable {ω ν μ τ δ : Type} (runtime : LogRuntime ω ν μ τ δ)

def reading {α : Type} (read : ω → α × ω) : Call Raised (Unscoped ω) α :=
  Call.total fun rest => ((read rest.world).1, { rest with world := (read rest.world).2 })

/-- The line of a record, if it can be formatted. -/
def writeFormatted (created : Instant) (record : LogRecord ν μ δ) (scope : Option (TraceState ν)) :
    Call Raised (Unscoped ω) Unit :=
  Call.write fun rest =>
    match StructuredLogger.format runtime scope rest.service created record with
    | .error _ => rest
    | .ok line => { rest with lines := rest.lines ++ [line] }

/-- A record logged in a scope is one line, if any, whichever logger it goes through. -/
def writeLine (record : LogRecord ν μ δ) (scope : Option (TraceState ν)) :
    Call Raised (Unscoped ω) Unit :=
  if runtime.enabledFor record.level then do
    let created ← reading runtime.now
    writeFormatted runtime created record scope
  else pure ()

def readTimes : Call Raised (Unscoped ω) (τ × Instant) := do
  let counted ← reading runtime.perfCounter
  let timed ← reading runtime.now
  pure (counted, timed)

def writeStage (stage : Stage ν μ δ) (started : τ × Instant) (reason? : Option Raised)
    (scope : Option (TraceState ν)) : Call Raised (Unscoped ω) Unit := do
  let ended ← readTimes runtime
  writeLine runtime (PipelineLatency.stageRecord runtime stage started ended reason?) scope

/-- The scope of a block's body. -/
def opening (pipelineStage : Option ν) (scope : Option (TraceState ν)) (rest : Unscoped ω) :
    Option (TraceState ν) × Unscoped ω :=
  let opened := TraceContext.childOf runtime.toTraceRuntime pipelineStage scope rest.drawn
  (some opened.1, { rest with drawn := opened.2 })

/-- What a program does in a scope, where nothing is put back because nothing was set. -/
def meaning : LogProgram ν μ δ → Option (TraceState ν) → Call Raised (Unscoped ω) Unit
  | skip, _ => pure ()
  | raise reason, _ => Call.raise reason
  | seq first second, scope => do
      first.meaning scope
      second.meaning scope
  | attempt body handler, scope =>
      Call.catching (body.meaning scope) fun _ => handler.meaning scope
  | initialise serviceName environment, _ =>
      Call.zoom Unscoped.service (fun rest service => { rest with service })
        (ServiceContext.initialise serviceName environment)
  | log _ record, scope => writeLine runtime record scope
  | span pipelineStage body, scope => do
      let child ← Call.total (opening runtime pipelineStage scope)
      body.meaning child
  | measured _ stage body, scope => do
      let started ← readTimes runtime
      let child ← Call.total (opening runtime (some stage.pipelineStage) scope)
      Call.exiting (body.meaning child) fun reason? => writeStage runtime stage started reason? child

variable {runtime}

theorem scopes_reading {α : Type} (read : ω → α × ω) :
    Call.Scopes (scoping ω ν) (StructuredLogger.reading read) fun _ => reading read :=
  fun _ once => ⟨rfl, rfl, once⟩

theorem scopes_readTimes :
    Call.Scopes (scoping ω ν) (PipelineLatency.readTimes runtime) fun _ => readTimes runtime :=
  (scopes_reading runtime.perfCounter).bind fun _ =>
    (scopes_reading runtime.now).bind fun _ => Call.scopes_pure _

/-- Once a logger is configured it has one handler, and still has one when configured again. -/
theorem configureLogger_once {state : Logging ω ν} (once : state.Once) (name : String) :
    ∃ loggers, (StructuredLogger.configureLogger name) state = (.ok (), { state with loggers }) ∧
      (loggers.get? name).getD 0 = 1 ∧ ∀ other, (loggers.get? other).getD 0 ≤ 1 := by
  by_cases bare : (state.loggers.get? name).getD 0 = 0
  · refine ⟨state.loggers.set name 1, ?_, ?_, fun other => ?_⟩
    · rw [StructuredLogger.configureLogger, Call.write_apply, if_pos bare]
    · rw [OrderedDict.get?_set_self]
      rfl
    · by_cases same : other = name
      · rw [same, OrderedDict.get?_set_self]
        exact Nat.le_refl 1
      · rw [OrderedDict.get?_set_of_ne _ _ same]
        exact once other
  · refine ⟨state.loggers, ?_, Nat.le_antisymm (once name) (Nat.pos_of_ne_zero bare), once⟩
    rw [StructuredLogger.configureLogger, Call.write_apply, if_neg bare]

theorem scopes_emit (created : Instant) (record : LogRecord ν μ δ) :
    Call.Scopes (scoping ω ν) (StructuredLogger.emit runtime created record)
      fun scope => writeFormatted runtime created record scope := by
  intro state once
  have emitted : StructuredLogger.emit runtime created record state =
      (.ok (), match StructuredLogger.format runtime state.var.context state.service created record with
        | .error _ => state
        | .ok line => { state with lines := state.lines ++ [line] }) := rfl
  have written : writeFormatted runtime created record state.var.context state.unscoped =
      (.ok (), match StructuredLogger.format runtime state.var.context state.service created record with
        | .error _ => state.unscoped
        | .ok line => { state.unscoped with lines := state.lines ++ [line] }) := rfl
  rw [emitted]
  refine ⟨Eq.trans ?_ written.symm, ?_, ?_⟩
  all_goals
    cases StructuredLogger.format runtime state.var.context state.service created record with
    | error reason => first | rfl | exact once
    | ok line => first | rfl | exact once

/-- What is accepted goes to the one handler. -/
theorem log_of_enabled {state : Logging ω ν} (once : state.Once) (name : String)
    {record : LogRecord ν μ δ} (enabled : runtime.enabledFor record.level = true) :
    ∃ loggers, (∀ other, (loggers.get? other).getD 0 ≤ 1) ∧
      StructuredLogger.log runtime name record state =
        (StructuredLogger.reading runtime.now >>= fun created =>
          StructuredLogger.emit runtime created record) { state with loggers } := by
  obtain ⟨loggers, configured, one, still⟩ := configureLogger_once once name
  refine ⟨loggers, still, ?_⟩
  have read : ∀ between : Logging ω ν, StructuredLogger.reading runtime.now between =
      ((.ok (runtime.now between.world).1, { between with world := (runtime.now between.world).2 }) :
        Except Raised Instant × _) := fun _ => rfl
  rw [StructuredLogger.log, Call.bind_of_ok configured, if_pos enabled, Call.bind_of_ok (read _),
    Call.bind_of_ok (read _), Call.bind_of_ok (Call.read_apply _ _), one]
  rfl

theorem scopes_log (name : String) (record : LogRecord ν μ δ) :
    Call.Scopes (scoping ω ν) (StructuredLogger.log runtime name record)
      fun scope => writeLine runtime record scope := by
  intro state once
  by_cases enabled : runtime.enabledFor record.level = true
  · obtain ⟨loggers, still, logged⟩ := log_of_enabled once name enabled
    have written : (fun scope => writeLine runtime record scope) =
        fun scope : Option (TraceState ν) => reading runtime.now >>= fun created =>
          (writeFormatted runtime created record scope : Call Raised (Unscoped ω) Unit) := by
      funext scope
      rw [writeLine, if_pos enabled]
    rw [logged, written]
    exact (scopes_reading runtime.now).bind (fun created => scopes_emit created record)
      { state with loggers } still
  · obtain ⟨loggers, configured, -, still⟩ := configureLogger_once once name
    have silent : (fun scope => writeLine runtime record scope) =
        fun _ : Option (TraceState ν) => (pure () : Call Raised (Unscoped ω) Unit) := by
      funext scope
      rw [writeLine, if_neg enabled]
    rw [StructuredLogger.log, Call.bind_of_ok configured, if_neg enabled, silent]
    exact ⟨rfl, rfl, still⟩

section

variable {pipelineStage : Option ν}

variable (runtime) in
/-- A child span is opened. -/
def entering (pipelineStage : Option ν) (state : Logging ω ν) : Logging ω ν :=
  let opened := TraceContext.childOf runtime.toTraceRuntime pipelineStage state.var.context
    state.var.drawn
  { state with var := ⟨some opened.1, opened.2⟩ }

theorem childTrace_entering (pipelineStage : Option ν) (state : Logging ω ν) :
    PipelineLatency.onTrace (TraceContext.childTrace runtime.toTraceRuntime pipelineStage) state =
      (.ok (TraceContext.childOf runtime.toTraceRuntime pipelineStage state.var.context
        state.var.drawn).1, entering runtime pipelineStage state) := by
  rw [PipelineLatency.onTrace, Call.zoom, TraceContext.childTrace_eq]
  rfl

theorem restore_put (token : Option (TraceState ν)) :
    PipelineLatency.onTrace (TraceContext.restore token) =
      (Call.write ((scoping ω ν).put token) : Call Raised (Logging ω ν) Unit) := by
  cases token <;> rfl

theorem get_onTrace (state : Logging ω ν) :
    PipelineLatency.onTrace TraceContext.get state = (.ok state.var.context, state) := rfl

/-- A block of the library's kind, however its body is run. -/
theorem scopes_block {body : Call Raised (Logging ω ν) Unit}
    {lexical : Option (TraceState ν) → Call Raised (Unscoped ω) Unit}
    (here : Call.Scopes (scoping ω ν) body lexical) (pipelineStage : Option ν) :
    Call.Scopes (scoping ω ν)
      (fun state => ((body (entering runtime pipelineStage state)).1,
        (scoping ω ν).put state.var.context (body (entering runtime pipelineStage state)).2))
      fun scope => Call.total (opening runtime pipelineStage scope) >>= lexical :=
  here.within (fun _ => rfl) fun _ once => once

theorem scopes_inSpan {body : Call Raised (Logging ω ν) Unit}
    {lexical : Option (TraceState ν) → Call Raised (Unscoped ω) Unit}
    (here : Call.Scopes (scoping ω ν) body lexical) (pipelineStage : Option ν) :
    Call.Scopes (scoping ω ν) (inSpan runtime pipelineStage body)
      fun scope => Call.total (opening runtime pipelineStage scope) >>= lexical := by
  have block : inSpan runtime pipelineStage body = fun state =>
      ((body (entering runtime pipelineStage state)).1,
        (scoping ω ν).put state.var.context (body (entering runtime pipelineStage state)).2) := by
    funext state
    rw [inSpan, Call.bind_of_ok (get_onTrace state),
      Call.bind_of_ok (childTrace_entering pipelineStage state), restore_put, Call.ensuring_write]
  rw [block]
  exact scopes_block here pipelineStage

end

theorem callHandlers_returns (created : Instant) (record : LogRecord ν μ δ) (handlers : Nat) :
    ∀ state : Logging ω ν,
      (StructuredLogger.callHandlers runtime created record handlers).Returns state := by
  induction handlers with
  | zero => exact Call.returns_pure ()
  | succ handlers again => exact fun state => Call.Returns.bind_write (again _)

theorem log_returns (name : String) (record : LogRecord ν μ δ) (state : Logging ω ν) :
    (StructuredLogger.log runtime name record).Returns state := by
  rw [StructuredLogger.log]
  refine Call.Returns.bind_write ?_
  by_cases enabled : runtime.enabledFor record.level = true
  · rw [if_pos enabled]
    exact Call.Returns.bind ⟨_, _, rfl⟩ fun created between _ =>
      Call.Returns.bind_read (callHandlers_returns created record _ between)
  · rw [if_neg enabled]
    exact Call.returns_pure () _

theorem logStage_returns (logger : String) (stage : Stage ν μ δ) (started : τ × Instant)
    (reason? : Option Raised) (state : Logging ω ν) :
    (PipelineLatency.logStage runtime logger stage started reason?).Returns state :=
  Call.Returns.bind ⟨_, _, rfl⟩ fun _ between _ => log_returns logger _ between

theorem scopes_logStage (logger : String) (stage : Stage ν μ δ) (started : τ × Instant)
    (reason? : Option Raised) :
    Call.Scopes (scoping ω ν) (PipelineLatency.logStage runtime logger stage started reason?)
      fun scope => writeStage runtime stage started reason? scope :=
  scopes_readTimes.bind fun _ => scopes_log logger _

theorem scopes_measured (logger : String) (stage : Stage ν μ δ)
    {body : Call Raised (Logging ω ν) Unit}
    {lexical : Option (TraceState ν) → Call Raised (Unscoped ω) Unit}
    (here : Call.Scopes (scoping ω ν) body lexical) :
    Call.Scopes (scoping ω ν) (PipelineLatency.measured runtime logger stage body) fun scope =>
      readTimes runtime >>= fun started =>
        Call.total (opening runtime (some stage.pipelineStage) scope) >>= fun child =>
          Call.exiting (lexical child) fun reason? => writeStage runtime stage started reason? child := by
  refine scopes_readTimes.bind fun started => ?_
  have block : (PipelineLatency.onTrace TraceContext.get >>= fun token =>
      PipelineLatency.onTrace
        (TraceContext.childTrace runtime.toTraceRuntime (some stage.pipelineStage)) >>= fun _ =>
      Call.exiting body fun reason? =>
        PipelineLatency.logStage runtime logger stage started reason? >>= fun _ =>
          PipelineLatency.onTrace (TraceContext.restore token)) = fun state : Logging ω ν =>
      let measured := Call.exiting body (PipelineLatency.logStage runtime logger stage started)
      ((measured (entering runtime (some stage.pipelineStage) state)).1,
        (scoping ω ν).put state.var.context
          (measured (entering runtime (some stage.pipelineStage) state)).2) := by
    funext state
    rw [Call.bind_of_ok (get_onTrace state), Call.bind_of_ok (childTrace_entering _ state),
      restore_put, Call.exiting_write (logStage_returns logger stage started)]
  rw [block]
  exact scopes_block (here.exiting (scopes_logStage logger stage started))
    (some stage.pipelineStage)

theorem scopes_initialise (serviceName environment : String) :
    Call.Scopes (scoping ω ν)
      (Call.zoom Logging.service (fun state service => { state with service })
        (ServiceContext.initialise serviceName environment))
      fun _ => Call.zoom Unscoped.service (fun rest service => { rest with service })
        (ServiceContext.initialise serviceName environment) :=
  fun _ once => ⟨rfl, rfl, once⟩

theorem scopes_exec (program : LogProgram ν μ δ) :
    Call.Scopes (scoping ω ν) (program.exec runtime) (program.meaning runtime) := by
  induction program with
  | skip => exact Call.scopes_pure ()
  | raise reason => exact Call.scopes_raise reason
  | seq first second firstScopes secondScopes => exact firstScopes.bind fun _ => secondScopes
  | attempt body handler bodyScopes handlerScopes =>
      exact bodyScopes.catching fun _ => handlerScopes
  | initialise serviceName environment => exact scopes_initialise serviceName environment
  | log name record => exact scopes_log name record
  | span pipelineStage body bodyScopes => exact scopes_inSpan bodyScopes pipelineStage
  | measured logger stage body bodyScopes => exact scopes_measured logger stage bodyScopes

/-- Whatever is raised and caught on the way, a program comes to the end, and writes the lines, that
it does with the traces handed down; the trace is afterwards the one it was started under. -/
theorem exec_meaning (program : LogProgram ν μ δ) (state : Logging ω ν) (once : state.Once) :
    ((program.exec runtime state).1, (program.exec runtime state).2.unscoped) =
        program.meaning runtime state.var.context state.unscoped ∧
      (program.exec runtime state).2.var.context = state.var.context ∧
      (program.exec runtime state).2.Once :=
  scopes_exec program state once

section Samples

/-- Lines are messages, and the clock stands still. -/
def sampleLogRuntime : LogRuntime Nat String Unit Nat Nat where
  truthy text := text ≠ ""
  text := id
  uuid4 drawn := String.ofList (List.replicate (drawn + 1) '0')
  enabledFor level := decide (LogLevel.info.severity ≤ level)
  now world := (Instant.baseline, world)
  perfCounter world := (world, world + 1)
  durationMs started ended := ended - started
  dumps event := .ok event.message
  exceptionName _ := "KeyError"
  exceptionText _ := "refused"

def sampleLogging : Logging Nat String :=
  ⟨⟨none, 0⟩, ServiceContext.fresh, OrderedDict.empty, 0, true, []⟩

theorem sampleLogging_once : sampleLogging.Once := fun _ => Nat.zero_le 1

/-- A measured stage that logs, fails and is caught. -/
def sampleProgram : LogProgram String Unit Nat :=
  .seq (.initialise "billing" "test")
    (.attempt
      (.measured "latency" ⟨"ingest", "pipeline.ingest.latency", OrderedDict.empty⟩
        (.seq (.log "reader" (StructuredLogger.infoRecord "read" "log.info" OrderedDict.empty))
          (.raise .keyError)))
      (.log "reader" (StructuredLogger.infoRecord "caught" "log.info" OrderedDict.empty)))

theorem exec_meaning_sample :
    ((sampleProgram.exec sampleLogRuntime sampleLogging).1,
        (sampleProgram.exec sampleLogRuntime sampleLogging).2.unscoped) =
        sampleProgram.meaning sampleLogRuntime none sampleLogging.unscoped ∧
      (sampleProgram.exec sampleLogRuntime sampleLogging).2.var.context = none ∧
      (sampleProgram.exec sampleLogRuntime sampleLogging).2.Once :=
  exec_meaning sampleProgram sampleLogging sampleLogging_once

example : (sampleProgram.exec sampleLogRuntime sampleLogging).2.lines =
    ["read", "pipeline stage completed", "caught"] := by decide

end Samples

end LogProgram

end SignalForge
