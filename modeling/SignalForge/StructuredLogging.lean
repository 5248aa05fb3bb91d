import Mathlib.Tactic.SplitIfs
import SignalForge.Datetime
import SignalForge.LexicalScope
import SignalForge.OrderedDict
import SignalForge.TraceContext

/-! The structured logger: the service context, the formatter, the loggers and the handlers they
write through, and programs of blocks that log. -/

set_option autoImplicit false

namespace SignalForge

/-- `LogLevel`. -/
inductive LogLevel where
  | debug | info | warning | error | critical
  deriving DecidableEq, Repr

namespace LogLevel

/-- The numbers of the standard levels. -/
def severity : LogLevel → Int
  | debug => 10
  | info => 20
  | warning => 30
  | error => 40
  | critical => 50

/-- `_STANDARD_LEVELS`. -/
def standardLevels : List LogLevel := [debug, info, warning, error, critical]

/-- The standard level of a number. -/
def ofNumber? (levelno : Int) : Option LogLevel :=
  standardLevels.find? fun level => level.severity = levelno

/-- `_narrow_level`. -/
def narrow (levelno : Int) : LogLevel :=
  match ofNumber? levelno with
  | some level => level
  | none =>
      let below := (standardLevels.map severity).filter fun number => number ≤ levelno
      (below.max?.bind ofNumber?).getD debug

theorem ofNumber?_severity (level : LogLevel) : ofNumber? level.severity = some level := by
  cases level <;> rfl

theorem ofNumber?_eq_none {levelno : Int} (custom : ∀ level, levelno ≠ severity level) :
    ofNumber? levelno = none := by
  rw [ofNumber?, List.find?_eq_none]
  intro level _
  simpa using (custom level).symm

/-- The highest standard level at or below a number, and the lowest one below them all. -/
theorem narrow_eq (levelno : Int) :
    narrow levelno = if 50 ≤ levelno then critical else if 40 ≤ levelno then error
      else if 30 ≤ levelno then warning else if 20 ≤ levelno then info else debug := by
  by_cases standard : ∃ level, levelno = severity level
  · obtain ⟨level, rfl⟩ := standard
    rw [narrow, ofNumber?_severity]
    cases level <;> rfl
  · rw [narrow, ofNumber?_eq_none (not_exists.mp standard)]
    simp only [standardLevels, List.map_cons, List.map_nil, severity, List.filter_cons,
      List.filter_nil, decide_eq_true_eq]
    split_ifs <;> rfl

/-- The name of a level may be lost; the order of severities is not. -/
theorem narrow_mono {levelno other : Int} (below : levelno ≤ other) :
    (narrow levelno).severity ≤ (narrow other).severity := by
  rw [narrow_eq, narrow_eq]
  split_ifs <;> simp only [severity] <;> omega

end LogLevel

/-- `ServiceContext`. There is one in a process. -/
structure ServiceContext where
  serviceName : Option String
  environment : Option String
  initialised : Bool
  unnamed : initialised = false → serviceName = none ∧ environment = none

namespace ServiceContext

/-- As the class starts out. -/
def fresh : ServiceContext := ⟨none, none, false, fun _ => ⟨rfl, rfl⟩⟩

theorem named_initialised (serviceName environment : Option String) :
    true = false → serviceName = none ∧ environment = none := nofun

def initialise (serviceName environment : String) : Call Raised ServiceContext Unit := do
  let context ← Call.read id
  if context.initialised then Call.raise (.exception "RuntimeError")
  else if serviceName = "" then Call.raise (.valueError "service_name must be non-empty")
  else if environment = "" then Call.raise (.valueError "environment must be non-empty")
  else Call.write fun _ =>
    ⟨some serviceName, some environment, true, named_initialised _ _⟩

/-- `service_name()` and `environment()` raise where there is none, or an empty one. -/
def named (value : Option String) : Except Raised String :=
  match value.filter (· ≠ "") with
  | none => .error (.exception "RuntimeError")
  | some value => .ok value

end ServiceContext

/-- What metadata hold: values of the caller's, and those that the package puts there. -/
inductive LogValue (ν μ δ : Type) where
  | given (value : μ)
  | traced (value : ν)
  | text (text : String)
  | time (timestamp : Instant)
  | duration (milliseconds : δ)
  | number (count : Int)
  | null

abbrev LogMetadata (ν μ δ : Type) : Type := OrderedDict String (LogValue ν μ δ)

namespace LogMetadata

variable {ν μ δ : Type}

/-- `dict.update`. -/
def update (metadata : LogMetadata ν μ δ) (entries : List (String × LogValue ν μ δ)) :
    LogMetadata ν μ δ :=
  entries.foldl (fun metadata entry => metadata.set entry.1 entry.2) metadata

/-- A dictionary display. -/
def of (entries : List (String × LogValue ν μ δ)) : LogMetadata ν μ δ :=
  update OrderedDict.empty entries

end LogMetadata

structure StructuredError (ν μ δ : Type) where
  errorCode : String
  message : String
  exceptionType : Option String := none
  stackTrace : Option String := none
  severity : Option LogLevel := none
  retryable : Option Bool := none
  origin : Option String := none
  metadata : Option (LogMetadata ν μ δ) := none

/-- What `StructuredLogger.log` is called with; no metadata are empty ones. -/
structure LogRecord (ν μ δ : Type) where
  level : Int
  message : String
  eventType : String
  metadata : LogMetadata ν μ δ := OrderedDict.empty
  traceId : Option ν := none
  error : Option (StructuredError ν μ δ) := none

/-- `LogEventSchema`. -/
structure LogEvent (ν μ δ : Type) where
  timestamp : Instant
  level : LogLevel
  service : String
  environment : String
  eventType : String
  message : String
  traceId : Option ν
  parentTraceId : Option ν
  correlationId : Option ν
  pipelineStage : Option ν
  error : Option (StructuredError ν μ δ)
  metadata : LogMetadata ν μ δ
  schemaVersion : String := "0.1"

/-- What logging rests on outside this code: the level the loggers are set to, the wall clock, the
performance counter with the duration between two of its readings, JSON, and what exceptions say of
themselves. -/
structure LogRuntime (ω ν μ τ δ : Type) extends TraceRuntime ν where
  enabledFor : Int → Bool
  now : ω → Instant × ω
  perfCounter : ω → τ × ω
  durationMs : τ → τ → δ
  dumps : LogEvent ν μ δ → Except Raised String
  exceptionName : Raised → String
  exceptionText : Raised → String

/-- The trace context, the service context, the number of structured handlers of each logger, the
world, `_COLD_START` and the lines written. -/
structure Logging (ω ν : Type) where
  var : TraceVariable ν
  service : ServiceContext
  loggers : OrderedDict String Nat
  world : ω
  coldStart : Bool
  lines : List String

namespace StructuredLogger

variable {ω ν μ τ δ : Type} (runtime : LogRuntime ω ν μ τ δ)

/-- `_build_log_event`. -/
def buildLogEvent (trace : Option (TraceState ν)) (service : ServiceContext) (created : Instant)
    (record : LogRecord ν μ δ) : Except Raised (LogEvent ν μ δ) := do
  let serviceName ← ServiceContext.named service.serviceName
  let environment ← ServiceContext.named service.environment
  pure {
    timestamp := created
    level := LogLevel.narrow record.level
    service := serviceName
    environment := environment
    eventType := record.eventType
    message := record.message
    traceId := (record.traceId.filter runtime.truthy).or (trace.map TraceState.traceId)
    parentTraceId := trace.bind TraceState.parentSpanId
    correlationId := trace.bind TraceState.correlationId
    pipelineStage := trace.bind TraceState.pipelineStage
    error := record.error
    metadata := record.metadata }

/-- `format`. -/
def format (trace : Option (TraceState ν)) (service : ServiceContext) (created : Instant)
    (record : LogRecord ν μ δ) : Except Raised String :=
  (buildLogEvent runtime trace service created record).bind runtime.dumps

/-- `configure_logger`: a logger that has a structured handler is left as it is. -/
def configureLogger (name : String) : Call Raised (Logging ω ν) Unit :=
  Call.write fun state =>
    if (state.loggers.get? name).getD 0 = 0 then
      { state with loggers := state.loggers.set name 1 }
    else state

/-- A handler writes the line. What formatting raises is handled within the handler. -/
def emit (created : Instant) (record : LogRecord ν μ δ) : Call Raised (Logging ω ν) Unit :=
  Call.write fun state =>
    match format runtime state.var.context state.service created record with
    | .error _ => state
    | .ok line => { state with lines := state.lines ++ [line] }

/-- The record to every handler in turn. -/
def callHandlers (created : Instant) (record : LogRecord ν μ δ) :
    Nat → Call Raised (Logging ω ν) Unit
  | 0 => pure ()
  | handlers + 1 => do
      emit runtime created record
      callHandlers created record handlers

/-- A reading of the world. -/
def reading {α : Type} (read : ω → α × ω) : Call Raised (Logging ω ν) α :=
  Call.total fun state => ((read state.world).1, { state with world := (read state.world).2 })

/-- `StructuredLogger(name).log(...)`. -/
def log (name : String) (record : LogRecord ν μ δ) : Call Raised (Logging ω ν) Unit := do
  configureLogger name
  if runtime.enabledFor record.level then do
    let created ← reading runtime.now
    let handlers ← Call.read fun state => (state.loggers.get? name).getD 0
    callHandlers runtime created record handlers
  else pure ()

/-- What `info(...)` logs. -/
def infoRecord (message eventType : String) (metadata : LogMetadata ν μ δ) : LogRecord ν μ δ where
  level := LogLevel.info.severity
  message
  eventType
  metadata

/-- What `emit_error(...)` logs. -/
def emitErrorRecord (errorCode message eventType : String) (metadata : LogMetadata ν μ δ) :
    LogRecord ν μ δ where
  level := LogLevel.error.severity
  message
  eventType
  metadata
  error := some { errorCode, message, metadata := some metadata }

end StructuredLogger

/-- What a measured stage is given. -/
structure Stage (ν μ δ : Type) where
  pipelineStage : ν
  eventType : String
  metadata : LogMetadata ν μ δ

namespace PipelineLatency

variable {ω ν μ τ δ : Type} (runtime : LogRuntime ω ν μ τ δ)

def onTrace {α : Type} (call : Call Raised (TraceVariable ν) α) : Call Raised (Logging ω ν) α :=
  Call.zoom Logging.var (fun state var => { state with var }) call

/-- The counter, then the clock. -/
def readTimes : Call Raised (Logging ω ν) (τ × Instant) := do
  let counted ← StructuredLogger.reading runtime.perfCounter
  let timed ← StructuredLogger.reading runtime.now
  pure (counted, timed)

/-- The line of a stage: at the level of errors where it was left by an exception. What the stage's
own metadata hold takes the place of what is measured. -/
def stageRecord (stage : Stage ν μ δ) (started ended : τ × Instant) (reason? : Option Raised) :
    LogRecord ν μ δ where
  level := if reason?.isSome then LogLevel.error.severity else LogLevel.info.severity
  message := "pipeline stage completed"
  eventType := stage.eventType
  metadata :=
    LogMetadata.update
      (LogMetadata.of
        ([("pipeline_stage", .traced stage.pipelineStage),
          ("duration_ms", .duration (runtime.durationMs started.1 ended.1)),
          ("start_time", .time started.2),
          ("end_time", .time ended.2),
          ("status", .text (if reason?.isSome then "error" else "success"))] ++
          (reason?.toList.map fun reason =>
            ("exception_type", .text (runtime.exceptionName reason)))))
      stage.metadata.entries

/-- What `__exit__` logs, in the stage's own span. -/
def logStage (logger : String) (stage : Stage ν μ δ) (started : τ × Instant)
    (reason? : Option Raised) : Call Raised (Logging ω ν) Unit := do
  let ended ← readTimes runtime
  StructuredLogger.log runtime logger (stageRecord runtime stage started ended reason?)

/-- `with pipeline_latency(stage, logger, metadata): body`; the decorator of
`pipeline_latency_decorator` too makes an instance for every call. -/
def measured (logger : String) (stage : Stage ν μ δ) (body : Call Raised (Logging ω ν) Unit) :
    Call Raised (Logging ω ν) Unit := do
  let started ← readTimes runtime
  let token ← onTrace TraceContext.get
  let _ ← onTrace (TraceContext.childTrace runtime.toTraceRuntime (some stage.pipelineStage))
  Call.exiting body fun reason? => do
    logStage runtime logger stage started reason?
    onTrace (TraceContext.restore token)

end PipelineLatency

/-- Programs of blocks that log. -/
inductive LogProgram (ν μ δ : Type) where
  | skip
  | raise (reason : Raised)
  | seq (first second : LogProgram ν μ δ)
  | attempt (body handler : LogProgram ν μ δ)
  | initialise (serviceName environment : String)
  | log (name : String) (record : LogRecord ν μ δ)
  | span (pipelineStage : Option ν) (body : LogProgram ν μ δ)
  | measured (logger : String) (stage : Stage ν μ δ) (body : LogProgram ν μ δ)

namespace LogProgram

variable {ω ν μ τ δ : Type} (runtime : LogRuntime ω ν μ τ δ)

/-- `with TraceContext.span(pipeline_stage): body`. -/
def inSpan (pipelineStage : Option ν) (body : Call Raised (Logging ω ν) Unit) :
    Call Raised (Logging ω ν) Unit := do
  let previous ← PipelineLatency.onTrace TraceContext.get
  let _ ← PipelineLatency.onTrace (TraceContext.childTrace runtime.toTraceRuntime pipelineStage)
  Call.ensuring body (PipelineLatency.onTrace (TraceContext.restore previous))

def exec : LogProgram ν μ δ → Call Raised (Logging ω ν) Unit
  | skip => pure ()
  | raise reason => Call.raise reason
  | seq first second => do
      first.exec
      second.exec
  | attempt body handler => Call.catching body.exec fun _ => handler.exec
  | initialise serviceName environment =>
      Call.zoom Logging.service (fun state service => { state with service })
        (ServiceContext.initialise serviceName environment)
  | log name record => StructuredLogger.log runtime name record
  | span pipelineStage body => inSpan runtime pipelineStage body.exec
  | measured logger stage body => PipelineLatency.measured runtime logger stage body.exec

end LogProgram

end SignalForge
