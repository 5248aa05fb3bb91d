import SignalForge.CallRelations
import SignalForge.LoggedInvocations

/-! Whose trace a line carries. Every line of an invocation, the adapter's own and those of the spans
and measured stages inside it, carries the trace the invocation set up. -/

set_option autoImplicit false

namespace SignalForge

variable {ω ν μ τ δ : Type} (runtime : LogRuntime ω ν μ τ δ)

/-- The line is of the trace, or of one that its record names, and of the service. -/
def LineOf (named : List ν) (traceId : ν) (correlationId : Option ν) (service : ServiceContext)
    (line : String) : Prop :=
  ∃ event, runtime.dumps event = .ok line ∧
    (event.traceId = some traceId ∨ ∃ name ∈ named, event.traceId = some name) ∧
    event.correlationId = correlationId ∧
    service.serviceName = some event.service ∧ service.environment = some event.environment

/-- Between the two only lines of the trace are added, and an initialised service stays as it is. -/
structure Adds (named : List ν) (traceId : ν) (correlationId : Option ν)
    (before after : Unscoped ω) : Prop where
  drawn : before.drawn ≤ after.drawn
  service : before.service.initialised = true → after.service = before.service
  lines : ∃ added, after.lines = before.lines ++ added ∧
    ∀ line ∈ added, LineOf runtime named traceId correlationId after.service line

namespace Adds

variable {runtime} {named : List ν} {traceId : ν} {correlationId : Option ν}

/-- What writes nothing and leaves the service as it is. -/
theorem of_silent {before after : Unscoped ω} (drawn : before.drawn ≤ after.drawn)
    (service : after.service = before.service) (lines : after.lines = before.lines) :
    Adds runtime named traceId correlationId before after :=
  ⟨drawn, fun _ => service, [], by rw [lines, List.append_nil], fun _ none => by cases none⟩

/-- A line is of an initialised service, which no later step changes. -/
theorem lineOf_later {between after : Unscoped ω} {line : String}
    (wrote : LineOf runtime named traceId correlationId between.service line)
    (later : Adds runtime named traceId correlationId between after) :
    LineOf runtime named traceId correlationId after.service line := by
  obtain ⟨event, dumped, trace, correlation, service, environment⟩ := wrote
  have initialised : between.service.initialised = true := by
    by_contra uninitialised
    rw [(between.service.unnamed (Bool.eq_false_iff.mpr uninitialised)).1] at service
    cases service
  rw [later.service initialised]
  exact ⟨event, dumped, trace, correlation, service, environment⟩

theorem trans {before between after : Unscoped ω}
    (first : Adds runtime named traceId correlationId before between)
    (second : Adds runtime named traceId correlationId between after) :
    Adds runtime named traceId correlationId before after := by
  refine ⟨Nat.le_trans first.drawn second.drawn, fun initialised => ?_, ?_⟩
  · have same := first.service initialised
    exact (second.service (by rw [same]; exact initialised)).trans same
  · obtain ⟨firstLines, firstAdded, firstOf⟩ := first.lines
    obtain ⟨secondLines, secondAdded, secondOf⟩ := second.lines
    refine ⟨firstLines ++ secondLines, ?_, fun line member => ?_⟩
    · rw [secondAdded, firstAdded, List.append_assoc]
    · rcases List.mem_append.mp member with early | late
      · exact lineOf_later (firstOf line early) second
      · exact secondOf line late

instance : IsPreorder (Unscoped ω) (Adds runtime named traceId correlationId) where
  refl _ := of_silent (Nat.le_refl _) rfl rfl
  trans _ _ _ := trans

end Adds

theorem ServiceContext.named_eq_ok {value : Option String} {name : String}
    (returned : ServiceContext.named value = .ok name) : value = some name := by
  rw [ServiceContext.named] at returned
  cases value with
  | none => cases returned
  | some text =>
      by_cases empty : text = ""
      · rw [empty] at returned
        cases returned
      · rw [Option.filter_some_pos (by simpa using empty)] at returned
        rw [Except.ok.inj returned]

/-- The records that name a trace of their own, as far as a program logs any. -/
def LogProgram.named (runtime : TraceRuntime ν) : LogProgram ν μ δ → List ν
  | skip => []
  | raise _ => []
  | seq first second => first.named runtime ++ second.named runtime
  | attempt body handler => body.named runtime ++ handler.named runtime
  | initialise _ _ => []
  | log _ record => (record.traceId.filter runtime.truthy).toList
  | span _ body => body.named runtime
  | measured _ _ body => body.named runtime

namespace StructuredLogger

variable {runtime}

theorem format_lineOf {trace : TraceState ν} {service : ServiceContext} {created : Instant}
    {record : LogRecord ν μ δ} {line : String} {named : List ν}
    (names : ∀ name ∈ (record.traceId.filter runtime.truthy).toList, name ∈ named)
    (formatted : format runtime (some trace) service created record = .ok line) :
    LineOf runtime named trace.traceId trace.correlationId service line := by
  obtain ⟨event, built, dumped⟩ := Except.bind_eq_ok.mp formatted
  obtain ⟨serviceName, service?, rest⟩ := Except.bind_eq_ok.mp built
  obtain ⟨environment, environment?, same⟩ := Except.bind_eq_ok.mp rest
  cases same
  refine ⟨_, dumped, ?_, rfl, ServiceContext.named_eq_ok service?,
    ServiceContext.named_eq_ok environment?⟩
  cases own : record.traceId.filter runtime.truthy with
  | none => exact Or.inl rfl
  | some name => exact Or.inr ⟨name, names name (by rw [own]; exact List.mem_singleton_self name), rfl⟩

end StructuredLogger

namespace LogProgram

variable {runtime} {named : List ν} {traceId : ν} {correlationId : Option ν}

theorem moves_reading {α : Type} (read : ω → α × ω) :
    Call.Moves (Adds runtime named traceId correlationId) (reading read) :=
  fun _ => Adds.of_silent (Nat.le_refl _) rfl rfl

theorem moves_readTimes :
    Call.Moves (Adds runtime named traceId correlationId) (readTimes runtime) :=
  (moves_reading _).bind fun _ => (moves_reading _).bind fun _ => Call.moves_pure _

theorem moves_writeLine {trace : TraceState ν} {record : LogRecord ν μ δ}
    (names : ∀ name ∈ (record.traceId.filter runtime.truthy).toList, name ∈ named) :
    Call.Moves (Adds runtime named trace.traceId trace.correlationId)
      (writeLine runtime record (some trace)) := by
  rw [writeLine]
  by_cases enabled : runtime.enabledFor record.level = true
  · rw [if_pos enabled]
    refine (moves_reading _).bind fun created rest => ?_
    cases formatted : StructuredLogger.format runtime (some trace) rest.service created record with
    | error reason =>
        rw [writeFormatted, Call.write_apply, formatted]
        exact refl_of _ rest
    | ok line =>
        rw [writeFormatted, Call.write_apply, formatted]
        refine ⟨Nat.le_refl _, fun _ => rfl, [line], rfl, fun other member => ?_⟩
        rw [List.mem_singleton.mp member]
        exact StructuredLogger.format_lineOf names formatted
  · rw [if_neg enabled]
    exact Call.moves_pure ()

theorem moves_initialise (serviceName environment : String) :
    Call.Moves (Adds runtime named traceId correlationId)
      (Call.zoom Unscoped.service (fun rest service => { rest with service })
        (ServiceContext.initialise serviceName environment) : Call Raised (Unscoped ω) Unit) := by
  intro rest
  cases initialised : rest.service.initialised with
  | true =>
      have refused : ServiceContext.initialise serviceName environment rest.service =
          (.error (.exception "RuntimeError"), rest.service) := by
        rw [ServiceContext.initialise, Call.bind_of_ok (Call.read_apply _ _),
          if_pos (by simpa using initialised)]
        rfl
      rw [Call.zoom, refused]
      exact refl_of _ rest
  | false =>
      refine ⟨Nat.le_refl _, fun already => ?_, [], (List.append_nil _).symm,
        fun _ none => by cases none⟩
      rw [initialised] at already
      cases already

/-- A block's trace is that of the scope it is opened in. -/
theorem opening_some (pipelineStage : Option ν) (trace : TraceState ν) (rest : Unscoped ω) :
    ∃ child after, opening runtime pipelineStage (some trace) rest = (some child, after) ∧
      child.traceId = trace.traceId ∧ child.correlationId = trace.correlationId ∧
      Adds runtime named traceId correlationId rest after :=
  ⟨_, _, rfl, rfl, rfl, Adds.of_silent (Nat.le_succ _) rfl rfl⟩

theorem moves_block {pipelineStage : Option ν} {trace : TraceState ν}
    {body : Option (TraceState ν) → Call Raised (Unscoped ω) Unit}
    (inside : ∀ child : TraceState ν, child.traceId = trace.traceId →
      child.correlationId = trace.correlationId →
      Call.Moves (Adds runtime named trace.traceId trace.correlationId) (body (some child))) :
    Call.Moves (Adds runtime named trace.traceId trace.correlationId)
      (Call.total (opening runtime pipelineStage (some trace)) >>= body) := by
  intro rest
  obtain ⟨child, after, opened, sameTrace, sameCorrelation, added⟩ :=
    opening_some pipelineStage trace rest
  rw [Call.bind_of_ok (Call.total_apply _ _), opened]
  exact trans_of _ added (inside child sameTrace sameCorrelation after)

theorem moves_meaning {program : LogProgram ν μ δ} :
    ∀ {trace : TraceState ν}, (∀ name ∈ program.named runtime.toTraceRuntime, name ∈ named) →
      Call.Moves (Adds runtime named trace.traceId trace.correlationId)
        (program.meaning runtime (some trace) : Call Raised (Unscoped ω) Unit) := by
  induction program with
  | skip => exact fun _ => Call.moves_pure ()
  | raise reason => exact fun _ => Call.moves_raise reason
  | seq first second firstMoves secondMoves =>
      intro trace names
      exact (firstMoves fun name member => names name (List.mem_append_left _ member)).bind fun _ =>
        secondMoves fun name member => names name (List.mem_append_right _ member)
  | attempt body handler bodyMoves handlerMoves =>
      intro trace names
      exact (bodyMoves fun name member => names name (List.mem_append_left _ member)).catching
        fun _ => handlerMoves fun name member => names name (List.mem_append_right _ member)
  | initialise serviceName environment =>
      exact fun _ => moves_initialise serviceName environment
  | log name record => exact moves_writeLine
  | span pipelineStage body bodyMoves =>
      intro trace names
      refine moves_block fun child sameTrace sameCorrelation => ?_
      rw [← sameTrace, ← sameCorrelation]
      exact bodyMoves names
  | measured logger stage body bodyMoves =>
      intro trace names
      refine moves_readTimes.bind fun started => moves_block fun child sameTrace sameCorrelation => ?_
      rw [← sameTrace, ← sameCorrelation]
      refine (bodyMoves names).exiting fun reason? => moves_readTimes.bind fun ended => ?_
      exact moves_writeLine fun name none => by cases none

end LogProgram

namespace LoggedInvocation

open LogProgram (moves_reading moves_readTimes moves_writeLine moves_meaning)

/-- The trace id the input carries. -/
def carried (runtime : TraceRuntime ν) (invocation : LoggedInvocation ν μ δ) : Option ν :=
  invocation.headers.bind (TracePropagation.carriedTraceId runtime)

/-- All the invocation writes is of one trace: the one its input carries, with the correlation id
beside it, or one drawn by the invocation itself, with none. -/
def Attributed (invocation : LoggedInvocation ν μ δ) (before after : Logging ω ν) : Prop :=
  ∃ traceId correlationId,
    Adds runtime (invocation.handler.named runtime.toTraceRuntime) traceId correlationId
      before.unscoped after.unscoped ∧
    match invocation.carried runtime.toTraceRuntime with
    | some carried => traceId = carried ∧
        correlationId = invocation.headers.bind fun headers =>
          headers TracePropagation.headerCorrelationId
    | none => correlationId = none ∧ ∃ number, before.var.drawn ≤ number ∧
        number < after.var.drawn ∧ traceId = runtime.text (runtime.uuid4 number)

variable {runtime} {named : List ν}

theorem joined_of_carried {headers : Option (TraceHeaders ν)} {traceId : ν}
    (carried : headers.bind (TracePropagation.carriedTraceId runtime.toTraceRuntime) = some traceId)
    (pipelineStage : String) (scope : Option (TraceState ν)) (drawn : Nat) :
    ∃ trace, joined runtime.toTraceRuntime headers pipelineStage scope drawn = (trace, drawn + 2) ∧
      trace.traceId = traceId ∧ trace.correlationId = headers.bind fun headers =>
        headers TracePropagation.headerCorrelationId := by
  cases headers with
  | none => cases carried
  | some headers =>
      rw [Option.bind_some] at carried
      rw [joined, Option.bind_some, carried]
      exact ⟨_, rfl, rfl, rfl⟩

theorem joined_of_none {headers : Option (TraceHeaders ν)}
    (absent : headers.bind (TracePropagation.carriedTraceId runtime.toTraceRuntime) = none)
    (pipelineStage : String) (scope : Option (TraceState ν)) (drawn : Nat) :
    joined runtime.toTraceRuntime headers pipelineStage scope drawn =
      TraceContext.childOf runtime.toTraceRuntime (some (runtime.text pipelineStage)) scope drawn := by
  cases headers with
  | none => rfl
  | some headers =>
      rw [Option.bind_some] at absent
      rw [joined, Option.bind_some, absent]
      rfl

theorem moves_outcome {trace : TraceState ν} {started : τ × Instant}
    {completed : δ → LogRecord ν μ δ} {failed : δ → Raised → LogRecord ν μ δ}
    (completedUnnamed : ∀ duration, (completed duration).traceId = none)
    (failedUnnamed : ∀ duration reason, (failed duration reason).traceId = none)
    (reason? : Option Raised) :
    Call.Moves (Adds runtime named trace.traceId trace.correlationId)
      (readOutcome runtime started completed failed reason? (some trace) :
        Call Raised (Unscoped ω) Unit) := by
  refine (moves_reading _).bind fun ended => moves_writeLine fun name member => ?_
  cases reason? with
  | none =>
      rw [completedUnnamed] at member
      cases member
  | some reason =>
      rw [failedUnnamed] at member
      cases member

theorem moves_coldStart {trace : TraceState ν} (functionName : LogValue ν μ δ) :
    Call.Moves (Adds runtime named trace.traceId trace.correlationId)
      (writeColdStart runtime functionName (some trace) : Call Raised (Unscoped ω) Unit) := by
  refine (Call.moves_read _).bind fun cold => ?_
  cases cold with
  | false => exact Call.moves_pure ()
  | true =>
      refine (moves_writeLine fun name none => by cases none).bind fun _ rest => ?_
      exact Adds.of_silent (Nat.le_refl _) rfl rfl

theorem moves_event {trace : TraceState ν} (logEventMetadata : Bool)
    (event : Option (OrderedDict String (Option ν))) :
    Call.Moves (Adds runtime named trace.traceId trace.correlationId)
      (writeEvent runtime logEventMetadata event (some trace) :
        Call Raised (Unscoped ω) Unit) := by
  rw [writeEvent]
  cases event.filter fun _ => logEventMetadata with
  | none => exact Call.moves_pure ()
  | some event => exact moves_writeLine fun name none => by cases none

/-- What the adapter logs is, like what the handler logs, of the invocation's trace. -/
theorem moves_inScope {trace : TraceState ν} {invocation : LoggedInvocation ν μ δ}
    (names : ∀ name ∈ invocation.handler.named runtime.toTraceRuntime, name ∈ named)
    (started : τ × Instant) :
    Call.Moves (Adds runtime named trace.traceId trace.correlationId)
      (invocation.inScope runtime started (some trace) : Call Raised (Unscoped ω) Unit) := by
  cases invocation with
  | lambda logger functionName logEventMetadata event handler =>
      exact (moves_coldStart functionName).bind fun _ =>
        (moves_event logEventMetadata event).bind fun _ =>
          (moves_meaning names).exiting (moves_outcome (fun _ => rfl) fun _ _ => rfl)
  | worker logger queueName retryCount message handler =>
      exact (moves_writeLine fun name none => by cases none).bind fun _ =>
        (moves_meaning names).exiting (moves_outcome (fun _ => rfl) fun _ _ => rfl)
  | request logger method path statusCode headers callNext =>
      exact (moves_meaning names).exiting (moves_outcome (fun _ => rfl) fun _ _ => rfl)

/-- From the trace it is joined to on, an invocation writes nothing that is not of that trace. -/
theorem adds_meaning {trace : TraceState ν} {drawn : Nat} (invocation : LoggedInvocation ν μ δ)
    (scope : Option (TraceState ν)) (rest : Unscoped ω)
    (joins : joined runtime.toTraceRuntime invocation.headers invocation.stage scope rest.drawn =
      (trace, drawn)) (drew : rest.drawn ≤ drawn) :
    Adds runtime (invocation.handler.named runtime.toTraceRuntime) trace.traceId
        trace.correlationId rest (invocation.meaning runtime scope rest).2 ∧
      drawn ≤ (invocation.meaning runtime scope rest).2.drawn := by
  obtain ⟨started, between, read, same⟩ : ∃ started between,
      LogProgram.readTimes runtime rest = (.ok started, between) ∧ between.drawn = rest.drawn :=
    ⟨_, _, rfl, rfl⟩
  have timed : Adds runtime (invocation.handler.named runtime.toTraceRuntime) trace.traceId
      trace.correlationId rest between := by
    have moved : Adds runtime (invocation.handler.named runtime.toTraceRuntime) trace.traceId
        trace.correlationId rest (LogProgram.readTimes runtime rest).2 := moves_readTimes rest
    rwa [read] at moved
  have joining : invocation.joining runtime scope between =
      (some trace, { between with drawn }) := by
    rw [LoggedInvocation.joining, same, joins]
  have under : invocation.meaning runtime scope rest =
      invocation.inScope runtime started (some trace) { between with drawn } := by
    rw [meaning, Call.bind_of_ok read, Call.bind_of_ok (Call.total_apply _ _), joining]
  have drawing : Adds runtime (invocation.handler.named runtime.toTraceRuntime) trace.traceId
      trace.correlationId between { between with drawn } :=
    Adds.of_silent (by rw [same]; exact drew) rfl rfl
  have wrote : Adds runtime (invocation.handler.named runtime.toTraceRuntime) trace.traceId
      trace.correlationId { between with drawn }
      (invocation.inScope runtime started (some trace) { between with drawn }).2 :=
    moves_inScope (fun _ member => member) started _
  rw [under]
  exact ⟨(timed.trans drawing).trans wrote, wrote.drawn⟩

/-- An invocation that carries a trace id, or finds no trace, keeps to its own trace. -/
theorem run_attributed (invocation : LoggedInvocation ν μ δ) {state : Logging ω ν}
    (once : state.Once)
    (settled : (invocation.carried runtime.toTraceRuntime).isSome = true ∨
      state.var.context = none) :
    invocation.Attributed runtime state (invocation.run runtime state).2 := by
  obtain ⟨same, -, -⟩ := run_meaning invocation state once
  have rest : (invocation.run runtime state).2.unscoped =
      (invocation.meaning runtime state.var.context state.unscoped).2 := by rw [← same]
  rw [Attributed]
  cases carried : invocation.carried runtime.toTraceRuntime with
  | some traceId =>
      obtain ⟨trace, joins, sameTrace, sameCorrelation⟩ :=
        joined_of_carried carried invocation.stage state.var.context state.var.drawn
      obtain ⟨added, -⟩ := adds_meaning invocation state.var.context state.unscoped joins
        (Nat.le_add_right _ 2)
      refine ⟨trace.traceId, trace.correlationId, ?_, sameTrace, sameCorrelation⟩
      rw [rest]
      exact added
  | none =>
      have empty : state.var.context = none := by
        rcases settled with carries | empty
        · rw [carried] at carries
          cases carries
        · exact empty
      have joins := joined_of_none carried invocation.stage state.var.context state.var.drawn
      rw [empty] at joins
      obtain ⟨added, drew⟩ := adds_meaning invocation none state.unscoped joins
        (Nat.le_add_right _ 2)
      refine ⟨_, _, ?_, rfl, state.var.drawn, Nat.le_refl _, ?_, rfl⟩
      · rw [rest, empty]
        exact added
      · have last : (invocation.run runtime state).2.var.drawn =
            (invocation.meaning runtime state.var.context state.unscoped).2.drawn :=
          congrArg Unscoped.drawn rest
        rw [last, empty]
        exact Nat.lt_of_lt_of_le (Nat.lt_add_of_pos_right (by decide)) drew

/-- The state after invocations that followed one another, whatever they raised. -/
def runAll (runtime : LogRuntime ω ν μ τ δ) (invocations : List (LoggedInvocation ν μ δ))
    (state : Logging ω ν) : Logging ω ν :=
  invocations.foldl (fun state invocation => (invocation.run runtime state).2) state

theorem runAll_snoc (invocations : List (LoggedInvocation ν μ δ)) (last : LoggedInvocation ν μ δ)
    (state : Logging ω ν) :
    runAll runtime (invocations ++ [last]) state =
      (last.run runtime (runAll runtime invocations state)).2 := by
  rw [runAll, List.foldl_append]
  rfl

theorem runAll_once (invocations : List (LoggedInvocation ν μ δ)) :
    ∀ {state : Logging ω ν}, state.Once → (runAll runtime invocations state).Once := by
  induction invocations with
  | nil => exact id
  | cons invocation later again =>
      intro state once
      exact again (run_meaning invocation state once).2.2

/-- Every invocation that carries no trace id comes first or directly behind one that is not
Lambda's. -/
def FollowsEnded (runtime : TraceRuntime ν) (invocations : List (LoggedInvocation ν μ δ)) : Prop :=
  ∀ before previous invocation after, invocations = before ++ previous :: invocation :: after →
    (invocation.carried runtime).isSome = true ∨ previous.isLambda = false

/-- In a run from no trace, whatever the handlers log, raise and catch inside whatever spans and
measured stages, no line of one invocation is of another's trace. -/
theorem runAll_attributed {invocations : List (LoggedInvocation ν μ δ)} {state : Logging ω ν}
    (empty : state.var.context = none) (once : state.Once)
    (follows : FollowsEnded runtime.toTraceRuntime invocations) :
    ∀ before invocation after, invocations = before ++ invocation :: after →
      invocation.Attributed runtime (runAll runtime before state)
        (runAll runtime (before ++ [invocation]) state) := by
  intro before invocation after split
  rw [runAll_snoc]
  refine run_attributed invocation (runAll_once before once) ?_
  rcases List.eq_nil_or_concat before with rfl | ⟨earlier, previous, rfl⟩
  · exact Or.inr empty
  · rw [List.concat_eq_append, runAll_snoc]
    have adjacent : invocations = earlier ++ previous :: invocation :: after := by
      rw [split, List.concat_eq_append, List.append_assoc]
      rfl
    refine (follows earlier previous invocation after adjacent).imp id fun ended => ?_
    rw [(run_meaning previous _ (runAll_once earlier once)).2.1, ended]
    rfl

section Samples

open LogProgram (sampleLogRuntime sampleLogging sampleLogging_once sampleProgram)

def sampleLambda : LoggedInvocation String Unit Nat :=
  .lambda "lambda-service" .null true (some OrderedDict.empty) sampleProgram

def sampleRequest : LoggedInvocation String Unit Nat :=
  .request "fastapi-service" "GET" "/stores" 200 (fun _ => some "7") sampleProgram

/-- The request carries a trace of its own. -/
theorem sampleInvocations_follow :
    FollowsEnded sampleLogRuntime.toTraceRuntime [sampleLambda, sampleRequest] := by
  intro before previous invocation after split
  cases before with
  | nil =>
      cases split
      exact Or.inl rfl
  | cons first rest =>
      have lengths := congrArg List.length split
      simp only [List.cons_append, List.length_append, List.length_cons, List.length_nil] at lengths
      omega

/-- Nothing the request writes is of the trace that the Lambda invocation left behind. -/
theorem runAll_attributed_sample :
    sampleRequest.Attributed sampleLogRuntime
      (runAll sampleLogRuntime [sampleLambda] sampleLogging)
      (runAll sampleLogRuntime [sampleLambda, sampleRequest] sampleLogging) :=
  runAll_attributed rfl sampleLogging_once sampleInvocations_follow [sampleLambda] sampleRequest []
    rfl

end Samples

end LoggedInvocation

end SignalForge
