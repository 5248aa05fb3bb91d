import Mathlib.Data.List.Basic
import SignalForge.TraceContext

/-! The blocks that set the trace context for their bodies: `TraceContext.span`, which keeps the context
it found in a local variable, and `PipelineLatency`, which keeps it in the instance. What a block logs
on its way out is left out: a logger reads the context and writes nothing to it. -/

set_option autoImplicit false

namespace SignalForge

/-- What is noted of a block: the context at the start of its body, beside the context around it, and
the context behind it, beside the one before it. -/
inductive Mark (ν : Type) where
  | inside (enclosing current : Option (TraceState ν))
  | behind (entry exit : Option (TraceState ν))
  deriving DecidableEq

/-- The trace context, `_trace_token` of each instance of `PipelineLatency`, and the notes. -/
structure Tracing (ι ν : Type) where
  var : TraceVariable ν
  tokens : ι → Option (TraceState ν)
  marks : List (Mark ν) := []

namespace Tracing

variable {ε ι ν α : Type} [DecidableEq ι] (runtime : TraceRuntime ν)

def onTrace (call : Call ε (TraceVariable ν) α) : Call ε (Tracing ι ν) α :=
  Call.zoom Tracing.var (fun state var => { state with var }) call

def note (mark : Mark ν) : Call ε (Tracing ι ν) Unit :=
  Call.write fun state => { state with marks := state.marks ++ [mark] }

/-- `with TraceContext.span(pipeline_stage): body`. -/
def span (pipelineStage : Option ν) (body : Call ε (Tracing ι ν) Unit) :
    Call ε (Tracing ι ν) Unit := do
  let previous ← onTrace TraceContext.get
  let _ ← onTrace (TraceContext.childTrace runtime pipelineStage)
  Call.ensuring body (onTrace (TraceContext.restore previous))

/-- `PipelineLatency.__enter__`. -/
def enter (stage : ι → ν) (instance_ : ι) : Call ε (Tracing ι ν) Unit := do
  let previous ← onTrace TraceContext.get
  Call.write fun state => { state with tokens := Function.update state.tokens instance_ previous }
  let _ ← onTrace (TraceContext.childTrace runtime (some (stage instance_)))
  pure ()

/-- `PipelineLatency.__exit__` of an instance that has been entered. -/
def exit (instance_ : ι) : Call ε (Tracing ι ν) Unit := do
  let token ← Call.read fun state => state.tokens instance_
  onTrace (TraceContext.restore token)

/-- `with instance: body`. The decorator form enters the decorated function's one instance at every
call; `pipeline_latency_decorator` makes a new one for each call. -/
def latency (stage : ι → ν) (instance_ : ι) (body : Call ε (Tracing ι ν) Unit) :
    Call ε (Tracing ι ν) Unit := do
  enter runtime stage instance_
  Call.ensuring body (exit instance_)

/-- A block with what is noted of it; its body is told the context it starts in. -/
def noted (enclosing : Option (TraceState ν))
    (block : Call ε (Tracing ι ν) Unit → Call ε (Tracing ι ν) Unit)
    (body : Option (TraceState ν) → Call ε (Tracing ι ν) Unit) : Call ε (Tracing ι ν) Unit := do
  let entry ← onTrace TraceContext.get
  Call.ensuring
    (block do
      let current ← onTrace TraceContext.get
      note (.inside enclosing current)
      body current)
    (do
      let left ← onTrace TraceContext.get
      note (.behind entry left))

end Tracing

/-- The blocks a program runs through, in the order in which it does. -/
inductive BlockProgram (ε ι ν : Type) where
  | skip
  | raise (reason : ε)
  | seq (first second : BlockProgram ε ι ν)
  | attempt (body handler : BlockProgram ε ι ν)
  | span (pipelineStage : Option ν) (body : BlockProgram ε ι ν)
  | latency (instance_ : ι) (body : BlockProgram ε ι ν)

namespace BlockProgram

variable {ε ι ν : Type} [DecidableEq ι] (runtime : TraceRuntime ν) (stage : ι → ν)

def exec (enclosing : Option (TraceState ν)) : BlockProgram ε ι ν → Call ε (Tracing ι ν) Unit
  | skip => pure ()
  | raise reason => Call.raise reason
  | seq first second => do
      exec enclosing first
      exec enclosing second
  | attempt body handler => Call.catching (exec enclosing body) fun _ => exec enclosing handler
  | span pipelineStage body =>
      Tracing.noted enclosing (Tracing.span runtime pipelineStage) fun current => exec current body
  | latency instance_ body =>
      Tracing.noted enclosing (Tracing.latency runtime stage instance_) fun current =>
        exec current body

/-- The program run in a context, with nothing noted before. -/
def run (program : BlockProgram ε ι ν) (var : TraceVariable ν)
    (tokens : ι → Option (TraceState ν)) : Except ε Unit × Tracing ι ν :=
  program.exec runtime stage var.context { var, tokens }

/-- Whether the program ends normally. -/
def returns : BlockProgram ε ι ν → Bool
  | skip => true
  | raise _ => false
  | seq first second => first.returns && second.returns
  | attempt body handler => body.returns || handler.returns
  | span _ body => body.returns
  | latency _ body => body.returns

/-- The instances the program enters, whatever it does not reach left out. -/
def entered : BlockProgram ε ι ν → List ι
  | skip => []
  | raise _ => []
  | seq first second => first.entered ++ if first.returns then second.entered else []
  | attempt body handler => body.entered ++ if body.returns then [] else handler.entered
  | span _ body => body.entered
  | latency instance_ body => instance_ :: body.entered

/-- No instance is entered inside its own block. -/
def NeverReentered : BlockProgram ε ι ν → Prop
  | skip => True
  | raise _ => True
  | seq first second => first.NeverReentered ∧ (first.returns = true → second.NeverReentered)
  | attempt body handler => body.NeverReentered ∧ (body.returns = false → handler.NeverReentered)
  | span _ body => body.NeverReentered
  | latency instance_ body => instance_ ∉ body.entered ∧ body.NeverReentered

end BlockProgram

/-- Behind a block the context is the one before it; inside, the span's parent is the enclosing
span. -/
def Mark.Nested {ν : Type} : Mark ν → Prop
  | inside enclosing current =>
      ∃ state, current = some state ∧ state.parentSpanId = enclosing.map TraceState.spanId
  | behind entry exit => exit = entry

/-- All blocks of the run nest. -/
def BlockProgram.Nests {ε ι ν : Type} [DecidableEq ι] (runtime : TraceRuntime ν) (stage : ι → ν)
    (program : BlockProgram ε ι ν) (var : TraceVariable ν) (tokens : ι → Option (TraceState ν)) :
    Prop :=
  ∀ mark ∈ (program.run runtime stage var tokens).2.marks, mark.Nested

end SignalForge
