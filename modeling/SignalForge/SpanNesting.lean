import SignalForge.LoggingAdapters
import SignalForge.PipelineLatency

/-! When spans nest. A span restores what it found. An instance of `PipelineLatency` restores what it
found when it was last entered, which is the same unless it is entered again inside its own block. -/

set_option autoImplicit false

namespace SignalForge

namespace TraceContext

variable {ν : Type} {runtime : TraceRuntime ν}

/-- What opening a child span does: the context becomes the child, whose id is newly drawn and whose
parent is the span found. -/
structure Opened (runtime : TraceRuntime ν) (before after : TraceVariable ν) (child : TraceState ν) :
    Prop where
  context : after.context = some child
  parent : child.parentSpanId = before.context.map TraceState.spanId
  drawn : before.drawn ≤ after.drawn
  fresh : ∃ number, before.drawn ≤ number ∧ number < after.drawn ∧
    child.spanId = runtime.text (runtime.uuid4 number)

theorem childTrace_opened {ε : Type} (runtime : TraceRuntime ν) (pipelineStage : Option ν)
    (var : TraceVariable ν) :
    ∃ child after, (childTrace runtime pipelineStage : Call ε _ _) var = (.ok child, after) ∧
      Opened runtime var after child := by
  obtain ⟨context, drawn⟩ := var
  cases context with
  | none =>
      exact ⟨_, _, rfl, rfl, rfl, Nat.le_add_right drawn 2, drawn + 1, Nat.le_add_right drawn 1,
        Nat.lt_succ_self (drawn + 1), rfl⟩
  | some current =>
      exact ⟨_, _, rfl, rfl, rfl, Nat.le_add_right drawn 1, drawn, Nat.le_refl drawn,
        Nat.lt_succ_self drawn, rfl⟩

end TraceContext

open TraceContext (Opened childTrace childTrace_opened)

namespace Tracing

variable {ε ι ν : Type} {runtime : TraceRuntime ν} {stage : ι → ν}

def context (state : Tracing ι ν) : Option (TraceState ν) := state.var.context

def setContext (context : Option (TraceState ν)) (state : Tracing ι ν) : Tracing ι ν :=
  { state with var := { state.var with context } }

def mark (mark : Mark ν) (state : Tracing ι ν) : Tracing ι ν :=
  { state with marks := state.marks ++ [mark] }

theorem span_apply {pipelineStage : Option ν} {state : Tracing ι ν} {child : TraceState ν}
    {between : TraceVariable ν}
    (opened : (childTrace runtime pipelineStage : Call ε _ _) state.var = (.ok child, between))
    (body : Call ε (Tracing ι ν) Unit) :
    span runtime pipelineStage body state =
      ((body { state with var := between }).1,
        (body { state with var := between }).2.setContext state.context) := by
  have entered : (onTrace (childTrace runtime pipelineStage) : Call ε (Tracing ι ν) _) state =
      (.ok child, { state with var := between }) := Call.zoom_eq_ok.mpr ⟨between, opened, rfl⟩
  have previous : (onTrace TraceContext.get : Call ε (Tracing ι ν) _) state =
      (.ok state.context, state) := rfl
  rw [span, Call.bind_of_ok previous, Call.bind_of_ok entered, TraceContext.restore_eq]
  rfl

/-- Over the trace context alone the block is `TraceContext.span`. -/
theorem span_onTrace (pipelineStage : Option ν) (body : Call ε (TraceVariable ν) Unit) :
    (span runtime pipelineStage (onTrace body) : Call ε (Tracing ι ν) Unit) =
      onTrace (TraceContext.span runtime pipelineStage fun _ => body) := by
  funext state
  obtain ⟨child, between, opened, _⟩ := childTrace_opened (ε := ε) runtime pipelineStage state.var
  rw [span_apply opened, onTrace, onTrace, Call.zoom, Call.zoom, TraceContext.span_apply opened]
  rfl

variable [DecidableEq ι]

/-- The body of an instance's block starts in the child span, with the context found kept under the
instance; behind the block is what is kept there then. -/
theorem latency_apply {instance_ : ι} {state : Tracing ι ν} {child : TraceState ν}
    {between : TraceVariable ν}
    (opened : (childTrace runtime (some (stage instance_)) : Call ε _ _) state.var =
      (.ok child, between))
    (body : Call ε (Tracing ι ν) Unit) :
    let started : Tracing ι ν := { state with
      var := between, tokens := Function.update state.tokens instance_ state.context }
    latency runtime stage instance_ body state =
      ((body started).1, (body started).2.setContext ((body started).2.tokens instance_)) := by
  intro started
  have previous : (onTrace TraceContext.get : Call ε (Tracing ι ν) _) state =
      (.ok state.context, state) := rfl
  have entered : (onTrace (childTrace runtime (some (stage instance_))) : Call ε (Tracing ι ν) _)
      { state with tokens := Function.update state.tokens instance_ state.context } =
        (.ok child, started) := Call.zoom_eq_ok.mpr ⟨between, opened, rfl⟩
  have enters : (enter runtime stage instance_ : Call ε (Tracing ι ν) Unit) state =
      (.ok (), started) := by
    rw [enter, Call.bind_of_ok previous, Call.bind_of_ok (Call.write_apply ..),
      Call.bind_of_ok entered]
    rfl
  have leaves : ∀ left : Tracing ι ν, (exit instance_ : Call ε (Tracing ι ν) Unit) left =
      (.ok (), left.setContext (left.tokens instance_)) := by
    intro left
    rw [exit, Call.bind_of_ok (Call.read_apply ..), TraceContext.restore_eq]
    rfl
  rw [latency, Call.bind_of_ok enters, Call.ensuring, leaves]

/-- A body with what is noted at its start. -/
def started (enclosing : Option (TraceState ν))
    (body : Option (TraceState ν) → Call ε (Tracing ι ν) Unit) : Call ε (Tracing ι ν) Unit :=
  fun state => body state.context (state.mark (.inside enclosing state.context))

omit [DecidableEq ι] in
theorem noted_apply (enclosing : Option (TraceState ν))
    (block : Call ε (Tracing ι ν) Unit → Call ε (Tracing ι ν) Unit)
    (body : Option (TraceState ν) → Call ε (Tracing ι ν) Unit) (state : Tracing ι ν) :
    noted enclosing block body state =
      let outcome := block (started enclosing body) state
      (outcome.1, outcome.2.mark (.behind state.context outcome.2.context)) := rfl

end Tracing

/-- The context's span is none of those still to be drawn. -/
def Older {ν : Type} (runtime : TraceRuntime ν) (drawn : Nat) (context : Option (TraceState ν)) :
    Prop :=
  ∀ state, context = some state → ∀ number, drawn ≤ number →
    state.spanId ≠ runtime.text (runtime.uuid4 number)

/-- The context's span has been drawn since. -/
def Recent {ν : Type} (runtime : TraceRuntime ν) (drawn : Nat) (context : Option (TraceState ν)) :
    Prop :=
  ∃ state number, context = some state ∧ drawn ≤ number ∧
    state.spanId = runtime.text (runtime.uuid4 number)

section

variable {ν : Type} {runtime : TraceRuntime ν} {drawn later : Nat} {context : Option (TraceState ν)}

theorem Older.not_recent (older : Older runtime drawn context) : ¬ Recent runtime drawn context := by
  rintro ⟨state, number, held, since, spanId⟩
  exact older state held number since spanId

theorem Recent.mono (recent : Recent runtime later context) (before : drawn ≤ later) :
    Recent runtime drawn context := by
  obtain ⟨state, number, held, since, spanId⟩ := recent
  exact ⟨state, number, held, Nat.le_trans before since, spanId⟩

theorem Older.mono (older : Older runtime drawn context) (after : drawn ≤ later) :
    Older runtime later context :=
  fun state held number since => older state held number (Nat.le_trans after since)

theorem TraceContext.Opened.recent {before after : TraceVariable ν} {child : TraceState ν}
    (opened : Opened runtime before after child) : Recent runtime before.drawn (some child) := by
  obtain ⟨number, since, _, spanId⟩ := opened.fresh
  exact ⟨child, number, rfl, since, spanId⟩

theorem TraceContext.Opened.older
    (distinct : Function.Injective fun number => runtime.text (runtime.uuid4 number))
    {before after : TraceVariable ν} {child : TraceState ν}
    (opened : Opened runtime before after child) : Older runtime after.drawn (some child) := by
  obtain ⟨number, _, past, spanId⟩ := opened.fresh
  intro state held future since same
  cases held
  have one : number = future := distinct (spanId.symm.trans same)
  omega

end

namespace BlockProgram

variable {ε ι ν : Type} {runtime : TraceRuntime ν} {stage : ι → ν}

/-- What running a program does, whichever way it ends. The last two fields are the two directions: a
program that enters no instance again nests, and one that nests has saved, under every instance it
entered, the enclosing context or one opened since. -/
structure Ran (runtime : TraceRuntime ν) (program : BlockProgram ε ι ν)
    (enclosing : Option (TraceState ν)) (before : Tracing ι ν)
    (outcome : Except ε Unit × Tracing ι ν) (added : List (Mark ν)) : Prop where
  returned : outcome.1.isOk = program.returns
  marks : outcome.2.marks = before.marks ++ added
  drawn : before.var.drawn ≤ outcome.2.var.drawn
  tokens : ∀ instance_ ∉ program.entered, outcome.2.tokens instance_ = before.tokens instance_
  nests : before.context = enclosing → program.NeverReentered →
    outcome.2.context = enclosing ∧ ∀ mark ∈ added, mark.Nested
  exposes : (Function.Injective fun number => runtime.text (runtime.uuid4 number)) →
    Older runtime before.var.drawn enclosing → before.context = enclosing →
    (∀ mark ∈ added, mark.Nested) → program.NeverReentered ∧
      ∀ instance_ ∈ program.entered, outcome.2.tokens instance_ = enclosing ∨
        Recent runtime before.var.drawn (outcome.2.tokens instance_)

variable {enclosing : Option (TraceState ν)} {before : Tracing ι ν}

theorem skip_ran :
    Ran runtime (skip : BlockProgram ε ι ν) enclosing before (.ok (), before) [] where
  returned := rfl
  marks := (List.append_nil _).symm
  drawn := Nat.le_refl _
  tokens _ _ := rfl
  nests here _ := ⟨here, List.forall_mem_nil _⟩
  exposes _ _ _ _ := ⟨trivial, List.forall_mem_nil _⟩

theorem raise_ran (reason : ε) :
    Ran runtime (raise reason : BlockProgram ε ι ν) enclosing before (.error reason, before) [] where
  returned := rfl
  marks := (List.append_nil _).symm
  drawn := Nat.le_refl _
  tokens _ _ := rfl
  nests here _ := ⟨here, List.forall_mem_nil _⟩
  exposes _ _ _ _ := ⟨trivial, List.forall_mem_nil _⟩

section Sequence

variable {first second : BlockProgram ε ι ν} {between : Tracing ι ν}
  {outcome : Except ε Unit × Tracing ι ν} {added more : List (Mark ν)} {result : Except ε Unit}

/-- Two parts, the second reached; `whole` is the sequence or the attempt made of them. -/
theorem Ran.append [DecidableEq ι] {whole : BlockProgram ε ι ν}
    (head : Ran runtime first enclosing before (result, between) added)
    (tail : Ran runtime second enclosing between outcome more)
    (returned : outcome.1.isOk = whole.returns)
    (entered : whole.entered = first.entered ++ second.entered)
    (never : whole.NeverReentered ↔ first.NeverReentered ∧ second.NeverReentered) :
    Ran runtime whole enclosing before outcome (added ++ more) where
  returned := returned
  marks := by rw [tail.marks, head.marks, List.append_assoc]
  drawn := Nat.le_trans head.drawn tail.drawn
  tokens instance_ absent := by
    rw [entered, List.mem_append, not_or] at absent
    rw [tail.tokens instance_ absent.2, head.tokens instance_ absent.1]
  nests here neverReentered := by
    obtain ⟨firstNever, secondNever⟩ := never.mp neverReentered
    obtain ⟨between, headNested⟩ := head.nests here firstNever
    obtain ⟨after, tailNested⟩ := tail.nests between secondNever
    exact ⟨after, List.forall_mem_append.mpr ⟨headNested, tailNested⟩⟩
  exposes distinct older here nested := by
    obtain ⟨headNested, tailNested⟩ := List.forall_mem_append.mp nested
    obtain ⟨firstNever, firstTokens⟩ := head.exposes distinct older here headNested
    obtain ⟨secondNever, secondTokens⟩ := tail.exposes distinct (older.mono head.drawn)
      (head.nests here firstNever).1 tailNested
    refine ⟨never.mpr ⟨firstNever, secondNever⟩, fun instance_ member => ?_⟩
    by_cases later : instance_ ∈ second.entered
    · exact (secondTokens instance_ later).imp_right fun recent => recent.mono head.drawn
    · rw [tail.tokens instance_ later]
      rw [entered, List.mem_append] at member
      exact firstTokens instance_ (member.resolve_right later)

/-- The second part is not reached. -/
theorem Ran.alone {whole : BlockProgram ε ι ν} (head : Ran runtime first enclosing before outcome added)
    (returned : outcome.1.isOk = whole.returns) (entered : whole.entered = first.entered)
    (never : whole.NeverReentered ↔ first.NeverReentered) :
    Ran runtime whole enclosing before outcome added where
  returned := returned
  marks := head.marks
  drawn := head.drawn
  tokens := by
    rw [entered]
    exact head.tokens
  nests here neverReentered := head.nests here (never.mp neverReentered)
  exposes distinct older here nested := by
    rw [never, entered]
    exact head.exposes distinct older here nested

end Sequence

section Block

variable {body whole : BlockProgram ε ι ν} {started ended : Tracing ι ν} {child : TraceState ν}
  {result : Except ε Unit} {added : List (Mark ν)} {left : Option (TraceState ν)}

/-- A block whose body starts in a newly opened span, and which leaves the context `left` behind. -/
theorem Ran.block
    (inner : Ran runtime body started.context (started.mark (.inside enclosing started.context))
      (result, ended) added)
    (opened : Opened runtime before.var started.var child)
    (sameMarks : started.marks = before.marks)
    (returned : whole.returns = body.returns)
    (listed : ∀ instance_ ∈ body.entered, instance_ ∈ whole.entered)
    (kept : ∀ instance_ ∉ whole.entered, started.tokens instance_ = before.tokens instance_)
    (restores : whole.NeverReentered → body.NeverReentered ∧ left = before.context)
    (saved : Older runtime before.var.drawn before.context → body.NeverReentered →
      (∀ instance_ ∈ body.entered, Recent runtime before.var.drawn (ended.tokens instance_)) →
      left = before.context → whole.NeverReentered ∧
        ∀ instance_ ∈ whole.entered, ended.tokens instance_ = before.context ∨
          Recent runtime before.var.drawn (ended.tokens instance_)) :
    Ran runtime whole enclosing before (result, (ended.setContext left).mark (.behind before.context left))
      (.inside enclosing started.context :: added ++ [.behind before.context left]) where
  returned := inner.returned.trans returned.symm
  marks := by
    have marks : ended.marks = (before.marks ++ [.inside enclosing started.context]) ++ added := by
      rw [inner.marks, Tracing.mark, sameMarks]
    simp only [Tracing.mark, Tracing.setContext, marks, List.append_assoc, List.cons_append,
      List.nil_append]
  drawn := Nat.le_trans opened.drawn inner.drawn
  tokens instance_ absent :=
    (inner.tokens instance_ fun member => absent (listed instance_ member)).trans
      (kept instance_ absent)
  nests here neverReentered := by
    obtain ⟨bodyNever, same⟩ := restores neverReentered
    obtain ⟨_, nested⟩ := inner.nests rfl bodyNever
    refine ⟨same.trans here, ?_⟩
    rw [List.cons_append, List.forall_mem_cons, List.forall_mem_append, List.forall_mem_singleton]
    exact ⟨⟨child, opened.context, opened.parent.trans (congrArg _ here)⟩, nested, same⟩
  exposes distinct older here nested := by
    rw [List.cons_append, List.forall_mem_cons, List.forall_mem_append,
      List.forall_mem_singleton] at nested
    obtain ⟨_, nested, same⟩ := nested
    have held : started.context = some child := opened.context
    have childOlder : Older runtime started.var.drawn started.context := by
      rw [held]
      exact opened.older distinct
    obtain ⟨bodyNever, bodyTokens⟩ := inner.exposes distinct childOlder rfl nested
    have recent : ∀ instance_ ∈ body.entered,
        Recent runtime before.var.drawn (ended.tokens instance_) := by
      intro instance_ member
      rcases bodyTokens instance_ member with own | since
      · rw [own, held]
        exact opened.recent
      · exact since.mono opened.drawn
    subst here
    exact saved older bodyNever recent same

end Block

variable [DecidableEq ι]

theorem seq_ran {first second : BlockProgram ε ι ν} (before : Tracing ι ν)
    (head : ∃ added, Ran runtime first enclosing before
      (first.exec runtime stage enclosing before) added)
    (tail : ∀ between, ∃ added, Ran runtime second enclosing between
      (second.exec runtime stage enclosing between) added) :
    ∃ added, Ran runtime (seq first second) enclosing before
      ((seq first second).exec runtime stage enclosing before) added := by
  obtain ⟨added, head⟩ := head
  rw [exec]
  rcases outcome : first.exec runtime stage enclosing before with ⟨reason | _, between⟩
  · rw [outcome] at head
    have fails : first.returns = false := head.returned.symm
    rw [Call.bind_of_error outcome]
    exact ⟨added, head.alone (by simp [returns, fails]; rfl) (by simp [entered, fails])
      (by simp [NeverReentered, fails])⟩
  · rw [outcome] at head
    have succeeds : first.returns = true := head.returned.symm
    obtain ⟨more, tail⟩ := tail between
    rw [Call.bind_of_ok outcome]
    exact ⟨added ++ more, head.append tail (by simp [returns, succeeds, tail.returned])
      (by simp [entered, succeeds]) (by simp [NeverReentered, succeeds])⟩

theorem attempt_ran {body handler : BlockProgram ε ι ν} (before : Tracing ι ν)
    (head : ∃ added, Ran runtime body enclosing before (body.exec runtime stage enclosing before) added)
    (tail : ∀ between, ∃ added, Ran runtime handler enclosing between
      (handler.exec runtime stage enclosing between) added) :
    ∃ added, Ran runtime (attempt body handler) enclosing before
      ((attempt body handler).exec runtime stage enclosing before) added := by
  obtain ⟨added, head⟩ := head
  rw [exec]
  rcases outcome : body.exec runtime stage enclosing before with ⟨reason | _, between⟩
  · rw [outcome] at head
    have fails : body.returns = false := head.returned.symm
    obtain ⟨more, tail⟩ := tail between
    rw [Call.catching_of_error outcome]
    exact ⟨added ++ more, head.append tail (by simp [returns, fails, tail.returned])
      (by simp [entered, fails]) (by simp [NeverReentered, fails])⟩
  · rw [outcome] at head
    have succeeds : body.returns = true := head.returned.symm
    rw [Call.catching_of_ok outcome]
    exact ⟨added, head.alone (by simp [returns, succeeds]; rfl) (by simp [entered, succeeds])
      (by simp [NeverReentered, succeeds])⟩

theorem span_ran {pipelineStage : Option ν} {body : BlockProgram ε ι ν} (before : Tracing ι ν)
    (inner : ∀ enclosing started, ∃ added, Ran runtime body enclosing started
      (body.exec runtime stage enclosing started) added) :
    ∃ added, Ran runtime (span pipelineStage body) enclosing before
      ((span pipelineStage body).exec runtime stage enclosing before) added := by
  obtain ⟨child, between, opened, effect⟩ :=
    childTrace_opened (ε := ε) runtime pipelineStage before.var
  let started : Tracing ι ν := { before with var := between }
  obtain ⟨added, ran⟩ := inner started.context (started.mark (.inside enclosing started.context))
  rcases outcome : body.exec runtime stage started.context
    (started.mark (.inside enclosing started.context)) with ⟨result, ended⟩
  rw [outcome] at ran
  have inside : Tracing.started enclosing (fun current => body.exec runtime stage current) started =
      (result, ended) := outcome
  rw [exec, Tracing.noted_apply, Tracing.span_apply opened, inside]
  exact ⟨_, ran.block effect rfl rfl (fun _ member => member) (fun _ _ => rfl)
    (fun never => ⟨never, rfl⟩)
    fun _ never recent _ => ⟨never, fun instance_ member => Or.inr (recent instance_ member)⟩⟩

theorem latency_ran {instance_ : ι} {body : BlockProgram ε ι ν} (before : Tracing ι ν)
    (inner : ∀ enclosing started, ∃ added, Ran runtime body enclosing started
      (body.exec runtime stage enclosing started) added) :
    ∃ added, Ran runtime (latency instance_ body) enclosing before
      ((latency instance_ body).exec runtime stage enclosing before) added := by
  obtain ⟨child, between, opened, effect⟩ :=
    childTrace_opened (ε := ε) runtime (some (stage instance_)) before.var
  let started : Tracing ι ν := { before with
    var := between, tokens := Function.update before.tokens instance_ before.context }
  obtain ⟨added, ran⟩ := inner started.context (started.mark (.inside enclosing started.context))
  rcases outcome : body.exec runtime stage started.context
    (started.mark (.inside enclosing started.context)) with ⟨result, ended⟩
  rw [outcome] at ran
  have inside : Tracing.started enclosing (fun current => body.exec runtime stage current) started =
      (result, ended) := outcome
  rw [exec, Tracing.noted_apply, Tracing.latency_apply opened, inside]
  have saved : started.tokens instance_ = before.context := Function.update_self ..
  refine ⟨_, ran.block effect rfl rfl (fun _ member => List.mem_cons_of_mem _ member) ?_ ?_ ?_⟩
  · intro other absent
    exact Function.update_of_ne (List.ne_of_not_mem_cons absent) ..
  · rintro ⟨absent, never⟩
    exact ⟨never, (ran.tokens instance_ absent).trans saved⟩
  · intro older never recent (same : ended.tokens instance_ = before.context)
    have absent : instance_ ∉ body.entered := by
      intro member
      have again := recent instance_ member
      rw [same] at again
      exact older.not_recent again
    refine ⟨⟨absent, never⟩, fun other member => ?_⟩
    rcases List.mem_cons.mp member with rfl | later
    · exact Or.inl same
    · exact Or.inr (recent other later)

/-- Whatever it is and wherever it ends, a program runs so. -/
theorem exec_ran (runtime : TraceRuntime ν) (stage : ι → ν) (program : BlockProgram ε ι ν)
    (enclosing : Option (TraceState ν)) (before : Tracing ι ν) :
    ∃ added, Ran runtime program enclosing before (program.exec runtime stage enclosing before)
      added := by
  induction program generalizing enclosing before with
  | skip => exact ⟨[], skip_ran⟩
  | raise reason => exact ⟨[], raise_ran reason⟩
  | seq first second ihFirst ihSecond =>
      exact seq_ran before (ihFirst enclosing before) (ihSecond enclosing)
  | attempt body handler ihBody ihHandler =>
      exact attempt_ran before (ihBody enclosing before) (ihHandler enclosing)
  | span pipelineStage body ih => exact span_ran before ih
  | latency instance_ body ih => exact latency_ran before ih

theorem run_ran (runtime : TraceRuntime ν) (stage : ι → ν) (program : BlockProgram ε ι ν)
    (var : TraceVariable ν) (tokens : ι → Option (TraceState ν)) :
    Ran runtime program var.context { var, tokens } (program.run runtime stage var tokens)
      (program.run runtime stage var tokens).2.marks := by
  obtain ⟨added, ran⟩ := program.exec_ran runtime stage var.context { var, tokens }
  have marks : (program.run runtime stage var tokens).2.marks = added := ran.marks
  rw [marks]
  exact ran

/-- Blocks nest where no instance is entered inside its own block, whatever ids are drawn. -/
theorem NeverReentered.nests {program : BlockProgram ε ι ν} (never : program.NeverReentered)
    (var : TraceVariable ν) (tokens : ι → Option (TraceState ν)) :
    program.Nests runtime stage var tokens :=
  ((program.run_ran runtime stage var tokens).nests rfl never).2

/-- Where ids are drawn once, blocks nest exactly where no instance is entered inside its own block. -/
theorem nests_iff_neverReentered
    (distinct : Function.Injective fun number => runtime.text (runtime.uuid4 number))
    (program : BlockProgram ε ι ν) {var : TraceVariable ν}
    (older : Older runtime var.drawn var.context) (tokens : ι → Option (TraceState ν)) :
    program.Nests runtime stage var tokens ↔ program.NeverReentered :=
  ⟨fun nested => ((program.run_ran runtime stage var tokens).exposes distinct older rfl nested).1,
    fun never => never.nests var tokens⟩

section Samples

open Invocation (sampleRuntime)

theorem sampleRuntime_distinct :
    Function.Injective fun number => sampleRuntime.text (sampleRuntime.uuid4 number) := by
  intro number other same
  have texts : (List.replicate (number + 1) '0').length = (List.replicate (other + 1) '0').length :=
    congrArg List.length (String.ofList_inj.mp same)
  rw [List.length_replicate, List.length_replicate] at texts
  exact Nat.succ.inj texts

/-- Two instances inside each other, and the outer one once more behind them. -/
def twoInstances : BlockProgram String Nat String :=
  .seq (.latency 0 (.span none (.latency 1 (.raise "failed")))) (.latency 0 .skip)

theorem nests_iff_neverReentered_sample :
    twoInstances.Nests sampleRuntime (fun _ => "stage") ⟨none, 0⟩ (fun _ => none) := by
  refine (nests_iff_neverReentered sampleRuntime_distinct twoInstances ?_ _).mpr ?_
  · intro state held
    cases held
  · exact ⟨⟨by decide, by decide, trivial⟩, fun returned => by cases returned⟩

/-- A function decorated with one instance that calls itself once. -/
def recursiveCall : BlockProgram String Nat String := .latency 0 (.latency 0 .skip)

/-- Its outer call leaves the span of the call behind. -/
theorem recursive_call_leaks :
    ((recursiveCall.run sampleRuntime (fun _ => "stage") ⟨none, 0⟩
        fun _ => none).2.var.context.map TraceState.spanId) = some "00" ∧
      ¬ recursiveCall.Nests sampleRuntime (fun _ => "stage") ⟨none, 0⟩ fun _ => none := by
  refine ⟨by decide, fun nested => ?_⟩
  have left : Mark.behind none (some ⟨"0", "00", none, none, some "stage"⟩) ∈
      (recursiveCall.run sampleRuntime (fun _ => "stage") ⟨none, 0⟩ fun _ => none).2.marks := by
    decide
  cases nested _ left

end Samples

end BlockProgram

end SignalForge
