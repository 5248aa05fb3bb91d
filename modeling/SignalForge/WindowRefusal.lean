import SignalForge.Aggregations
import SignalForge.FallibleRule

/-! What a call to the window aggregator leaves behind where the aggregation refuses the
contribution, over runs that go on after calls that raised. -/

set_option autoImplicit false

namespace SignalForge

namespace FallibleRule

open WindowAggregator

variable {σ κ ρ : Type}

/-- Every window not passed over takes the contribution. -/
def TakesAll (rule : FallibleRule σ κ ρ) (given : Observation κ) (held : State σ)
    (starts : List Instant) : Prop :=
  ∀ start ∈ starts, rule.Skips given held start ∨ rule.Accepts given held start

/-- The first window not passed over refuses. -/
def RefusesFirst (rule : FallibleRule σ κ ρ) (given : Observation κ) (held : State σ)
    (starts : List Instant) : Prop :=
  ∃ skipped start rest, starts = skipped ++ start :: rest ∧
    (∀ other ∈ skipped, rule.Skips given held other) ∧ rule.Refuses given held start

/-- The event is not applied, or all of its windows take it, or the first of them refuses. -/
def AllOrNothing (rule : FallibleRule σ κ ρ) (given : Observation κ) (held : State σ) : Prop :=
  given.partitionKey = "" ∨ given.classification = .lateDropped ∨
    ∀ starts, windowsContaining rule.spec given.eventTimestamp = .ok starts →
      rule.TakesAll given held starts ∨ rule.RefusesFirst given held starts

/-- Some window the event belongs to rejects the contribution. -/
def Rejected (rule : FallibleRule σ κ ρ) (given : Observation κ) (held : State σ) : Prop :=
  given.classification ≠ .lateDropped ∧
    ∃ starts, windowsContaining rule.spec given.eventTimestamp = .ok starts ∧
      ∃ start ∈ starts, ¬ rule.Skips given held start ∧
        ∃ reason, rule.combine (rule.closing.windowFor held given.partitionKey start).state
          given.contribution = .error reason

/-- The events a window has counted; none where it is not held. -/
def countOf (held : State σ) (key : String) (start : Instant) : Nat :=
  match held.states.get? (key, start) with
  | none => 0
  | some window => window.eventCount

/-- The call is made whole or not at all: raising it changes nothing, it emits no window without
events, and no window counts an event that another rejects. -/
structure Whole (rule : FallibleRule σ κ ρ) (given : Observation κ) (held : State σ) : Prop where
  unchanged : ∀ reason after,
    rule.aggregator.observe given held = (.error reason, after) → after = held
  counted : ∀ emissions after, rule.aggregator.observe given held = (.ok emissions, after) →
    ∀ emission ∈ emissions, emission.eventCount ≠ 0
  together : rule.Rejected given held → ∀ key start,
    countOf (rule.aggregator.observe given held).2 key start ≤ countOf held key start

section Event

variable {rule : FallibleRule σ κ ρ} {given : Observation κ} {held : State σ}

theorem applyToWindows_sound (given : Observation κ) (starts : List Instant) :
    Call.Keeps rule.Sound (rule.aggregator.applyToWindows given starts) := by
  induction starts with
  | nil => exact Call.keeps_pure _
  | cons start rest ih =>
      exact (applyToWindow_sound given start).bind fun _ => ih.bind fun _ => Call.keeps_pure _

variable (rule) in
/-- A window is touched by its own turn of the loop alone. -/
theorem applyToWindow_frames (given : Observation κ) (key : String) {start other : Instant}
    (apart : other ≠ start) : Call.Frames (fun held : State σ => held.states.get? (key, other))
      (rule.aggregator.applyToWindow given start) := by
  have setFrames : ∀ (update : State σ → State σ) (window : WindowState σ),
      (∀ held, (update held).states = held.states.set (given.partitionKey, start) window) →
        Call.Frames (fun held : State σ => held.states.get? (key, other))
          (Call.write update : Call Raised _ _) := by
    intro update window sets
    refine Call.frames_write fun held => ?_
    rw [sets, WindowRule.get?_set_window, if_neg fun same => apart same.2]
  refine (Call.frames_lift _).bind fun windowEnd => Call.Frames.bind ?_ fun opened => ?_
  · refine (Call.frames_read _).bind fun existing => ?_
    cases existing with
    | some window => exact Call.frames_pure _
    | none =>
        refine (Call.frames_lift _).bind fun sealing => ?_
        split
        · exact Call.frames_pure _
        · exact (setFrames _ _ fun _ => rfl).bind fun _ => Call.frames_pure _
  · cases opened with
    | none => exact Call.frames_pure _
    | some window =>
        refine (Call.frames_lift _).bind fun combined => ?_
        refine (setFrames _ _ fun _ => rfl).bind fun _ => ?_
        split
        · refine Call.Frames.bind ((Call.frames_lift _).bind fun _ => Call.frames_pure _) fun _ => ?_
          exact Call.frames_pure _
        · exact Call.frames_pure _

variable (rule) in
theorem applyToWindows_frames (given : Observation κ) (key : String) {starts : List Instant}
    {other : Instant} (outside : other ∉ starts) :
    Call.Frames (fun held : State σ => held.states.get? (key, other))
      (rule.aggregator.applyToWindows given starts) := by
  induction starts with
  | nil => exact Call.frames_pure _
  | cons start rest ih =>
      obtain ⟨apart, outside⟩ := not_or.mp (List.mem_cons.not.mp outside)
      exact (applyToWindow_frames rule given key apart).bind fun _ => (ih outside).bind fun _ =>
        Call.frames_pure _

variable (rule) in
/-- What a window does with the event depends on that window alone. -/
theorem turns_congr {between : State σ} {start : Instant}
    (same : between.states.get? (given.partitionKey, start) =
      held.states.get? (given.partitionKey, start)) :
    (rule.Skips given between start ↔ rule.Skips given held start) ∧
      (rule.Accepts given between start ↔ rule.Accepts given held start) ∧
      (rule.Refuses given between start ↔ rule.Refuses given held start) := by
  simp only [Skips, Accepts, Refuses, WindowRule.windowFor, same, and_self]

/-- A window's turn changes nothing about another's. -/
theorem turns_after {start other : Instant} {emissions : List (WindowEmission ρ)}
    {between : State σ}
    (returned : rule.aggregator.applyToWindow given start held = (.ok emissions, between))
    (apart : other ≠ start) :
    (rule.Skips given between other ↔ rule.Skips given held other) ∧
      (rule.Accepts given between other ↔ rule.Accepts given held other) ∧
      (rule.Refuses given between other ↔ rule.Refuses given held other) := by
  have frames := applyToWindow_frames rule given given.partitionKey apart held
  rw [returned] at frames
  exact turns_congr rule frames

/-- The count of a window that took the event has risen, and the rest of the loop leaves it so. -/
theorem ne_of_taken {start : Instant} {rest : List Instant} (apart : start ∉ rest)
    {emissions : List (WindowEmission ρ)} {between : State σ}
    (taken : rule.Takes given held start emissions between) :
    (rule.aggregator.applyToWindows given rest between).2 ≠ held := by
  intro unchanged
  obtain ⟨combined, states⟩ := taken.states
  have frames := applyToWindows_frames rule given given.partitionKey apart between
  rw [unchanged] at frames
  change held.states.get? (given.partitionKey, start) = between.states.get? _ at frames
  rw [states, if_pos ⟨rfl, rfl⟩, WindowRule.windowFor] at frames
  have counts := congrArg (Option.map WindowState.eventCount) frames
  rcases found : held.states.get? (given.partitionKey, start) with _ | window
  · rw [found] at counts
    cases counts
  · rw [found] at counts
    exact Nat.succ_ne_self _ (Option.some.inj counts).symm

/-- Windows of which all take the event. -/
theorem applyToWindows_takes (sound : rule.Sound held) {starts : List Instant}
    (distinct : starts.Nodup) (takes : rule.TakesAll given held starts) :
    (rule.aggregator.applyToWindows given starts).Returns held := by
  induction starts generalizing held with
  | nil => exact Call.returns_pure _ _
  | cons start rest ih =>
      obtain ⟨apart, distinct⟩ := List.nodup_cons.mp distinct
      obtain ⟨first, others⟩ := List.forall_mem_cons.mp takes
      rcases first with skips | accepts
      · have here := apply_of_skips skips
        exact (Call.returns_bind_of_ok here).mpr
          ((ih sound distinct others).bind fun _ _ _ => Call.returns_pure _ _)
      · obtain ⟨emissions, between, returned, one⟩ := apply_of_accepts sound accepts
        refine (Call.returns_bind_of_ok returned).mpr
          ((ih one.sound distinct fun other member => ?_).bind fun _ _ _ => Call.returns_pure _ _)
        obtain ⟨sameSkips, sameAccepts, _⟩ := turns_after returned
          fun same : other = start => apart (same ▸ member)
        exact (others other member).imp sameSkips.mpr sameAccepts.mpr

/-- Where the first window to be touched refuses, nothing is touched. -/
theorem applyToWindows_refuses (sound : rule.Sound held) {starts : List Instant}
    (refuses : rule.RefusesFirst given held starts) :
    ∃ reason, rule.aggregator.applyToWindows given starts held = (.error reason, held) := by
  obtain ⟨skipped, start, rest, rfl, passed, here⟩ := refuses
  induction skipped with
  | nil =>
      obtain ⟨reason, failed⟩ := apply_of_refuses sound here
      exact ⟨reason, Call.bind_of_error failed _⟩
  | cons first skipped ih =>
      obtain ⟨skips, passed⟩ := List.forall_mem_cons.mp passed
      obtain ⟨reason, failed⟩ := ih passed
      refine ⟨reason, ?_⟩
      rw [List.cons_append, applyToWindows, Call.bind_of_ok (apply_of_skips skips),
        Call.bind_of_error failed]

/-- Windows left as they were where the loop raised: all took the event, or the first to be
touched refused. -/
theorem takes_or_refuses (sound : rule.Sound held) {starts : List Instant}
    (distinct : starts.Nodup) (unchanged : ∀ reason after,
      rule.aggregator.applyToWindows given starts held = (.error reason, after) → after = held) :
    rule.TakesAll given held starts ∨ rule.RefusesFirst given held starts := by
  induction starts generalizing held with
  | nil => exact Or.inl (List.forall_mem_nil _)
  | cons start rest ih =>
      obtain ⟨apart, distinct⟩ := List.nodup_cons.mp distinct
      rcases apply_cases sound given start with
        skips | accepts | refuses | ⟨reason, after, failed, _, absent, opened⟩
      · have here := apply_of_skips skips
        have later : ∀ reason after, rule.aggregator.applyToWindows given rest held =
            (.error reason, after) → after = held := by
          intro reason after failed
          apply unchanged reason after
          rw [applyToWindows, Call.bind_of_ok here, Call.bind_of_error failed]
        rcases ih sound distinct later with takes | ⟨skipped, other, behind, rfl, passed, refuses⟩
        · exact Or.inl (List.forall_mem_cons.mpr ⟨Or.inl skips, takes⟩)
        · exact Or.inr ⟨start :: skipped, other, behind, rfl,
            List.forall_mem_cons.mpr ⟨skips, passed⟩, refuses⟩
      · obtain ⟨emissions, between, returned, one⟩ := apply_of_accepts sound accepts
        have returns : (rule.aggregator.applyToWindows given rest).Returns between := by
          rcases outcome : rule.aggregator.applyToWindows given rest between with
            ⟨reason | later, after⟩
          · have same := unchanged reason after (by
              rw [applyToWindows, Call.bind_of_ok returned, Call.bind_of_error outcome])
            exact absurd (congrArg Prod.snd outcome |>.trans same) (ne_of_taken apart one)
          · exact ⟨later, after, outcome⟩
        refine Or.inl (List.forall_mem_cons.mpr ⟨Or.inr accepts, fun other member => ?_⟩)
        obtain ⟨value, final, finished⟩ := returns
        obtain ⟨sameSkips, sameAccepts, _⟩ := turns_after returned
          fun same : other = start => apart (same ▸ member)
        rcases ih one.sound distinct (fun reason after failed => by
          rw [finished] at failed
          cases failed) with takes | refuses
        · exact (takes other member).imp sameSkips.mp sameAccepts.mp
        · obtain ⟨reason, failed⟩ := applyToWindows_refuses one.sound refuses
          rw [finished] at failed
          cases failed
      · exact Or.inr ⟨[], start, rest, rfl, List.forall_mem_nil _, refuses⟩
      · obtain rfl := unchanged reason after (by
          rw [applyToWindows, Call.bind_of_error failed])
        rw [absent] at opened
        cases opened

/-- Every window held has an event in it. -/
def Counted (held : State σ) : Prop :=
  ∀ key start window, held.states.get? (key, start) = some window → window.eventCount ≠ 0

theorem applyToWindows_counted (sound : rule.Sound held) (counted : Counted held)
    {starts : List Instant} {emissions : List (WindowEmission ρ)} {after : State σ}
    (returned : rule.aggregator.applyToWindows given starts held = (.ok emissions, after)) :
    Counted after ∧ ∀ emission ∈ emissions, emission.eventCount ≠ 0 := by
  induction starts generalizing held emissions with
  | nil =>
      cases returned
      exact ⟨counted, List.forall_mem_nil _⟩
  | cons start rest ih =>
      obtain ⟨here, between, first, others⟩ := Call.bind_eq_ok.mp returned
      obtain ⟨later, final, tail, joined⟩ := Call.bind_eq_ok.mp others
      cases joined
      rcases apply_cases sound given start with skips | accepts | refuses | ⟨_, _, failed, _⟩
      · rw [apply_of_skips skips] at first
        cases first
        exact ih sound counted tail
      · obtain ⟨emitted, next, returned, one⟩ := apply_of_accepts sound accepts
        rw [returned] at first
        cases first
        obtain ⟨combined, states⟩ := one.states
        have countedNext : Counted between := by
          intro key other window found
          rw [states] at found
          split at found
          · cases found
            exact Nat.succ_ne_zero _
          · exact counted key other window found
        obtain ⟨countedAfter, emittedLater⟩ := ih one.sound countedNext tail
        exact ⟨countedAfter, List.forall_mem_append.mpr ⟨one.counted, emittedLater⟩⟩
      · obtain ⟨_, failed⟩ := apply_of_refuses sound refuses
        rw [failed] at first
        cases first
      · rw [failed] at first
        cases first

/-- A window held after its key was closed was held before, with as many events. -/
theorem held_of_closed {key : String} {watermark : Instant} {emissions : List (WindowEmission ρ)}
    {after : State σ} (closed : WindowRule.Closed rule.closing key watermark held emissions after)
    {other : String} {start : Instant} {window : WindowState σ}
    (found : after.states.get? (other, start) = some window) :
    ∃ before, held.states.get? (other, start) = some before ∧
      window.eventCount = before.eventCount := by
  rw [closed.states] at found
  split at found
  · obtain ⟨before, was, settled⟩ := Option.bind_eq_some_iff.mp found
    rw [WindowRule.settle] at settled
    split at settled
    · cases settled
    · cases settled
      exact ⟨before, was, rfl⟩
  · exact ⟨window, found, rfl⟩

/-- A window emitted when it closes was held, with the events it is emitted with. -/
theorem held_of_closure {key : String} {watermark start : Instant} {emission : WindowEmission ρ}
    (emitted : emission ∈ rule.closing.closures key watermark held start) :
    ∃ window, held.states.get? (key, start) = some window ∧
      emission.eventCount = window.eventCount := by
  rw [WindowRule.closures] at emitted
  split at emitted
  · cases emitted
  · rename_i window found
    split at emitted
    · rw [List.mem_singleton.mp emitted]
      exact ⟨window, found, rfl⟩
    · cases emitted

/-- Closing the windows of a key does not raise, and keeps what a state is kept to. -/
theorem close_returns (sound : rule.Sound held) (key : String) (watermark : Instant) :
    ∃ emissions after, rule.aggregator.closeEligibleWindows key watermark held =
        (.ok emissions, after) ∧ rule.Sound after ∧
      (Counted held → Counted after ∧ ∀ emission ∈ emissions, emission.eventCount ≠ 0) := by
  rw [closeEligibleWindows_closing]
  obtain ⟨emissions, after, returned⟩ := WindowRule.closeEligibleWindows_returns sound.coherent
    watermark (sound.fits key)
  have closed := WindowRule.closeEligibleWindows_ok sound.coherent returned
  refine ⟨emissions, after, returned, ⟨closed.coherent, ?_⟩, fun counted => ⟨?_, ?_⟩⟩
  · intro otherKey start listed
    obtain ⟨window, found⟩ :=
      Option.isSome_iff_exists.mp ((closed.coherent.retained otherKey start).mp listed)
    obtain ⟨before, was, _⟩ := held_of_closed closed found
    exact sound.fits_held was
  · intro otherKey start window found
    obtain ⟨before, was, same⟩ := held_of_closed closed found
    rw [same]
    exact counted otherKey start before was
  · intro emission member
    rw [closed.emissions] at member
    obtain ⟨start, _, emitted⟩ := List.mem_flatMap.mp member
    obtain ⟨window, found, same⟩ := held_of_closure emitted
    rw [same]
    exact counted key start window found

/-- An event that is applied. -/
theorem observe_applied (named : given.partitionKey ≠ "")
    (applied : given.classification ≠ .lateDropped) :
    rule.aggregator.observe given held = (do
      let starts ← Call.lift (windowsContaining rule.spec given.eventTimestamp)
      let repairs ← rule.aggregator.applyToWindows given starts
      let closures ← rule.aggregator.closeEligibleWindows given.partitionKey given.watermark
      pure ((repairs ++ closures).insertionSort emissionLe) :
        Call Raised (State σ) (List (WindowEmission ρ))) held := by
  rw [observe, if_neg named, if_neg applied]
  rfl

theorem observe_sound (rule : FallibleRule σ κ ρ) (given : Observation κ) :
    Call.Keeps rule.Sound (rule.aggregator.observe given) := by
  have closes : Call.Keeps rule.Sound
      (rule.aggregator.closeEligibleWindows given.partitionKey given.watermark) := by
    intro held sound
    obtain ⟨_, _, returned, kept, _⟩ := close_returns sound given.partitionKey given.watermark
    rw [returned]
    exact kept
  rw [observe]
  split
  · exact Call.keeps_raise _
  split
  · exact closes
  · exact (Call.keeps_lift _).bind fun starts => (applyToWindows_sound given starts).bind fun _ =>
      closes.bind fun _ => Call.keeps_pure _

/-- A raising call leaves the aggregator as it was exactly where the event is applied to all of
its windows or refused by the first. -/
theorem unchanged_iff (sound : rule.Sound held) :
    (∀ reason after, rule.aggregator.observe given held = (.error reason, after) → after = held) ↔
      rule.AllOrNothing given held := by
  by_cases unnamed : given.partitionKey = ""
  · refine iff_of_true ?_ (Or.inl unnamed)
    rw [observe, if_pos unnamed]
    rintro reason after ⟨⟩
    rfl
  by_cases dropped : given.classification = .lateDropped
  · refine iff_of_true ?_ (Or.inr (Or.inl dropped))
    obtain ⟨_, _, returned, _⟩ := close_returns sound given.partitionKey given.watermark
    rw [observe, if_neg unnamed, if_pos dropped, returned]
    rintro reason after ⟨⟩
  rw [observe_applied unnamed dropped]
  simp only [AllOrNothing, unnamed, dropped, false_or]
  rcases assigned : windowsContaining rule.spec given.eventTimestamp with cause | starts
  · refine iff_of_true ?_ fun starts same => by cases same
    rintro reason after ⟨⟩
    rfl
  have distinct : starts.Nodup := (windowsContaining_ok assigned).1.imp fun before => before.ne
  simp only [Except.ok.injEq, forall_eq']
  rw [Call.bind_lift_of_ok rfl]
  constructor
  · intro unchanged
    refine takes_or_refuses sound distinct fun reason after failed => unchanged reason after ?_
    rw [Call.bind_of_error failed]
  · rintro (takes | refuses) reason after failed
    · obtain ⟨repairs, between, applied⟩ := applyToWindows_takes sound distinct takes
      have kept := applyToWindows_sound given starts held sound
      rw [applied] at kept
      obtain ⟨_, _, closed, _⟩ := close_returns kept given.partitionKey given.watermark
      rw [Call.bind_of_ok applied, Call.bind_of_ok closed] at failed
      cases failed
    · obtain ⟨cause, raised⟩ := applyToWindows_refuses sound refuses
      rw [Call.bind_of_error raised] at failed
      cases failed
      rfl

/-- A call that returned emits no window without events, and leaves none. -/
theorem observe_counted (sound : rule.Sound held) (counted : Counted held)
    {emissions : List (WindowEmission ρ)} {after : State σ}
    (returned : rule.aggregator.observe given held = (.ok emissions, after)) :
    Counted after ∧ ∀ emission ∈ emissions, emission.eventCount ≠ 0 := by
  by_cases unnamed : given.partitionKey = ""
  · rw [observe, if_pos unnamed] at returned
    cases returned
  by_cases dropped : given.classification = .lateDropped
  · obtain ⟨_, _, closed, _, keeps⟩ := close_returns sound given.partitionKey given.watermark
    rw [observe, if_neg unnamed, if_pos dropped, closed] at returned
    cases returned
    exact keeps counted
  rw [observe_applied unnamed dropped] at returned
  obtain ⟨starts, _, assigned, applying⟩ := Call.bind_eq_ok.mp returned
  obtain ⟨_, rfl⟩ := Prod.mk.injEq .. ▸ assigned
  obtain ⟨repairs, between, applied, closing⟩ := Call.bind_eq_ok.mp applying
  obtain ⟨countedBetween, repaired⟩ := applyToWindows_counted sound counted applied
  have kept := applyToWindows_sound given starts held sound
  rw [applied] at kept
  obtain ⟨_, _, closed, _, keeps⟩ := close_returns kept given.partitionKey given.watermark
  obtain ⟨countedAfter, closures⟩ := keeps countedBetween
  rw [Call.bind_of_ok closed] at closing
  cases closing
  refine ⟨countedAfter, fun emission member => ?_⟩
  rw [List.mem_insertionSort, List.mem_append] at member
  exact member.elim (repaired emission) (closures emission)

/-- A call meets the condition exactly where it leaves the aggregator as it was when it raises;
the rest follows where every window held has an event in it. -/
theorem whole_iff (sound : rule.Sound held) (counted : Counted held) :
    rule.Whole given held ↔ rule.AllOrNothing given held := by
  constructor
  · exact fun whole => (unchanged_iff sound).mp whole.unchanged
  · intro holds
    have unchanged := (unchanged_iff sound).mpr holds
    refine ⟨unchanged, fun emissions after returned => (observe_counted sound counted returned).2,
      ?_⟩
    rintro ⟨applied, starts, assigned, start, member, considered, reason, rejects⟩ key other
    have raises : ∀ emissions after,
        rule.aggregator.observe given held ≠ (.ok emissions, after) := by
      rcases holds with unnamed | dropped | all
      · intro emissions after returned
        rw [observe, if_pos unnamed] at returned
        cases returned
      · exact absurd dropped applied
      · intro emissions after returned
        by_cases unnamed : given.partitionKey = ""
        · rw [observe, if_pos unnamed] at returned
          cases returned
        rcases all starts assigned with takes | refuses
        · rcases takes start member with skips | ⟨_, combined, accepts⟩
          · exact considered skips
          · rw [rejects] at accepts
            cases accepts
        · obtain ⟨cause, raised⟩ := applyToWindows_refuses sound refuses
          rw [observe_applied unnamed applied, Call.bind_lift_of_ok assigned,
            Call.bind_of_error raised] at returned
          cases returned
    rcases outcome : rule.aggregator.observe given held with ⟨cause | emissions, after⟩
    · rw [unchanged cause after outcome]
    · exact absurd outcome (raises emissions after)

end Event

/-- What a run of calls leaves, whether they return or raise. -/
def reached (rule : FallibleRule σ κ ρ) (givens : List (Observation κ)) : State σ :=
  (Call.outcomes rule.aggregator.observe givens {}).2

theorem reached_concat (rule : FallibleRule σ κ ρ) (givens : List (Observation κ))
    (given : Observation κ) :
    rule.reached (givens ++ [given]) = (rule.aggregator.observe given (rule.reached givens)).2 := by
  simp only [reached, Call.outcomes_concat]

theorem reached_sound (rule : FallibleRule σ κ ρ) (givens : List (Observation κ)) :
    rule.Sound (rule.reached givens) := by
  induction givens using List.reverseRecOn with
  | nil => exact sound_empty rule
  | append_singleton givens given ih =>
      rw [reached_concat]
      exact observe_sound rule given _ ih

/-- Each call of the run is made from a state with the property. -/
def AtEach (rule : FallibleRule σ κ ρ) (property : Observation κ → State σ → Prop)
    (givens : List (Observation κ)) : Prop :=
  ∀ before given, before ++ [given] <+: givens → property given (rule.reached before)

/-- Calls that leave nothing half made count every window they leave. -/
theorem reached_counted {rule : FallibleRule σ κ ρ} {givens : List (Observation κ)}
    (holds : rule.AtEach rule.AllOrNothing givens) : Counted (rule.reached givens) := by
  induction givens using List.reverseRecOn with
  | nil =>
      intro key start window found
      cases found
  | append_singleton givens given ih =>
      have earlier := ih fun before other listed =>
        holds before other (listed.trans (List.prefix_append _ _))
      have sound := rule.reached_sound givens
      have unchanged := (unchanged_iff sound).mpr (holds givens given (List.prefix_refl _))
      rw [reached_concat]
      rcases outcome : rule.aggregator.observe given (rule.reached givens) with
        ⟨reason | emissions, after⟩
      · rw [unchanged reason after outcome]
        exact earlier
      · exact (observe_counted sound earlier outcome).1

/-- In a run that goes on after calls that raised, every call is made whole or not at all exactly
where each event is applied to all of its windows, refused by the first, or not applied. -/
theorem calls_whole_iff (rule : FallibleRule σ κ ρ) (givens : List (Observation κ)) :
    rule.AtEach rule.Whole givens ↔ rule.AtEach rule.AllOrNothing givens := by
  constructor
  · intro whole before given listed
    exact (unchanged_iff (rule.reached_sound before)).mp (whole before given listed).unchanged
  · intro holds before given listed
    have earlier : rule.AtEach rule.AllOrNothing before := fun first other within =>
      holds first other (within.trans ((List.prefix_append _ _).trans listed))
    exact (whole_iff (rule.reached_sound before) (reached_counted earlier)).mpr
      (holds before given listed)

/-- Sums over windows of a second, with no lateness tolerated. -/
def secondSums : FallibleRule Double Contribution Double where
  spec := .perSecond
  latenessSeconds := 0
  name := sumAggregation.name
  initial := sumAggregation.initial
  combine := sumAggregation.combine
  finalise := id

example : secondSums.aggregator.aggregation = sumAggregation := rfl

/-- Text where a number is summed. -/
def textEvent : Observation Contribution :=
  ⟨"store-1", .epoch, .other "str", .onTime, .epoch, none⟩

/-- A number two seconds later. -/
def laterEvent : Observation Contribution :=
  ⟨"store-1", .second 2, .whole 1, .onTime, .second 2, none⟩

/-- The text is refused and leaves a window open, which closes without an event. -/
theorem refused_event_closes :
    ¬ secondSums.AtEach secondSums.Whole [textEvent, laterEvent] := by
  intro whole
  have emits : (secondSums.aggregator.observe laterEvent (secondSums.reached [textEvent])).1.map
      (·.map (·.eventCount)) = .ok [0] := by decide +kernel
  rcases outcome : secondSums.aggregator.observe laterEvent (secondSums.reached [textEvent]) with
    ⟨reason | emissions, after⟩
  · rw [outcome] at emits
    cases emits
  · have counted :=
      (whole [textEvent] laterEvent (List.prefix_refl _)).counted emissions after outcome
    rw [outcome] at emits
    have zero : emissions.map (·.eventCount) = [0] := Except.ok.inj emits
    obtain ⟨emission, member, none⟩ := List.mem_map.mp (zero ▸ List.mem_singleton_self 0)
    exact counted emission member none

end FallibleRule

end SignalForge
