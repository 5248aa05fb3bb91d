import SignalForge.WindowRetention

/-! The starts a window aggregator lists against the windows it holds, over calls in any of which
the aggregation may raise at any window. -/

set_option autoImplicit false

namespace SignalForge

namespace WindowAggregator

variable {σ κ ρ : Type}

/-- A call to `observe`, and how the aggregation answers in it: for each window start apart, since
a call combines into a window and finalises it at most once each. -/
structure Attempt (σ κ ρ : Type) where
  given : Observation κ
  answers : Instant → Aggregation σ κ ρ

def answering (aggregator : WindowAggregator σ κ ρ) (aggregation : Aggregation σ κ ρ) :
    WindowAggregator σ κ ρ := { aggregator with aggregation := aggregation }

@[simp] theorem answering_spec (aggregator : WindowAggregator σ κ ρ)
    (aggregation : Aggregation σ κ ρ) :
    (aggregator.answering aggregation).spec = aggregator.spec := rfl

@[simp] theorem answering_lateness (aggregator : WindowAggregator σ κ ρ)
    (aggregation : Aggregation σ κ ρ) :
    (aggregator.answering aggregation).lateness = aggregator.lateness := rfl

def applyToWindowsBy (aggregator : WindowAggregator σ κ ρ) (attempt : Attempt σ κ ρ) :
    List Instant → Call Raised (State σ) (List (WindowEmission ρ))
  | [] => pure []
  | windowStart :: rest => do
      let here ← (aggregator.answering (attempt.answers windowStart)).applyToWindow attempt.given
        windowStart
      let later ← aggregator.applyToWindowsBy attempt rest
      pure (here ++ later)

def closeWindowsBy (aggregator : WindowAggregator σ κ ρ) (attempt : Attempt σ κ ρ) :
    List Instant → Call Raised (State σ) (List (WindowEmission ρ) × List Instant)
  | [] => pure ([], [])
  | windowStart :: rest => do
      let here ← (aggregator.answering (attempt.answers windowStart)).closeWindow
        attempt.given.partitionKey attempt.given.watermark windowStart
      let later ← aggregator.closeWindowsBy attempt rest
      pure (here.1 ++ later.1, here.2 ++ later.2)

def closeEligibleWindowsBy (aggregator : WindowAggregator σ κ ρ) (attempt : Attempt σ κ ρ) :
    Call Raised (State σ) (List (WindowEmission ρ)) := do
  let openStarts ← Call.read fun held => startsFor held attempt.given.partitionKey
  if openStarts = [] then pure []
  else
    let closed ← aggregator.closeWindowsBy attempt openStarts
    Call.write fun held => { held with
      openStarts :=
        if closed.2 = [] then held.openStarts.erase attempt.given.partitionKey
        else held.openStarts.set attempt.given.partitionKey closed.2 }
    pure closed.1

/-- `observe`, the aggregation answering as the attempt has it. -/
def observeBy (aggregator : WindowAggregator σ κ ρ) (attempt : Attempt σ κ ρ) :
    Call Raised (State σ) (List (WindowEmission ρ)) :=
  if attempt.given.partitionKey = "" then
    Call.raise (.valueError "partition_key must be non-empty")
  else if attempt.given.classification = .lateDropped then aggregator.closeEligibleWindowsBy attempt
  else do
    let starts ← Call.lift (windowsContaining aggregator.spec attempt.given.eventTimestamp)
    let repairs ← aggregator.applyToWindowsBy attempt starts
    let closures ← aggregator.closeEligibleWindowsBy attempt
    pure ((repairs ++ closures).insertionSort emissionLe)

section Constant

variable (aggregator : WindowAggregator σ κ ρ) (given : Observation κ)

theorem applyToWindowsBy_const (starts : List Instant) :
    aggregator.applyToWindowsBy ⟨given, fun _ => aggregator.aggregation⟩ starts =
      aggregator.applyToWindows given starts := by
  induction starts with
  | nil => rfl
  | cons start rest ih =>
      rw [applyToWindowsBy, ih, applyToWindows]
      rfl

theorem closeWindowsBy_const (starts : List Instant) :
    aggregator.closeWindowsBy ⟨given, fun _ => aggregator.aggregation⟩ starts =
      aggregator.closeWindows given.partitionKey given.watermark starts := by
  induction starts with
  | nil => rfl
  | cons start rest ih =>
      rw [closeWindowsBy, ih, closeWindows]
      rfl

/-- An aggregation that always answers as the aggregator's own gives the aggregator's own call. -/
theorem observeBy_const :
    aggregator.observeBy ⟨given, fun _ => aggregator.aggregation⟩ = aggregator.observe given := by
  simp only [observeBy, observe, closeEligibleWindowsBy, closeEligibleWindows,
    applyToWindowsBy_const, closeWindowsBy_const]

end Constant

/-- Each key's listed starts ascend and are those of the windows held; no empty list is held. -/
structure Represents (held : State σ) : Prop where
  coherent : WindowRule.Coherent held
  notEmpty : ∀ key, held.openStarts.get? key ≠ some []

/-- There is room for a window at the start and for its sealing horizon. -/
def HasRoom (aggregator : WindowAggregator σ κ ρ) (start : Instant) : Prop :=
  ∃ windowEnd, start.add aggregator.spec.size = .ok windowEnd ∧
    ∃ sealing, windowEnd.add aggregator.lateness = .ok sealing

/-- What calls owe the state: closing what is held raises nothing but what `finalise` does. -/
structure Sound (aggregator : WindowAggregator σ κ ρ) (held : State σ) : Prop where
  represents : Represents held
  room : ∀ key start, (held.states.get? (key, start)).isSome → aggregator.HasRoom start

section Opening

variable {aggregator : WindowAggregator σ κ ρ} {held : State σ}

theorem sound_empty (aggregator : WindowAggregator σ κ ρ) : aggregator.Sound ({} : State σ) where
  represents := ⟨WindowRule.coherent_empty, fun _ held => by cases held⟩
  room _ _ held := by cases held

theorem sound_answering (aggregator : WindowAggregator σ κ ρ) (aggregation : Aggregation σ κ ρ) :
    (aggregator.answering aggregation).Sound = aggregator.Sound := by
  funext held
  exact propext ⟨fun sound => ⟨sound.represents, sound.room⟩,
    fun sound => ⟨sound.represents, sound.room⟩⟩

/-- A window held is given another value. -/
theorem Sound.set (sound : aggregator.Sound held) {key : String} {start : Instant}
    (present : (held.states.get? (key, start)).isSome) (window : WindowState σ) :
    aggregator.Sound { held with states := held.states.set (key, start) window } := by
  have same : ∀ otherKey other,
      ((held.states.set (key, start) window).get? (otherKey, other)).isSome =
        (held.states.get? (otherKey, other)).isSome := by
    intro otherKey other
    rw [WindowRule.get?_set_window]
    split
    · rename_i here
      rw [here.1, here.2, present, Option.isSome_some]
    · rfl
  refine ⟨⟨⟨sound.represents.coherent.sorted, ?_⟩, sound.represents.notEmpty⟩, ?_⟩
  · intro otherKey other
    rw [same]
    exact sound.represents.coherent.retained otherKey other
  · intro otherKey other stored
    rw [same] at stored
    exact sound.room otherKey other stored

theorem insort_ne_nil (start : Instant) (starts : List Instant) : insort start starts ≠ [] := by
  have listed := (WindowRule.mem_insort start start starts).mpr (Or.inl rfl)
  exact List.ne_nil_of_mem listed

/-- A window is opened where none is held. -/
theorem Sound.opened (sound : aggregator.Sound held) {key : String} {start : Instant}
    (absent : held.states.get? (key, start) = none) (room : aggregator.HasRoom start)
    (window : WindowState σ) :
    aggregator.Sound (σ := σ) ⟨held.states.set (key, start) window,
      held.openStarts.modify key [] (insort start)⟩ := by
  refine ⟨⟨sound.represents.coherent.opened absent window, ?_⟩, ?_⟩
  · intro otherKey
    simp only [OrderedDict.get?_modify]
    split
    · exact fun empty => insort_ne_nil _ _ (Option.some.inj empty)
    · exact sound.represents.notEmpty otherKey
  · intro otherKey other stored
    simp only [WindowRule.get?_set_window] at stored
    split at stored
    · rename_i here
      exact here.2 ▸ room
    · exact sound.room otherKey other stored

/-- Whether it returns or raises, opening a window leaves what calls are owed; what it returns is
held. -/
theorem openWindow_sound (sound : aggregator.Sound held) (key : String)
    {start windowEnd : Instant} (watermark : Instant)
    (added : start.add aggregator.spec.size = .ok windowEnd) :
    aggregator.Sound (aggregator.openWindow key start windowEnd watermark held).2 ∧
      ∀ window after,
        aggregator.openWindow key start windowEnd watermark held = (.ok (some window), after) →
        (after.states.get? (key, start)).isSome := by
  rw [openWindow, Call.bind_of_ok (Call.read_apply _ _)]
  rcases found : held.states.get? (key, start) with _ | window
  · rcases horizon : windowEnd.add aggregator.lateness with reason | sealing
    · exact ⟨sound, fun window after returned => by cases returned⟩
    · simp only [Call.bind_apply, Call.lift_apply]
      split
      · exact ⟨sound, fun window after returned => by cases returned⟩
      · refine ⟨sound.opened found ⟨windowEnd, added, sealing, horizon⟩ _, ?_⟩
        rintro window after ⟨⟩
        rw [OrderedDict.get?_set_self, Option.isSome_some]
  · refine ⟨sound, ?_⟩
    rintro window after ⟨⟩
    rw [found, Option.isSome_some]

theorem applyToWindow_keepsSound (aggregator : WindowAggregator σ κ ρ) (given : Observation κ)
    (start : Instant) : Call.Keeps aggregator.Sound (aggregator.applyToWindow given start) := by
  refine Call.keeps_lift_bind fun windowEnd added => ?_
  intro held sound
  obtain ⟨kept, stored⟩ := openWindow_sound sound given.partitionKey given.watermark added
  rcases opening : aggregator.openWindow given.partitionKey start windowEnd given.watermark held
    with ⟨reason | opened, between⟩
  · rw [opening] at kept
    rw [Call.bind_of_error opening]
    exact kept
  rw [opening] at kept
  rw [Call.bind_of_ok opening]
  cases opened with
  | none => exact kept
  | some window =>
      -- the window stays held, so that writing it back lists nothing new
      let Held (held : State σ) : Prop :=
        aggregator.Sound held ∧ (held.states.get? (given.partitionKey, start)).isSome
      have keeps : ∀ updated : WindowState σ, Call.Keeps Held (Call.write (ε := Raised)
          fun held => { held with
            states := held.states.set (given.partitionKey, start) updated }) := by
        intro updated
        refine Call.keeps_write fun held both => ⟨both.1.set both.2 updated, ?_⟩
        rw [OrderedDict.get?_set_self, Option.isSome_some]
      refine And.left ((show Call.Keeps Held _ from (Call.keeps_lift _).bind fun combined => ?_)
        between ⟨kept, stored window between opening⟩)
      refine (keeps _).bind fun _ => ?_
      split
      · exact Call.Keeps.bind (emit_keeps _ _ _ _ _) fun _ => Call.keeps_pure _
      · exact Call.keeps_pure _

theorem applyToWindowsBy_keepsSound (aggregator : WindowAggregator σ κ ρ)
    (attempt : Attempt σ κ ρ) (starts : List Instant) :
    Call.Keeps aggregator.Sound (aggregator.applyToWindowsBy attempt starts) := by
  induction starts with
  | nil => exact Call.keeps_pure _
  | cons start rest ih =>
      have here := applyToWindow_keepsSound (aggregator.answering (attempt.answers start))
        attempt.given start
      rw [sound_answering] at here
      exact here.bind fun _ => ih.bind fun _ => Call.keeps_pure _

end Opening

/-- The watermark has reached the window's end. -/
def Due (aggregator : WindowAggregator σ κ ρ) (watermark start : Instant) : Prop :=
  start.micros + aggregator.spec.size ≤ watermark.micros

/-- The window's first closure falls to this call, and `finalise` raises in it. -/
def Balks (aggregator : WindowAggregator σ κ ρ) (attempt : Attempt σ κ ρ) (held : State σ)
    (start : Instant) : Prop :=
  ∃ window, held.states.get? (attempt.given.partitionKey, start) = some window ∧
    window.hasEmitted = false ∧ aggregator.Due attempt.given.watermark start ∧
    ∃ reason, (attempt.answers start).finalise window.state = .error reason

instance (aggregator : WindowAggregator σ κ ρ) (watermark start : Instant) :
    Decidable (aggregator.PastHorizon watermark start) := inferInstanceAs (Decidable (_ < _))

/-- The starts whose windows closing keeps. -/
def unsealed (aggregator : WindowAggregator σ κ ρ) (watermark : Instant) (starts : List Instant) :
    List Instant :=
  starts.filter fun start => ¬ aggregator.PastHorizon watermark start

/-- Windows of a key whose turns in the closing loop are over: evicted past their horizons, still
listed. -/
structure Passed (aggregator : WindowAggregator σ κ ρ) (key : String) (watermark : Instant)
    (starts : List Instant) (held after : State σ) : Prop where
  openStarts : after.openStarts = held.openStarts
  others : ∀ otherKey other, ¬ (otherKey = key ∧ other ∈ starts) →
    after.states.get? (otherKey, other) = held.states.get? (otherKey, other)
  own : ∀ start ∈ starts,
    (after.states.get? (key, start)).isSome ↔ ¬ aggregator.PastHorizon watermark start

/-- What the closing loop comes to: it goes through, or it raises at the first window that
balks. -/
inductive ClosingOutcome (aggregator : WindowAggregator σ κ ρ) (attempt : Attempt σ κ ρ)
    (starts : List Instant) (held : State σ) :
    Except Raised (List (WindowEmission ρ) × List Instant) × State σ → Prop
  | through (emissions : List (WindowEmission ρ)) (after : State σ)
      (easy : ∀ start ∈ starts, ¬ aggregator.Balks attempt held start)
      (passed : aggregator.Passed attempt.given.partitionKey attempt.given.watermark starts held
        after) :
      ClosingOutcome aggregator attempt starts held
        (.ok (emissions, aggregator.unsealed attempt.given.watermark starts), after)
  | upTo (front : List Instant) (start : Instant) (back : List Instant) (reason : Raised)
      (after : State σ) (split : starts = front ++ start :: back)
      (easy : ∀ start ∈ front, ¬ aggregator.Balks attempt held start)
      (balks : aggregator.Balks attempt held start)
      (passed : aggregator.Passed attempt.given.partitionKey attempt.given.watermark front held
        after) :
      ClosingOutcome aggregator attempt starts held (.error reason, after)

section Closing

variable {aggregator : WindowAggregator σ κ ρ} {attempt : Attempt σ κ ρ} {held : State σ}

theorem passed_nil (aggregator : WindowAggregator σ κ ρ) (key : String) (watermark : Instant)
    (held : State σ) : aggregator.Passed key watermark [] held held where
  openStarts := rfl
  others _ _ _ := rfl
  own := List.forall_mem_nil _

theorem Passed.cons {key : String} {watermark start : Instant} {rest : List Instant}
    {between after : State σ} (here : aggregator.Passed key watermark [start] held between)
    (later : aggregator.Passed key watermark rest between after) (apart : start ∉ rest) :
    aggregator.Passed key watermark (start :: rest) held after where
  openStarts := later.openStarts.trans here.openStarts
  others otherKey other outside := by
    rw [later.others otherKey other fun both => outside ⟨both.1, List.mem_cons_of_mem _ both.2⟩]
    refine here.others otherKey other fun both => outside ⟨both.1, ?_⟩
    exact List.mem_cons.mpr (Or.inl (List.mem_singleton.mp both.2))
  own := by
    refine List.forall_mem_cons.mpr ⟨?_, later.own⟩
    rw [later.others key start fun both => apart both.2]
    exact here.own start (List.mem_singleton_self start)

/-- The first closure of a window held raises and writes nothing, or it leaves the window held. -/
theorem emitClosure_cases (aggregator : WindowAggregator σ κ ρ) {key : String}
    {start : Instant} {window : WindowState σ}
    (found : held.states.get? (key, start) = some window) (watermark windowEnd : Instant) :
    (∃ reason, (window.hasEmitted = false ∧ windowEnd ≤ watermark ∧
          aggregator.aggregation.finalise window.state = .error reason) ∧
        aggregator.emitClosure key watermark start windowEnd window held = (.error reason, held)) ∨
      ((¬ ∃ reason, window.hasEmitted = false ∧ windowEnd ≤ watermark ∧
          aggregator.aggregation.finalise window.state = .error reason) ∧
        ∃ emissions states,
          aggregator.emitClosure key watermark start windowEnd window held =
            (.ok emissions, { held with states := states }) ∧
          (states.get? (key, start)).isSome ∧
          ∀ otherKey other, ¬ (otherKey = key ∧ other = start) →
            states.get? (otherKey, other) = held.states.get? (otherKey, other)) := by
  rw [emitClosure]
  split
  · rename_i isDue
    rcases finalising : aggregator.aggregation.finalise window.state with reason | value
    · refine Or.inl ⟨reason, ⟨isDue.1, isDue.2, rfl⟩, ?_⟩
      simp only [emit, Call.bind_apply, Call.lift_apply, finalising]
    · obtain ⟨emitted, emits⟩ : ∃ emitted,
          aggregator.emit key start windowEnd window false held = (.ok emitted, held) :=
        ⟨_, Call.bind_lift_of_ok finalising _ held⟩
      refine Or.inr ⟨?_, [emitted], held.states.set (key, start) { window with hasEmitted := true },
        Call.bind_of_ok emits _, ?_, ?_⟩
      · rintro ⟨reason, _, _, failed⟩
        cases failed
      · rw [OrderedDict.get?_set_self, Option.isSome_some]
      · intro otherKey other apart
        rw [WindowRule.get?_set_window, if_neg apart]
  · rename_i notDue
    refine Or.inr ⟨?_, [], held.states, rfl, ?_, fun _ _ _ => rfl⟩
    · rintro ⟨reason, unemitted, due, _⟩
      exact notDue ⟨unemitted, due⟩
    · rw [found, Option.isSome_some]

section

variable {key : String} {watermark start : Instant}
  {states : OrderedDict (String × Instant) (WindowState σ)}
  (others : ∀ otherKey other, ¬ (otherKey = key ∧ other = start) →
    states.get? (otherKey, other) = held.states.get? (otherKey, other))

include others

theorem passed_evicted (past : aggregator.PastHorizon watermark start) :
    aggregator.Passed key watermark [start] held
      { held with states := states.erase (key, start) } where
  openStarts := rfl
  others otherKey other outside := by
    rw [List.mem_singleton] at outside
    rw [WindowRule.get?_erase_window, if_neg outside]
    exact others otherKey other outside
  own := by
    refine List.forall_mem_singleton.mpr ?_
    simp only [OrderedDict.get?_erase_self, Option.isSome_none, Bool.false_eq_true, past,
      not_true_eq_false]

theorem passed_kept (present : (states.get? (key, start)).isSome)
    (notPast : ¬ aggregator.PastHorizon watermark start) :
    aggregator.Passed key watermark [start] held { held with states := states } where
  openStarts := rfl
  others otherKey other outside := by
    rw [List.mem_singleton] at outside
    exact others otherKey other outside
  own := List.forall_mem_singleton.mpr (iff_of_true present notPast)

end

/-- A window held, with room, closes unless it balks, and then nothing is written. -/
theorem closeWindow_cases {start : Instant} {window : WindowState σ}
    (found : held.states.get? (attempt.given.partitionKey, start) = some window)
    (room : aggregator.HasRoom start) :
    (aggregator.Balks attempt held start ∧ ∃ reason,
        (aggregator.answering (attempt.answers start)).closeWindow attempt.given.partitionKey
          attempt.given.watermark start held = (.error reason, held)) ∨
      (¬ aggregator.Balks attempt held start ∧ ∃ emissions after,
        (aggregator.answering (attempt.answers start)).closeWindow attempt.given.partitionKey
          attempt.given.watermark start held =
            (.ok (emissions, aggregator.unsealed attempt.given.watermark [start]), after) ∧
        aggregator.Passed attempt.given.partitionKey attempt.given.watermark [start] held after) := by
  obtain ⟨windowEnd, added, sealing, horizon⟩ := room
  have ends := Instant.add_eq_ok.mp added
  have due : windowEnd ≤ attempt.given.watermark ↔
      aggregator.Due attempt.given.watermark start := by
    rw [Instant.le_def, ends, Due]
  have past : sealing < attempt.given.watermark ↔
      aggregator.PastHorizon attempt.given.watermark start := by
    rw [Instant.lt_def, Instant.add_eq_ok.mp horizon, ends, PastHorizon]
  rw [closeWindow, answering_spec, answering_lateness, Call.bind_lift_of_ok added,
    Call.bind_of_ok (Call.read_apply _ _), found]
  dsimp only
  rcases emitClosure_cases (aggregator.answering (attempt.answers start)) found
    attempt.given.watermark windowEnd with ⟨reason, balks, failed⟩ |
      ⟨easy, emissions, states, closing, present, others⟩
  · refine Or.inl ⟨?_, reason, Call.bind_of_error failed _⟩
    exact ⟨window, found, balks.1, due.mp balks.2.1, reason, balks.2.2⟩
  · refine Or.inr ⟨?_, ?_⟩
    · rintro ⟨other, sameWindow, unemitted, isDue, reason, failed⟩
      obtain rfl := Option.some.inj (found.symm.trans sameWindow)
      exact easy ⟨reason, unemitted, due.mpr isDue, failed⟩
    · rw [Call.bind_of_ok closing, Call.bind_lift_of_ok horizon]
      by_cases isPast : aggregator.PastHorizon attempt.given.watermark start
      · have none : aggregator.unsealed attempt.given.watermark [start] = [] := by
          simp only [unsealed, isPast, not_true_eq_false, decide_false, Bool.false_eq_true,
            not_false_eq_true, List.filter_cons_of_neg, List.filter_nil]
        rw [if_pos (past.mpr isPast), none]
        exact ⟨emissions, _, rfl, passed_evicted others isPast⟩
      · have itself : aggregator.unsealed attempt.given.watermark [start] = [start] := by
          simp only [unsealed, isPast, not_false_eq_true, decide_true, List.filter_cons_of_pos,
            List.filter_nil]
        rw [if_neg (past.not.mpr isPast), itself]
        exact ⟨emissions, _, rfl, passed_kept others present isPast⟩

theorem Passed.balks_iff {starts : List Instant} {after : State σ} {start : Instant}
    (passed : aggregator.Passed attempt.given.partitionKey attempt.given.watermark starts held after)
    (outside : start ∉ starts) :
    aggregator.Balks attempt after start ↔ aggregator.Balks attempt held start := by
  simp only [Balks, passed.others _ start fun both => outside both.2]

/-- The loop goes on behind a window that closed as it would have from the start. -/
theorem ClosingOutcome.cons {first : Instant} {rest : List Instant} {between : State σ}
    {closing : Call Raised (State σ) (List (WindowEmission ρ) × List Instant)}
    (apart : first ∉ rest) (easy : ¬ aggregator.Balks attempt held first)
    (here : aggregator.Passed attempt.given.partitionKey attempt.given.watermark [first] held
      between)
    (outcome : aggregator.ClosingOutcome attempt rest between (closing between))
    (emissions : List (WindowEmission ρ)) :
    aggregator.ClosingOutcome attempt (first :: rest) held ((closing >>= fun later =>
      pure (emissions ++ later.1,
        aggregator.unsealed attempt.given.watermark [first] ++ later.2)) between) := by
  have alike : ∀ start ∈ rest,
      (aggregator.Balks attempt between start ↔ aggregator.Balks attempt held start) :=
    fun start member => here.balks_iff fun same => apart (List.mem_singleton.mp same ▸ member)
  rcases closed : closing between with ⟨reason | later, after⟩
  · rw [closed] at outcome
    rw [Call.bind_of_error closed]
    cases outcome with
    | upTo front start back _ _ split easier balks passed =>
        subst split
        refine .upTo (first :: front) start back reason after rfl ?_ ?_
          (here.cons passed fun member => apart (List.mem_append_left _ member))
        · refine List.forall_mem_cons.mpr ⟨easy, fun other member => ?_⟩
          rw [← alike other (List.mem_append_left _ member)]
          exact easier other member
        · exact (alike start (List.mem_append_right _ (List.mem_cons_self ..))).mp balks
  · rw [closed] at outcome
    rw [Call.bind_of_ok closed]
    cases outcome with
    | through further _ easier passed =>
        have kept : aggregator.unsealed attempt.given.watermark [first] ++
            aggregator.unsealed attempt.given.watermark rest =
              aggregator.unsealed attempt.given.watermark (first :: rest) :=
          (List.filter_append ..).symm
        rw [kept]
        refine .through _ after ?_ (here.cons passed apart)
        refine List.forall_mem_cons.mpr ⟨easy, fun other member => ?_⟩
        rw [← alike other member]
        exact easier other member

/-- The closing loop over windows that are all held, with room. -/
theorem closeWindowsBy_outcome (aggregator : WindowAggregator σ κ ρ) (attempt : Attempt σ κ ρ)
    {starts : List Instant} (distinct : starts.Nodup)
    (stored : ∀ start ∈ starts,
      (held.states.get? (attempt.given.partitionKey, start)).isSome ∧ aggregator.HasRoom start) :
    aggregator.ClosingOutcome attempt starts held
      (aggregator.closeWindowsBy attempt starts held) := by
  induction starts generalizing held with
  | nil => exact .through [] held (List.forall_mem_nil _) (passed_nil _ _ _ _)
  | cons first rest ih =>
      obtain ⟨apart, distinct⟩ := List.nodup_cons.mp distinct
      obtain ⟨⟨present, room⟩, others⟩ := List.forall_mem_cons.mp stored
      obtain ⟨window, found⟩ := Option.isSome_iff_exists.mp present
      rw [closeWindowsBy]
      rcases closeWindow_cases found room with
        ⟨balks, reason, failed⟩ | ⟨easy, emissions, between, closed, here⟩
      · rw [Call.bind_of_error failed]
        exact .upTo [] first rest reason held rfl (List.forall_mem_nil _) balks
          (passed_nil _ _ _ _)
      · rw [Call.bind_of_ok closed]
        refine ClosingOutcome.cons apart easy here (ih distinct fun start member => ?_) emissions
        have outside : start ∉ [first] := fun same => apart (List.mem_singleton.mp same ▸ member)
        rw [here.others _ start fun both => outside both.2]
        exact others start member

theorem Passed.startsFor_eq {key : String} {watermark : Instant} {starts : List Instant}
    {after : State σ} (passed : aggregator.Passed key watermark starts held after)
    (otherKey : String) : startsFor after otherKey = startsFor held otherKey := by
  rw [startsFor, passed.openStarts, startsFor]

/-- The windows that passed are held but for those past their horizons. -/
theorem Passed.isSome_iff {key : String} {watermark : Instant} {starts : List Instant}
    {after : State σ} (passed : aggregator.Passed key watermark starts held after)
    (stored : ∀ start ∈ starts, (held.states.get? (key, start)).isSome) (otherKey : String)
    (other : Instant) :
    (after.states.get? (otherKey, other)).isSome ↔
      (held.states.get? (otherKey, other)).isSome ∧
        ¬ (otherKey = key ∧ other ∈ starts ∧ aggregator.PastHorizon watermark other) := by
  by_cases member : otherKey = key ∧ other ∈ starts
  · obtain ⟨rfl, member⟩ := member
    rw [passed.own other member]
    simp only [stored other member, member, true_and]
  · rw [passed.others otherKey other member]
    simp only [← and_assoc, member, false_and, not_false_eq_true, and_true]

theorem Sound.stored (sound : aggregator.Sound held) (key : String) :
    ∀ start ∈ startsFor held key,
      (held.states.get? (key, start)).isSome ∧ aggregator.HasRoom start := by
  intro start listed
  have present := (sound.represents.coherent.retained key start).mp listed
  exact ⟨present, sound.room key start present⟩

theorem Sound.distinct (sound : aggregator.Sound held) (key : String) :
    (startsFor held key).Nodup :=
  (sound.represents.coherent.sorted key).imp fun before => before.ne

/-- Where nothing was evicted, the list that stays is right. -/
theorem Passed.sound_of_raised (sound : aggregator.Sound held) {key : String} {watermark : Instant}
    {starts : List Instant} {after : State σ}
    (passed : aggregator.Passed key watermark starts held after)
    (listed : starts ⊆ startsFor held key)
    (notPast : ∀ start ∈ starts, ¬ aggregator.PastHorizon watermark start) :
    aggregator.Sound after := by
  have same : ∀ otherKey other, (after.states.get? (otherKey, other)).isSome ↔
      (held.states.get? (otherKey, other)).isSome := by
    intro otherKey other
    rw [passed.isSome_iff fun start member => (sound.stored key start (listed member)).1]
    exact and_iff_left fun both => notPast other both.2.1 both.2.2
  refine ⟨⟨⟨?_, ?_⟩, ?_⟩, ?_⟩
  · intro otherKey
    rw [passed.startsFor_eq]
    exact sound.represents.coherent.sorted otherKey
  · intro otherKey other
    rw [passed.startsFor_eq, same]
    exact sound.represents.coherent.retained otherKey other
  · rw [passed.openStarts]
    exact sound.represents.notEmpty
  · intro otherKey other present
    exact sound.room otherKey other ((same otherKey other).mp present)

/-- Where every window passed, replacing the list makes it right again. -/
theorem Passed.sound_of_through (sound : aggregator.Sound held) {key : String}
    {watermark : Instant} {after : State σ}
    (passed : aggregator.Passed key watermark (startsFor held key) held after) :
    aggregator.Sound { after with
      openStarts :=
        if aggregator.unsealed watermark (startsFor held key) = [] then after.openStarts.erase key
        else after.openStarts.set key (aggregator.unsealed watermark (startsFor held key)) } := by
  have same := passed.isSome_iff fun start member => (sound.stored key start member).1
  refine ⟨⟨⟨?_, ?_⟩, ?_⟩, ?_⟩
  · intro otherKey
    rw [startsFor_put, passed.startsFor_eq]
    split
    · exact (sound.represents.coherent.sorted key).filter _
    · exact sound.represents.coherent.sorted otherKey
  · intro otherKey other
    rw [startsFor_put, passed.startsFor_eq, same]
    have retained := sound.represents.coherent.retained otherKey other
    by_cases sameKey : otherKey = key
    · subst sameKey
      simp only [↓reduceIte, unsealed, List.mem_filter, decide_not, Bool.not_eq_true',
        decide_eq_false_iff_not, true_and, ← retained]
      exact and_congr_right fun listed => (not_congr (and_iff_right listed)).symm
    · simp only [sameKey, ↓reduceIte, false_and, not_false_eq_true, and_true]
      exact retained
  · intro otherKey
    dsimp only
    split
    · rw [passed.openStarts, OrderedDict.get?_erase]
      split
      · intro held
        cases held
      · exact sound.represents.notEmpty otherKey
    · rename_i someKept
      rw [passed.openStarts, OrderedDict.get?_set]
      split
      · exact fun empty => someKept (Option.some.inj empty)
      · exact sound.represents.notEmpty otherKey
  · intro otherKey other present
    exact sound.room otherKey other ((same otherKey other).mp present).1

/-- Closing starts on a window to evict that does not balk, and one behind it balks. -/
def SpoilsClosing (aggregator : WindowAggregator σ κ ρ) (attempt : Attempt σ κ ρ)
    (held : State σ) : Prop :=
  ∃ first rest, startsFor held attempt.given.partitionKey = first :: rest ∧
    aggregator.PastHorizon attempt.given.watermark first ∧
    ¬ aggregator.Balks attempt held first ∧ ∃ start ∈ rest, aggregator.Balks attempt held start

/-- The closing loop comes to a listed window that is not held. -/
def MissesClosing (aggregator : WindowAggregator σ κ ρ) (attempt : Attempt σ κ ρ)
    (held : State σ) : Prop :=
  ∃ front start back closed between windowEnd,
    startsFor held attempt.given.partitionKey = front ++ start :: back ∧
    aggregator.closeWindowsBy attempt front held = (.ok closed, between) ∧
    start.add aggregator.spec.size = .ok windowEnd ∧
    between.states.get? (attempt.given.partitionKey, start) = none

/-- A window in front of one that is not past its horizon is not past its own. -/
theorem PastHorizon.of_le {watermark start other : Instant}
    (past : aggregator.PastHorizon watermark other) (before : start ≤ other) :
    aggregator.PastHorizon watermark start := by
  rw [Instant.le_def] at before
  unfold PastHorizon at *
  omega

theorem closeEligibleWindowsBy_sound (sound : aggregator.Sound held)
    (unspoiled : ¬ aggregator.SpoilsClosing attempt held) :
    aggregator.Sound (aggregator.closeEligibleWindowsBy attempt held).2 := by
  rw [closeEligibleWindowsBy, Call.bind_of_ok (Call.read_apply _ _)]
  split
  · exact sound
  have outcome := closeWindowsBy_outcome aggregator attempt
    (sound.distinct attempt.given.partitionKey) (sound.stored attempt.given.partitionKey)
  rcases closing : aggregator.closeWindowsBy attempt (startsFor held attempt.given.partitionKey)
    held with ⟨reason | closed, between⟩
  · rw [closing] at outcome
    rw [Call.bind_of_error closing]
    cases outcome with
    | upTo front start back _ _ split easy balks passed =>
        refine passed.sound_of_raised sound (split ▸ List.subset_append_left _ _) ?_
        intro other member past
        -- the first window is past its horizon with any other, and it passed
        cases front with
        | nil => cases member
        | cons first front =>
            have sorted := sound.represents.coherent.sorted attempt.given.partitionKey
            rw [split] at sorted
            have before : first ≤ other := by
              rcases List.mem_cons.mp member with rfl | later
              · exact le_refl _
              · exact ((List.pairwise_cons.mp sorted).1 other (List.mem_append_left _ later)).le
            exact unspoiled ⟨first, front ++ start :: back, split, past.of_le before,
              easy first (List.mem_cons_self ..), start,
              List.mem_append_right _ (List.mem_cons_self ..), balks⟩
  · rw [closing] at outcome
    rw [Call.bind_of_ok closing, Call.bind_of_ok (Call.write_apply _ _)]
    cases outcome with
    | through emissions _ easy passed => exact passed.sound_of_through sound

/-- The evicted window stays listed. -/
theorem closeEligibleWindowsBy_spoils (sound : aggregator.Sound held)
    (spoils : aggregator.SpoilsClosing attempt held) :
    ¬ Represents (aggregator.closeEligibleWindowsBy attempt held).2 := by
  obtain ⟨first, rest, starts, past, easyFirst, start, member, balks⟩ := spoils
  have listed : first ∈ startsFor held attempt.given.partitionKey :=
    starts ▸ List.mem_cons_self ..
  rw [closeEligibleWindowsBy, Call.bind_of_ok (Call.read_apply _ _),
    if_neg (List.ne_nil_of_mem listed)]
  have outcome := closeWindowsBy_outcome aggregator attempt
    (sound.distinct attempt.given.partitionKey) (sound.stored attempt.given.partitionKey)
  rcases closing : aggregator.closeWindowsBy attempt (startsFor held attempt.given.partitionKey)
    held with ⟨reason | closed, between⟩
  · rw [closing] at outcome
    rw [Call.bind_of_error closing]
    cases outcome with
    | upTo front other back _ _ split easy otherBalks passed =>
        have passedFirst : first ∈ front := by
          cases front with
          | nil =>
              rw [starts] at split
              exact absurd ((List.cons.inj split).1 ▸ otherBalks) easyFirst
          | cons head front =>
              rw [starts] at split
              exact List.mem_cons.mpr (Or.inl (List.cons.inj split).1)
        intro represents
        have stays : first ∈ startsFor between attempt.given.partitionKey := by
          rw [passed.startsFor_eq]
          exact listed
        have present := (represents.coherent.retained _ first).mp stays
        exact (passed.own first passedFirst).mp present past
  · rw [closing] at outcome
    cases outcome with
    | through emissions _ easy passed =>
        exact absurd balks (easy start (starts ▸ List.mem_cons_of_mem _ member))

/-- Every window that the closing loop looks up is held. -/
theorem not_missesClosing (sound : aggregator.Sound held) :
    ¬ aggregator.MissesClosing attempt held := by
  rintro ⟨front, start, back, closed, between, windowEnd, split, closing, _, missing⟩
  have distinct := sound.distinct attempt.given.partitionKey
  have stored := sound.stored attempt.given.partitionKey
  rw [split] at distinct stored
  have outcome := closeWindowsBy_outcome aggregator attempt
    (List.nodup_append.mp distinct).1 fun other member =>
      stored other (List.mem_append_left _ member)
  rw [closing] at outcome
  cases outcome with
  | through emissions _ easy passed =>
      have outside : start ∉ front := fun member =>
        (List.nodup_append.mp distinct).2.2 start member start (List.mem_cons_self ..) rfl
      have present := (stored start (List.mem_append_right _ (List.mem_cons_self ..))).1
      rw [← passed.others _ start fun both => outside both.2, missing] at present
      cases present

end Closing

/-- The call comes to closing its key's windows, in the state given last. -/
def EntersClosing (aggregator : WindowAggregator σ κ ρ) (attempt : Attempt σ κ ρ)
    (held between : State σ) : Prop :=
  attempt.given.partitionKey ≠ "" ∧
    (attempt.given.classification = .lateDropped ∧ between = held ∨
      attempt.given.classification ≠ .lateDropped ∧ ∃ starts repairs,
        windowsContaining aggregator.spec attempt.given.eventTimestamp = .ok starts ∧
        aggregator.applyToWindowsBy attempt starts held = (.ok repairs, between))

/-- The call comes to a closing that it spoils. -/
def Spoils (aggregator : WindowAggregator σ κ ρ) (attempt : Attempt σ κ ρ) (held : State σ) : Prop :=
  ∃ between, aggregator.EntersClosing attempt held between ∧
    aggregator.SpoilsClosing attempt between

/-- The call comes to a closing that looks up a window which is not held. -/
def Misses (aggregator : WindowAggregator σ κ ρ) (attempt : Attempt σ κ ρ) (held : State σ) : Prop :=
  ∃ between, aggregator.EntersClosing attempt held between ∧
    aggregator.MissesClosing attempt between

section Observing

variable {aggregator : WindowAggregator σ κ ρ} {attempt : Attempt σ κ ρ} {held between : State σ}

theorem EntersClosing.sound (enters : aggregator.EntersClosing attempt held between)
    (sound : aggregator.Sound held) : aggregator.Sound between := by
  obtain ⟨_, ⟨_, rfl⟩ | ⟨_, starts, repairs, _, applied⟩⟩ := enters
  · exact sound
  · have kept := applyToWindowsBy_keepsSound aggregator attempt starts held sound
    rwa [applied] at kept

/-- What such a call leaves is what closing leaves. -/
theorem EntersClosing.leaves (enters : aggregator.EntersClosing attempt held between) :
    (aggregator.observeBy attempt held).2 =
      (aggregator.closeEligibleWindowsBy attempt between).2 := by
  obtain ⟨named, ⟨dropped, rfl⟩ | ⟨notDropped, starts, repairs, assigned, applied⟩⟩ := enters
  · rw [observeBy, if_neg named, if_pos dropped]
  · rw [observeBy, if_neg named, if_neg notDropped, Call.bind_lift_of_ok assigned,
      Call.bind_of_ok applied, Call.bind_apply]
    rcases aggregator.closeEligibleWindowsBy attempt between with ⟨reason | closures, after⟩ <;> rfl

/-- A call that does not come to closing leaves what calls are owed. -/
theorem observeBy_enters (attempt : Attempt σ κ ρ) (sound : aggregator.Sound held) :
    (∃ between, aggregator.EntersClosing attempt held between) ∨
      aggregator.Sound (aggregator.observeBy attempt held).2 := by
  by_cases unnamed : attempt.given.partitionKey = ""
  · rw [observeBy, if_pos unnamed]
    exact Or.inr sound
  by_cases dropped : attempt.given.classification = .lateDropped
  · exact Or.inl ⟨held, unnamed, Or.inl ⟨dropped, rfl⟩⟩
  rcases assigned : windowsContaining aggregator.spec attempt.given.eventTimestamp with
    reason | starts
  · rw [observeBy, if_neg unnamed, if_neg dropped, Call.bind_lift_of_error assigned]
    exact Or.inr sound
  rcases applied : aggregator.applyToWindowsBy attempt starts held with ⟨reason | repairs, between⟩
  · have kept := applyToWindowsBy_keepsSound aggregator attempt starts held sound
    rw [applied] at kept
    rw [observeBy, if_neg unnamed, if_neg dropped, Call.bind_lift_of_ok assigned,
      Call.bind_of_error applied]
    exact Or.inr kept
  · exact Or.inl ⟨between, unnamed, Or.inr ⟨dropped, starts, repairs, assigned, applied⟩⟩

theorem observeBy_sound (sound : aggregator.Sound held)
    (unspoiled : ¬ aggregator.Spoils attempt held) :
    aggregator.Sound (aggregator.observeBy attempt held).2 := by
  rcases observeBy_enters attempt sound with ⟨between, enters⟩ | kept
  · rw [enters.leaves]
    exact closeEligibleWindowsBy_sound (enters.sound sound)
      fun spoils => unspoiled ⟨between, enters, spoils⟩
  · exact kept

theorem observeBy_spoils (sound : aggregator.Sound held)
    (spoils : aggregator.Spoils attempt held) :
    ¬ Represents (aggregator.observeBy attempt held).2 := by
  obtain ⟨between, enters, spoils⟩ := spoils
  rw [enters.leaves]
  exact closeEligibleWindowsBy_spoils (enters.sound sound) spoils

theorem Sound.not_misses (sound : aggregator.Sound held) : ¬ aggregator.Misses attempt held := by
  rintro ⟨between, enters, misses⟩
  exact not_missesClosing (enters.sound sound) misses

end Observing

section Run

variable {aggregator : WindowAggregator σ κ ρ} {attempts : List (Attempt σ κ ρ)}

/-- What the calls leave, each made whether the one before it returned or raised. -/
def stateAfter (aggregator : WindowAggregator σ κ ρ) (attempts : List (Attempt σ κ ρ)) : State σ :=
  (Call.outcomes aggregator.observeBy attempts {}).2

theorem stateAfter_concat (aggregator : WindowAggregator σ κ ρ) (attempts : List (Attempt σ κ ρ))
    (attempt : Attempt σ κ ρ) : aggregator.stateAfter (attempts ++ [attempt]) =
      (aggregator.observeBy attempt (aggregator.stateAfter attempts)).2 := by
  rw [stateAfter, Call.outcomes_concat]
  rfl

/-- Calls none of which spoils a closing. -/
def Unspoiled (aggregator : WindowAggregator σ κ ρ) (attempts : List (Attempt σ κ ρ)) : Prop :=
  ∀ earlier attempt, earlier ++ [attempt] <+: attempts →
    ¬ aggregator.Spoils attempt (aggregator.stateAfter earlier)

/-- Behind every call the listed starts are those of the windows held, and no call looks up a
window that is not held. -/
def Represented (aggregator : WindowAggregator σ κ ρ) (attempts : List (Attempt σ κ ρ)) : Prop :=
  (∀ earlier, earlier <+: attempts → Represents (aggregator.stateAfter earlier)) ∧
    ∀ earlier attempt, earlier ++ [attempt] <+: attempts →
      ¬ aggregator.Misses attempt (aggregator.stateAfter earlier)

/-- Calls of which none spoils a closing as long as what calls are owed holds. -/
theorem sound_of_unspoiled (unspoiled : ∀ earlier attempt, earlier ++ [attempt] <+: attempts →
      aggregator.Sound (aggregator.stateAfter earlier) →
      ¬ aggregator.Spoils attempt (aggregator.stateAfter earlier))
    {earlier : List (Attempt σ κ ρ)} (within : earlier <+: attempts) :
    aggregator.Sound (aggregator.stateAfter earlier) := by
  induction earlier using List.reverseRecOn with
  | nil => exact sound_empty aggregator
  | append_singleton earlier attempt ih =>
      have before := ih ((List.prefix_append _ _).trans within)
      rw [stateAfter_concat]
      exact observeBy_sound before (unspoiled earlier attempt within before)

/-- The first call that spoils a closing leaves a listed start without its window. -/
theorem unspoiled_of_represents (represents : ∀ earlier, earlier <+: attempts →
    Represents (aggregator.stateAfter earlier)) : aggregator.Unspoiled attempts := by
  have unspoiled : ∀ earlier attempt, earlier ++ [attempt] <+: attempts →
      aggregator.Sound (aggregator.stateAfter earlier) →
      ¬ aggregator.Spoils attempt (aggregator.stateAfter earlier) := by
    intro earlier attempt within sound spoils
    have after := represents _ within
    rw [stateAfter_concat] at after
    exact observeBy_spoils sound spoils after
  intro earlier attempt within
  exact unspoiled earlier attempt within
    (sound_of_unspoiled unspoiled ((List.prefix_append _ _).trans within))

/-- Over any calls, the lists agree with the windows held, and every lookup of the closing loop
finds its window, exactly when no call raises in a closing behind a window it has evicted. -/
theorem represented_iff_unspoiled (aggregator : WindowAggregator σ κ ρ)
    (attempts : List (Attempt σ κ ρ)) :
    aggregator.Represented attempts ↔ aggregator.Unspoiled attempts := by
  constructor
  · exact fun represented => unspoiled_of_represents represented.1
  · intro unspoiled
    have sound : ∀ earlier, earlier <+: attempts →
        aggregator.Sound (aggregator.stateAfter earlier) := fun earlier within =>
      sound_of_unspoiled (fun earlier attempt within _ => unspoiled earlier attempt within) within
    refine ⟨fun earlier within => (sound earlier within).represents, ?_⟩
    intro earlier attempt within
    exact (sound earlier ((List.prefix_append _ _).trans within)).not_misses

end Run

section Sample

/-- Events counted, two or more of a window refused where it is finalised. -/
def singleCount : Aggregation Nat Unit Nat where
  name := "single_count"
  initial := 0
  combine count _ := .ok (count + 1)
  finalise count := if count ≤ 1 then .ok count else .error (.valueError "more than one event")

def singleCounts : WindowAggregator Nat Unit Nat := Windowing.perSecond singleCount 0

/-- An event of a store's second, the watermark at another. -/
def storeAttempt (second watermark : Nat) : Attempt Nat Unit Nat where
  given := ⟨"store-1", .second second, (), .onTime, .second watermark, none⟩
  answers _ := singleCount

/-- One event, then two, then one that lets the watermark past the first three. -/
def refusedSecond : List (Attempt Nat Unit Nat) :=
  [storeAttempt 0 0, storeAttempt 1 0, storeAttempt 1 0, storeAttempt 5 5]

/-- The first second's window is evicted, the second's raises: the first second stays listed, and
the next call raises for want of its window. -/
theorem evicted_start_stays :
    ¬ singleCounts.Represented refusedSecond ∧
      (singleCounts.observeBy (storeAttempt 6 6)
        (singleCounts.stateAfter refusedSecond)).1 = .error .keyError := by
  constructor
  · intro represented
    have retained := (represented.1 refusedSecond (List.prefix_refl _)).coherent.retained "store-1"
      (.second 0)
    exact absurd retained (by decide +kernel)
  · decide +kernel

end Sample

end WindowAggregator

end SignalForge
