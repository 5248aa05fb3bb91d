import SignalForge.WindowIsolation

/-! How many windows of a key an aggregator retains. Aggregations may raise, and a call that
raises may be followed by others. -/

set_option autoImplicit false

namespace SignalForge

namespace WindowAggregator

variable {σ κ ρ : Type}

/-- The watermark has passed the window's sealing horizon. -/
def PastHorizon (aggregator : WindowAggregator σ κ ρ) (watermark start : Instant) : Prop :=
  start.micros + aggregator.spec.size + aggregator.lateness < watermark.micros

/-- The starts listed for a key ascend along the grid up to the high, and one whose window is gone
is past its sealing horizon. -/
structure Retains (aggregator : WindowAggregator σ κ ρ) (key : String) (high watermark : Instant)
    (held : State σ) : Prop where
  sorted : (startsFor held key).Pairwise (· < ·)
  aligned : ∀ start ∈ startsFor held key, aggregator.spec.slide ∣ start.micros ∧ start ≤ high
  backed : ∀ start ∈ startsFor held key,
    (held.states.get? (key, start)).isSome ∨ aggregator.PastHorizon watermark start

section Keeps

variable {aggregator : WindowAggregator σ κ ρ} {key : String} {high watermark : Instant}
  {held : State σ}

/-- A high and a watermark that advance retain what is retained. -/
theorem Retains.advance {later passed : Instant}
    (retains : aggregator.Retains key high watermark held) (risen : high ≤ later)
    (moved : watermark ≤ passed) :
    aggregator.Retains key later passed held where
  sorted := retains.sorted
  aligned start member :=
    ⟨(retains.aligned start member).1, (retains.aligned start member).2.trans risen⟩
  backed start member := (retains.backed start member).imp id fun past => by
    rw [Instant.le_def] at moved
    unfold PastHorizon at *
    omega

/-- Setting a window lists nothing new and takes nothing away. -/
theorem Retains.set (retains : aggregator.Retains key high watermark held) (start : Instant)
    (window : WindowState σ) : aggregator.Retains key high watermark
      { held with states := held.states.set (key, start) window } where
  sorted := retains.sorted
  aligned := retains.aligned
  backed other member := by
    refine (retains.backed other member).imp (fun present => ?_) id
    simp only [WindowRule.get?_set_window]
    split
    · rfl
    · exact present

theorem Retains.erase (retains : aggregator.Retains key high watermark held) {start : Instant}
    (past : aggregator.PastHorizon watermark start) : aggregator.Retains key high watermark
      { held with states := held.states.erase (key, start) } where
  sorted := retains.sorted
  aligned := retains.aligned
  backed other member := by
    by_cases same : other = start
    · exact Or.inr (same ▸ past)
    · refine (retains.backed other member).imp (fun present => ?_) id
      simpa only [WindowRule.get?_erase_window, same, and_false, ↓reduceIte] using present

/-- A window opened before its sealing horizon is not listed yet. -/
theorem Retains.opened (retains : aggregator.Retains key high watermark held) {start : Instant}
    (absent : held.states.get? (key, start) = none)
    (unsealed : ¬ aggregator.PastHorizon watermark start)
    (aligned : aggregator.spec.slide ∣ start.micros ∧ start ≤ high) (window : WindowState σ) :
    aggregator.Retains (σ := σ) key high watermark ⟨held.states.set (key, start) window,
      held.openStarts.modify key [] (insort start)⟩ := by
  have starts : startsFor (σ := σ) ⟨held.states.set (key, start) window,
      held.openStarts.modify key [] (insort start)⟩ key = insort start (startsFor held key) := by
    simp only [startsFor, OrderedDict.get?_modify, ↓reduceIte, Option.getD_some]
  have unlisted : start ∉ startsFor held key := by
    intro listed
    rcases retains.backed start listed with present | past
    · rw [absent] at present
      cases present
    · exact unsealed past
  refine ⟨?_, ?_, ?_⟩
  · rw [starts]
    exact WindowRule.insort_sorted retains.sorted unlisted
  · intro other member
    rw [starts, WindowRule.mem_insort] at member
    rcases member with rfl | listed
    · exact aligned
    · exact retains.aligned other listed
  · intro other member
    rw [starts, WindowRule.mem_insort] at member
    simp only [WindowRule.get?_set_window, true_and]
    by_cases same : other = start
    · exact Or.inl (by rw [if_pos same, Option.isSome_some])
    · rw [if_neg same]
      exact retains.backed other (member.resolve_left same)

theorem openWindow_keeps {start windowEnd : Instant}
    (ends : windowEnd.micros = start.micros + aggregator.spec.size)
    (aligned : aggregator.spec.slide ∣ start.micros ∧ start ≤ high) :
    Call.Keeps (aggregator.Retains key high watermark)
      (aggregator.openWindow key start windowEnd watermark) := by
  intro held retains
  rw [openWindow, Call.bind_of_ok (Call.read_apply _ _)]
  rcases found : held.states.get? (key, start) with _ | window
  · rcases horizon : windowEnd.add aggregator.lateness with reason | sealing
    · exact retains
    · simp only [Call.bind_apply, Call.lift_apply]
      split
      · exact retains
      · rename_i notPast
        refine retains.opened found (fun past => notPast ?_) aligned _
        rw [Instant.lt_def, Instant.add_eq_ok.mp horizon, ends]
        exact past
  · exact retains

theorem emit_keeps (property : State σ → Prop) (windowStart windowEnd : Instant)
    (window : WindowState σ) (isRepair : Bool) :
    Call.Keeps property (aggregator.emit key windowStart windowEnd window isRepair) :=
  (Call.keeps_lift _).bind fun _ => Call.keeps_pure _

theorem applyToWindow_keeps {given : Observation κ} (ofKey : given.partitionKey = key)
    (current : given.watermark = watermark) {start : Instant}
    (aligned : aggregator.spec.slide ∣ start.micros ∧ start ≤ high) :
    Call.Keeps (aggregator.Retains key high watermark) (aggregator.applyToWindow given start) := by
  subst ofKey current
  refine Call.keeps_lift_bind fun windowEnd added => ?_
  refine (openWindow_keeps (Instant.add_eq_ok.mp added) aligned).bind fun opened => ?_
  cases opened with
  | none => exact Call.keeps_pure _
  | some window =>
      refine (Call.keeps_lift _).bind fun combined => ?_
      refine (Call.keeps_write fun held retains => retains.set start _).bind fun _ => ?_
      split
      · exact Call.Keeps.bind (emit_keeps _ _ _ _ _) fun _ => Call.keeps_pure _
      · exact Call.keeps_pure _

theorem applyToWindows_keeps {given : Observation κ} (ofKey : given.partitionKey = key)
    (current : given.watermark = watermark) {starts : List Instant}
    (aligned : ∀ start ∈ starts, aggregator.spec.slide ∣ start.micros ∧ start ≤ high) :
    Call.Keeps (aggregator.Retains key high watermark) (aggregator.applyToWindows given starts) := by
  induction starts with
  | nil => exact Call.keeps_pure _
  | cons start rest ih =>
      obtain ⟨here, others⟩ := List.forall_mem_cons.mp aligned
      exact (applyToWindow_keeps ofKey current here).bind fun _ =>
        (ih others).bind fun _ => Call.keeps_pure _

theorem emitClosure_keeps {start windowEnd : Instant} (window : WindowState σ) :
    Call.Keeps (aggregator.Retains key high watermark)
      (aggregator.emitClosure key watermark start windowEnd window) := by
  rw [emitClosure]
  split
  · refine Call.Keeps.bind (emit_keeps _ _ _ _ _) fun _ => ?_
    exact (Call.keeps_write fun held retains => retains.set start _).bind fun _ =>
      Call.keeps_pure _
  · exact Call.keeps_pure _

theorem closeWindow_keeps (start : Instant) :
    Call.Keeps (aggregator.Retains key high watermark)
      (aggregator.closeWindow key watermark start) := by
  refine Call.keeps_lift_bind fun windowEnd added => ?_
  refine (Call.keeps_read _).bind fun found => ?_
  cases found with
  | none => exact Call.keeps_raise _
  | some window =>
      refine (emitClosure_keeps window).bind fun _ => ?_
      refine Call.keeps_lift_bind fun sealing horizon => ?_
      split
      · rename_i isPast
        rw [Instant.lt_def, Instant.add_eq_ok.mp horizon, Instant.add_eq_ok.mp added] at isPast
        exact (Call.keeps_write fun held retains => retains.erase isPast).bind fun _ =>
          Call.keeps_pure _
      · exact Call.keeps_pure _

theorem closeWindows_keeps (starts : List Instant) :
    Call.Keeps (aggregator.Retains key high watermark)
      (aggregator.closeWindows key watermark starts) := by
  induction starts with
  | nil => exact Call.keeps_pure _
  | cons start rest ih =>
      exact (closeWindow_keeps start).bind fun _ => ih.bind fun _ => Call.keeps_pure _

/-- The starts kept are among those closed, in their order, and none is past its horizon. -/
theorem closeWindow_kept (aggregator : WindowAggregator σ κ ρ) (key : String)
    (watermark start : Instant) :
    Call.Yields (fun closed => closed.2.Sublist [start] ∧
        ∀ other ∈ closed.2, ¬ aggregator.PastHorizon watermark other)
      (aggregator.closeWindow key watermark start) := by
  refine Call.yields_lift_bind fun windowEnd added => Call.Yields.after _ fun found => ?_
  cases found with
  | none => exact Call.yields_raise _
  | some window =>
      refine Call.Yields.after _ fun emissions => Call.yields_lift_bind fun sealing horizon => ?_
      split
      · exact Call.Yields.after _ fun _ =>
          Call.yields_pure ⟨List.nil_sublist _, List.forall_mem_nil _⟩
      · rename_i notPast
        rw [Instant.lt_def, Instant.add_eq_ok.mp horizon, Instant.add_eq_ok.mp added] at notPast
        refine Call.yields_pure ⟨List.Sublist.refl _, fun other member => ?_⟩
        rw [List.mem_singleton.mp member]
        exact notPast

theorem closeWindows_kept (aggregator : WindowAggregator σ κ ρ) (key : String)
    (watermark : Instant) (starts : List Instant) :
    Call.Yields (fun closed => closed.2.Sublist starts ∧
        ∀ other ∈ closed.2, ¬ aggregator.PastHorizon watermark other)
      (aggregator.closeWindows key watermark starts) := by
  induction starts with
  | nil => exact Call.yields_pure ⟨List.Sublist.refl _, List.forall_mem_nil _⟩
  | cons start rest ih =>
      refine (closeWindow_kept aggregator key watermark start).bind fun here kept => ?_
      refine ih.bind fun later others => Call.yields_pure ⟨?_, ?_⟩
      · exact kept.1.append others.1
      · exact List.forall_mem_append.mpr ⟨kept.2, others.2⟩

theorem emitClosure_frames (aggregator : WindowAggregator σ κ ρ) (key : String)
    (watermark start windowEnd : Instant) (window : WindowState σ) :
    Call.Frames State.openStarts
      (aggregator.emitClosure key watermark start windowEnd window) := by
  rw [emitClosure]
  split
  · refine Call.Frames.bind ((Call.frames_lift _).bind fun _ => Call.frames_pure _) fun _ => ?_
    refine Call.Frames.bind ?_ fun _ => Call.frames_pure _
    exact Call.frames_write fun _ => rfl
  · exact Call.frames_pure _

/-- Closing windows leaves the list of starts to be replaced at its end. -/
theorem closeWindow_frames (aggregator : WindowAggregator σ κ ρ) (key : String)
    (watermark start : Instant) :
    Call.Frames State.openStarts (aggregator.closeWindow key watermark start) := by
  refine (Call.frames_lift _).bind fun windowEnd => (Call.frames_read _).bind fun found => ?_
  cases found with
  | none => exact Call.frames_raise _
  | some window =>
      refine Call.Frames.bind (emitClosure_frames _ _ _ _ _ _) fun _ => ?_
      refine (Call.frames_lift _).bind fun _ => ?_
      split
      · refine Call.Frames.bind ?_ fun _ => Call.frames_pure _
        exact Call.frames_write fun _ => rfl
      · exact Call.frames_pure _

theorem closeWindows_frames (aggregator : WindowAggregator σ κ ρ) (key : String)
    (watermark : Instant) (starts : List Instant) :
    Call.Frames State.openStarts (aggregator.closeWindows key watermark starts) := by
  induction starts with
  | nil => exact Call.frames_pure _
  | cons start rest ih =>
      exact (closeWindow_frames aggregator key watermark start).bind fun _ =>
        ih.bind fun _ => Call.frames_pure _

/-- With some of the starts listed and the same windows, what is retained still is. -/
theorem Retains.sublist {after : State σ} (retains : aggregator.Retains key high watermark held)
    (sublist : (startsFor after key).Sublist (startsFor held key))
    (sameStates : after.states = held.states) : aggregator.Retains key high watermark after where
  sorted := retains.sorted.sublist sublist
  aligned start member := retains.aligned start (sublist.subset member)
  backed start member := by
    rw [sameStates]
    exact retains.backed start (sublist.subset member)

/-- Closing a key retains what is retained; where it returns, no window is past its horizon. -/
theorem closeEligibleWindows_retains (retains : aggregator.Retains key high watermark held) :
    aggregator.Retains key high watermark (aggregator.closeEligibleWindows key watermark held).2 ∧
      ∀ emissions after,
        aggregator.closeEligibleWindows key watermark held = (.ok emissions, after) →
        ∀ start ∈ startsFor after key, ¬ aggregator.PastHorizon watermark start := by
  rw [closeEligibleWindows, Call.bind_of_ok (Call.read_apply _ _)]
  split
  · rename_i noStarts
    refine ⟨retains, ?_⟩
    rintro emissions after ⟨⟩ start member
    rw [noStarts] at member
    cases member
  have kept := closeWindows_keeps (startsFor held key) held retains
  have sameStarts := closeWindows_frames aggregator key watermark (startsFor held key) held
  rcases closing : aggregator.closeWindows key watermark (startsFor held key) held with
    ⟨reason | closed, between⟩
  · rw [Call.bind_of_error closing]
    rw [closing] at kept
    exact ⟨kept, fun emissions after failed => by cases failed⟩
  · obtain ⟨sublist, unsealed⟩ :=
      closeWindows_kept aggregator key watermark _ held closed between closing
    rw [closing] at kept sameStarts
    have listed : startsFor between key = startsFor held key := by
      change between.openStarts = held.openStarts at sameStarts
      rw [startsFor, sameStarts, startsFor]
    rw [← listed] at sublist
    have starts := startsFor_put between key key closed.2
    rw [if_pos rfl] at starts
    rw [Call.bind_of_ok closing, Call.bind_of_ok (Call.write_apply _ _)]
    rw [← starts] at sublist
    refine ⟨kept.sublist sublist rfl, ?_⟩
    rintro emissions final same
    cases same
    rw [starts]
    exact unsealed

/-- An event no later than the high retains what is retained; where the call returns, no window is
past its horizon. -/
theorem observe_retains {given : Observation κ}
    (retains : aggregator.Retains given.partitionKey high given.watermark held)
    (notLater : given.eventTimestamp ≤ high) :
    aggregator.Retains given.partitionKey high given.watermark (aggregator.observe given held).2 ∧
      ∀ emissions after, aggregator.observe given held = (.ok emissions, after) →
        ∀ start ∈ startsFor after given.partitionKey,
          ¬ aggregator.PastHorizon given.watermark start := by
  rw [observe]
  split
  · exact ⟨retains, fun emissions after failed => by cases failed⟩
  split
  · exact closeEligibleWindows_retains retains
  rcases assigned : windowsContaining aggregator.spec given.eventTimestamp with reason | starts
  · exact ⟨retains, fun emissions after failed => by cases failed⟩
  have aligned : ∀ start ∈ starts, aggregator.spec.slide ∣ start.micros ∧ start ≤ high := by
    intro start member
    exact ⟨windowsContaining_aligned assigned member,
      (windowsContaining_covers assigned member).1.trans notLater⟩
  have applied := applyToWindows_keeps rfl rfl aligned held retains
  rw [Call.bind_of_ok (Call.lift_apply _ _)]
  rcases applying : aggregator.applyToWindows given starts held with ⟨reason | repairs, between⟩
  · rw [Call.bind_of_error applying]
    rw [applying] at applied
    exact ⟨applied, fun emissions after failed => by cases failed⟩
  rw [applying] at applied
  obtain ⟨kept, unsealed⟩ := closeEligibleWindows_retains applied
  rw [Call.bind_of_ok applying]
  rcases closing : aggregator.closeEligibleWindows given.partitionKey given.watermark between with
    ⟨reason | closures, after⟩
  · rw [Call.bind_of_error closing]
    rw [closing] at kept
    exact ⟨kept, fun emissions after failed => by cases failed⟩
  · rw [Call.bind_of_ok closing]
    rw [closing] at kept
    refine ⟨kept, ?_⟩
    rintro emissions final ⟨⟩
    exact unsealed closures after closing

end Keeps

/-- Distinct grid points in order lie at least a slide apart. -/
theorem spread {slide high : Int} {first : Instant} {rest : List Instant} (positive : 0 < slide)
    (sorted : (first :: rest).Pairwise (· < ·))
    (aligned : ∀ start ∈ first :: rest, slide ∣ start.micros ∧ start.micros ≤ high) :
    rest.length * slide ≤ high - first.micros := by
  induction rest generalizing first with
  | nil =>
      have below := (aligned first (List.mem_cons_self ..)).2
      simp only [List.length_nil, Int.natCast_zero, Int.zero_mul]
      omega
  | cons next rest ih =>
      obtain ⟨before, later⟩ := List.pairwise_cons.mp sorted
      have further := ih later fun start member => aligned start (List.mem_cons_of_mem _ member)
      have apart := before next (List.mem_cons_self ..)
      obtain ⟨near, atNear⟩ := (aligned first (List.mem_cons_self ..)).1
      obtain ⟨far, atFar⟩ :=
        (aligned next (List.mem_cons_of_mem _ (List.mem_cons_self ..))).1
      rw [Instant.lt_def, atNear, atFar] at apart
      have step : slide * (near + 1) ≤ slide * far :=
        Int.mul_le_mul_of_nonneg_left (Int.lt_of_mul_lt_mul_left apart positive.le) positive.le
      rw [Int.mul_add, Int.mul_one] at step
      rw [List.length_cons, Int.natCast_succ, Int.add_mul, Int.one_mul]
      omega

/-- The starts that are retained behind a high by the lateness, counted. -/
theorem count_le {aggregator : WindowAggregator σ κ ρ} {high watermark : Instant}
    {starts : List Instant} (sorted : starts.Pairwise (· < ·))
    (aligned : ∀ start ∈ starts, aggregator.spec.slide ∣ start.micros ∧ start ≤ high)
    (unsealed : ∀ start ∈ starts, ¬ aggregator.PastHorizon watermark start)
    (trails : high = .baseline ∨ watermark.micros = high.micros - aggregator.lateness) :
    starts.length ≤ (aggregator.spec.sizeSeconds + 2 * aggregator.latenessSeconds) /
      aggregator.spec.slideSeconds + 1 := by
  cases starts with
  | nil => exact Nat.zero_le _
  | cons first rest =>
      have spread := spread aggregator.spec.slide_micros_pos sorted aligned
      have reaches := unsealed first (List.mem_cons_self ..)
      have lowest := first.min_le
      have span : (rest.length * aggregator.spec.slideSeconds : Int) * microsPerSecond ≤
          (aggregator.spec.sizeSeconds + 2 * aggregator.latenessSeconds) * microsPerSecond := by
        have slide : aggregator.spec.slide = aggregator.spec.slideSeconds * microsPerSecond := rfl
        have size : aggregator.spec.size = aggregator.spec.sizeSeconds * microsPerSecond := rfl
        have lateness : aggregator.lateness = aggregator.latenessSeconds * microsPerSecond := rfl
        rw [slide, ← Int.mul_assoc] at spread
        rw [PastHorizon, size, lateness] at reaches
        rw [lateness] at trails
        simp only [microsPerSecond] at *
        rcases trails with rfl | trails
        · have atBaseline : Instant.baseline.micros = minMicros := rfl
          omega
        · omega
      have seconds : rest.length * aggregator.spec.slideSeconds ≤
          aggregator.spec.sizeSeconds + 2 * aggregator.latenessSeconds := by
        have whole := Int.le_of_mul_le_mul_right span (by decide : 0 < microsPerSecond)
        exact_mod_cast whole
      rw [List.length_cons]
      exact Nat.succ_le_succ ((Nat.le_div_iff_mul_le aggregator.spec.slide_pos).mpr seconds)

end WindowAggregator

namespace Windowing

open WindowAggregator

variable {σ κ ρ : Type}

/-- Neither component raised. -/
def Answered (answer : Except Raised (StreamAnswer ρ)) : Prop :=
  ∃ answered emissions, answer = .ok answered ∧ answered.emissions = .ok emissions

instance (answer : Except Raised (StreamAnswer ρ)) : Decidable (Answered answer) :=
  match answer with
  | .error _ => isFalse fun ⟨_, _, same, _⟩ => by cases same
  | .ok ⟨observed, .ok emissions⟩ => isTrue ⟨⟨observed, .ok emissions⟩, emissions, rfl, rfl⟩
  | .ok ⟨_, .error _⟩ => isFalse fun ⟨_, _, same, returned⟩ => by
      cases same
      cases returned

/-- What the key's latest event came to. -/
def lastAnswer (key : String) (outcomes : List (StreamEvent κ × Except Raised (StreamAnswer ρ))) :
    Option (Except Raised (StreamAnswer ρ)) :=
  ((outcomes.filter fun outcome => outcome.1.key = key).getLast?).map Prod.snd

/-- What the aggregator retains of a key, while the key has a watermark. -/
structure Retained (aggregator : WindowAggregator σ κ ρ) (key : String) (system : Windowing σ) :
    Prop where
  lateness : system.manager.latenessSeconds = aggregator.latenessSeconds
  retains : ∀ watermark, system.manager.watermarkFor key = .ok watermark →
    aggregator.Retains key (system.manager.highFor key) watermark system.held

theorem retained_fresh (aggregator : WindowAggregator σ κ ρ) (key : String) :
    Retained aggregator key (fresh aggregator) where
  lateness := rfl
  retains _ _ := ⟨List.Pairwise.nil, List.forall_mem_nil _, List.forall_mem_nil _⟩

theorem answer_of_raised (aggregator : WindowAggregator σ κ ρ) {event : StreamEvent κ}
    {system : Windowing σ} {reason : Raised} {manager : WatermarkManager Instant}
    (raised : WatermarkManager.observe event.key event.timestamp system.manager =
      (.error reason, manager)) :
    answer aggregator event system = (.error reason, ⟨manager, system.held⟩) := by
  simp only [answer, Call.bind_apply, Call.zoom, raised]

theorem answer_of_observed (aggregator : WindowAggregator σ κ ρ) {event : StreamEvent κ}
    {system : Windowing σ} {observed : WatermarkObservation Instant}
    {manager : WatermarkManager Instant}
    (returned : WatermarkManager.observe event.key event.timestamp system.manager =
      (.ok observed, manager)) :
    let aggregated := aggregator.observe (observation event observed) system.held
    answer aggregator event system = (.ok ⟨observed, aggregated.1⟩, ⟨manager, aggregated.2⟩) := by
  simp only [answer, Call.bind_apply, Call.zoom, returned, Call.attempt_apply, Call.pure_apply]

/-- The watermark trails the high by the lateness, but for a high at the baseline. -/
theorem watermark_trails {manager after : WatermarkManager Instant} {key : String} {t : Instant}
    {previous : Instant} {observed : WatermarkObservation Instant}
    (seen : WatermarkManager.Observed manager key t previous observed after) :
    after.highFor key = .baseline ∨
      observed.watermark.micros = (after.highFor key).micros - manager.lateness := by
  have newHigh : after.highFor key = max (manager.highFor key) t := by
    rw [seen.highFor, if_pos rfl, Timestamp.later_instant]
  rw [newHigh]
  exact (WatermarkManager.deriveWatermark_ok seen.derived_max).imp And.left And.right

/-- An event of the key: what is retained of it, and how much where no call raised. -/
theorem answer_retained {aggregator : WindowAggregator σ κ ρ} {event : StreamEvent κ}
    {system : Windowing σ} (retained : Retained aggregator event.key system) :
    Retained aggregator event.key (answer aggregator event system).2 ∧
      (Answered (answer aggregator event system).1 →
        openWindowCount (answer aggregator event system).2.held event.key ≤
          (aggregator.spec.sizeSeconds + 2 * aggregator.latenessSeconds) /
            aggregator.spec.slideSeconds + 1) := by
  rcases observing : WatermarkManager.observe event.key event.timestamp system.manager with
    ⟨reason | observed, manager⟩
  · rw [answer_of_raised aggregator observing]
    obtain ⟨sameLateness, unchanged⟩ := WatermarkManager.observe_raised observing
    refine ⟨⟨sameLateness.trans retained.lateness, fun watermark derived => ?_⟩, ?_⟩
    · rcases unchanged with rfl | ⟨cause, failed⟩
      · exact retained.retains watermark derived
      · rw [failed] at derived
        cases derived
    · rintro ⟨answered, emissions, failed, _⟩
      cases failed
  · obtain ⟨previous, seen⟩ := WatermarkManager.observe_ok observing
    rw [answer_of_observed aggregator observing]
    have newHigh : manager.highFor event.key =
        max (system.manager.highFor event.key) event.timestamp := by
      rw [seen.highFor, if_pos rfl, Timestamp.later_instant]
    have atWatermark : manager.watermarkFor event.key = .ok observed.watermark := by
      rw [seen.watermarkFor, if_pos rfl]
    let given : Observation κ := observation event observed
    have before : aggregator.Retains given.partitionKey (manager.highFor event.key) given.watermark
        system.held := by
      rw [newHigh]
      exact (retained.retains previous seen.before).advance (le_max_left _ event.timestamp)
        seen.monotone.1
    have notLater : given.eventTimestamp ≤ manager.highFor event.key := newHigh ▸ le_max_right _ _
    obtain ⟨after, unsealed⟩ := observe_retains before notLater
    refine ⟨⟨?_, ?_⟩, ?_⟩
    · rw [← retained.lateness, seen.stored]
    · intro watermark derived
      obtain rfl := Except.ok.inj (atWatermark.symm.trans derived)
      exact after
    · rintro ⟨answered, emissions, same, returned⟩
      cases same
      have trails := watermark_trails seen
      have sameLateness : system.manager.lateness = aggregator.lateness := by
        rw [WatermarkManager.lateness, retained.lateness]
        rfl
      rw [sameLateness] at trails
      have horizons := unsealed emissions _ (Prod.ext returned rfl)
      exact count_le after.sorted after.aligned horizons trails

/-- A run of one key's events, up to its last. -/
theorem outcomes_retained {aggregator : WindowAggregator σ κ ρ} {key : String}
    {events : List (StreamEvent κ)} (ofKey : ∀ event ∈ events, event.key = key) :
    let run := Call.outcomes (answer aggregator) events (fresh aggregator)
    Retained aggregator key run.2 ∧
      ((∀ outcome, run.1.getLast? = some outcome → Answered outcome.2) →
        openWindowCount run.2.held key ≤
          (aggregator.spec.sizeSeconds + 2 * aggregator.latenessSeconds) /
            aggregator.spec.slideSeconds + 1) := by
  induction events using List.reverseRecOn with
  | nil => exact ⟨retained_fresh aggregator key, fun _ => Nat.zero_le _⟩
  | append_singleton events event ih =>
      obtain ⟨earlier, last⟩ := List.forall_mem_append.mp ofKey
      obtain rfl := last event (List.mem_singleton_self event)
      obtain ⟨after, counted⟩ := answer_retained (ih earlier).1
      rw [Call.outcomes_concat]
      refine ⟨after, fun answered => counted ?_⟩
      exact answered _ List.getLast?_concat

/-- Once a key's latest event raised nothing, at most `(size + 2 * lateness) / slide + 1` of its
windows are open: the watermark trails the newest event by the lateness, and a window is held for
the lateness once more. -/
theorem open_windows_bounded (aggregator : WindowAggregator σ κ ρ) (events : List (StreamEvent κ))
    (key : String)
    (answered : ∀ last, lastAnswer key
      (Call.outcomes (answer aggregator) events (fresh aggregator)).1 = some last → Answered last) :
    openWindowCount (Call.outcomes (answer aggregator) events (fresh aggregator)).2.held key ≤
      (aggregator.spec.sizeSeconds + 2 * aggregator.latenessSeconds) /
        aggregator.spec.slideSeconds + 1 := by
  let own := events.filter fun event => event.key = key
  obtain ⟨sameOutcomes, sameView⟩ := Call.outcomes_own (answer_owned aggregator) key events
    (rfl : keyView key (fresh aggregator) = keyView key (fresh aggregator))
  have sameStarts := congrArg (fun view => view.2.2) sameView
  simp only [keyView, WindowAggregator.keyView] at sameStarts
  have ofKey : ∀ event ∈ own, event.key = key := fun event member =>
    of_decide_eq_true (List.mem_filter.mp member).2
  rw [openWindowCount, startsFor, sameStarts]
  refine (outcomes_retained ofKey).2 fun outcome last => answered outcome.2 ?_
  rw [lastAnswer, sameOutcomes, last, Option.map_some]

/-- Windows of a second, events up to a second late tolerated. -/
def perSecond {σ κ ρ : Type} (aggregation : Aggregation σ κ ρ) (latenessSeconds : Nat) :
    WindowAggregator σ κ ρ :=
  ⟨.perSecond, aggregation, latenessSeconds⟩

/-- Four seconds in order. -/
def steadyStore : List (StreamEvent Unit) :=
  [⟨"store-1", .second 0, (), none⟩, ⟨"store-1", .second 1, (), none⟩,
    ⟨"store-1", .second 2, (), none⟩, ⟨"store-1", .second 3, (), none⟩]

theorem open_windows_bounded_steady :
    openWindowCount (Call.outcomes (answer (perSecond (countAggregation Unit) 1)) steadyStore
      (fresh (perSecond (countAggregation Unit) 1))).2.held "store-1" ≤ (1 + 2 * 1) / 1 + 1 := by
  apply open_windows_bounded (perSecond (countAggregation Unit) 1) steadyStore "store-1"
  change ∀ last ∈ lastAnswer "store-1" (Call.outcomes (answer (perSecond (countAggregation Unit) 1))
    steadyStore (fresh (perSecond (countAggregation Unit) 1))).1, Answered last
  decide +kernel

/-- Three seconds of text where a number is summed. -/
def refusedStore : List (StreamEvent Contribution) :=
  [⟨"store-1", .second 0, .other "str", none⟩,
    ⟨"store-1", .second 1, .other "str", none⟩,
    ⟨"store-1", .second 2, .other "str", none⟩]

/-- The documented bound is exceeded by a steady stream, and the bound by one whose contributions
are refused, which opens windows that nothing closes. -/
theorem documented_bound_exceeded :
    (¬ ∀ (aggregator : WindowAggregator Nat Unit Nat) events key,
      openWindowCount (Call.outcomes (answer aggregator) events (fresh aggregator)).2.held key *
          aggregator.spec.slideSeconds ≤
        aggregator.spec.sizeSeconds + aggregator.latenessSeconds) ∧
      ¬ ∀ (aggregator : WindowAggregator Double Contribution Double) events key,
        openWindowCount (Call.outcomes (answer aggregator) events (fresh aggregator)).2.held key ≤
          (aggregator.spec.sizeSeconds + 2 * aggregator.latenessSeconds) /
            aggregator.spec.slideSeconds + 1 := by
  constructor
  · intro bounded
    exact absurd (bounded (perSecond (countAggregation Unit) 1) steadyStore "store-1")
      (by decide +kernel)
  · intro bounded
    exact absurd (bounded (perSecond sumAggregation 0) refusedStore "store-1") (by decide +kernel)

end Windowing

end SignalForge
