import SignalForge.WindowLifecycle

/-! Arrival order does not matter to what a key's windows come to, where no event is
dropped and contributions commute. -/

set_option autoImplicit false

namespace SignalForge

namespace WindowRule

open WindowAggregator

variable {σ κ ρ : Type}

/-- A key's high after an event. -/
def raiseHigh (key : String) (high : Instant) (event : StreamEvent κ) : Instant :=
  if event.key = key then max high event.timestamp else high

instance (key : String) : RightCommutative (raiseHigh (κ := κ) key) where
  right_comm high first second := by
    unfold raiseHigh
    split <;> split
    · exact max_right_comm high _ _
    · rfl
    · rfl
    · rfl

theorem step_high {rule : WindowRule σ κ ρ} {outcome : Outcome κ ρ} {system after : Windowing σ}
    {event : StreamEvent κ}
    (returned : Windowing.observe rule.aggregator event system = (.ok outcome, after))
    (key : String) :
    after.manager.highFor key = raiseHigh key (system.manager.highFor key) event := by
  simp only [Windowing.observe, Call.bind_eq_ok, Call.zoom_eq_ok, Call.pure_apply,
    Prod.mk.injEq] at returned
  obtain ⟨_, _, ⟨manager, observing, rfl⟩, _, _, ⟨_, _, rfl⟩, _, rfl⟩ := returned
  obtain ⟨_, seen⟩ := WatermarkManager.observe_ok observing
  rw [raiseHigh, seen.highFor, Timestamp.later_instant]
  by_cases same : key = event.key
  · rw [if_pos same, if_pos same.symm, same]
  · rw [if_neg same, if_neg fun equal => same equal.symm]

theorem observeAll_high {rule : WindowRule σ κ ρ} (events : List (StreamEvent κ))
    {trace : List (Outcome κ ρ)} {system after : Windowing σ}
    (returned : Windowing.observeAll rule.aggregator events system = (.ok trace, after))
    (key : String) :
    after.manager.highFor key = events.foldl (raiseHigh key) (system.manager.highFor key) := by
  induction events generalizing trace system with
  | nil =>
      simp only [Windowing.observeAll, Call.pure_apply, Prod.mk.injEq] at returned
      rw [returned.2]
      rfl
  | cons event rest ih =>
      simp only [Windowing.observeAll, Call.bind_eq_ok, Call.pure_apply, Prod.mk.injEq]
        at returned
      obtain ⟨outcome, between, first, later, final, others, _, rfl⟩ := returned
      rw [ih others, List.foldl_cons, step_high first]

/-- A run's final watermarks do not depend on the order its events arrived in. -/
theorem watermarkOf_perm {rule : WindowRule σ κ ρ} {first second : List (StreamEvent κ)}
    (sameEvents : first.Perm second) {trace other : List (Outcome κ ρ)}
    {system otherSystem : Windowing σ}
    (returned : Windowing.observeAll rule.aggregator first (Windowing.fresh rule.aggregator) =
      (.ok trace, system))
    (otherReturned : Windowing.observeAll rule.aggregator second
      (Windowing.fresh rule.aggregator) = (.ok other, otherSystem)) (key : String) :
    watermarkOf key trace = watermarkOf key other := by
  obtain ⟨_, tracks, _⟩ := observeAll_run first .nil rule.tracks_fresh returned
  obtain ⟨_, otherTracks, _⟩ := observeAll_run second .nil rule.tracks_fresh otherReturned
  have sameHigh : system.manager.highFor key = otherSystem.manager.highFor key := by
    rw [observeAll_high first returned, observeAll_high second otherReturned, sameEvents.foldl_eq]
  have sameLateness : system.manager.latenessSeconds = otherSystem.manager.latenessSeconds :=
    tracks.lateness.trans otherTracks.lateness.symm
  have derived := tracks.watermark key
  have otherDerived := otherTracks.watermark key
  rw [List.nil_append, WatermarkManager.watermarkFor, WatermarkManager.deriveWatermark,
    WatermarkManager.lateness, sameHigh, sameLateness] at derived
  rw [List.nil_append, WatermarkManager.watermarkFor, WatermarkManager.deriveWatermark,
    WatermarkManager.lateness, derived] at otherDerived
  exact Except.ok.inj otherDerived

/-- The events assigned to a window, whatever they are classified as. -/
def assigned (rule : WindowRule σ κ ρ) (key : String) (start : Instant)
    (events : List (StreamEvent κ)) : List κ :=
  (events.filter fun event => event.key = key ∧ start ∈ rule.windowsOf event.timestamp).map
    StreamEvent.contribution

/-- Where none is dropped, a window's contributions are those of the events assigned to it. -/
theorem members_contributions {rule : WindowRule σ κ ρ} {trace : List (Outcome κ ρ)}
    (kept : ∀ outcome ∈ trace, outcome.given.classification ≠ .lateDropped) (key : String)
    (start : Instant) :
    (rule.members key start trace).map Observation.contribution =
      rule.assigned key start (trace.map eventOf) := by
  rw [members, assigned, List.filter_map, List.filter_map, List.map_map, List.map_map]
  have sameChoice : trace.filter ((fun given => decide (rule.Adds key start given)) ∘
      Outcome.given) = trace.filter ((fun event => decide (event.key = key ∧
        start ∈ rule.windowsOf event.timestamp)) ∘ eventOf) := by
    apply List.filter_congr
    intro outcome member
    rw [Function.comp_apply, Function.comp_apply, decide_eq_decide]
    exact ⟨fun adds => ⟨adds.1, adds.2.2⟩, fun both => ⟨both.1, kept outcome member, both.2⟩⟩
  rw [sameChoice]
  rfl

theorem fold_contributions (rule : WindowRule σ κ ρ) (events : List (Observation κ)) :
    (rule.fold events).state = (events.map Observation.contribution).foldl rule.combine
      rule.initial := by
  rw [fold_state, List.foldl_map]

/-- The emission a window ends with, by the events assigned to it. -/
theorem last_emission {rule : WindowRule σ κ ρ} {events : List (StreamEvent κ)}
    {trace : List (Outcome κ ρ)} {system : Windowing σ}
    (returned : Windowing.observeAll rule.aggregator events (Windowing.fresh rule.aggregator) =
      (.ok trace, system))
    (kept : ∀ outcome ∈ trace, outcome.given.classification ≠ .lateDropped) (key : String)
    (start : Instant) :
    (emissionsOf key start trace).getLast?.map
        (fun emission => (emission.value, emission.eventCount)) =
      if rule.assigned key start events ≠ [] ∧ rule.Closes (watermarkOf key trace) start then
        some (rule.finalise ((rule.assigned key start events).foldl rule.combine rule.initial),
          (rule.assigned key start events).length)
      else none := by
  obtain ⟨run, _, sameEvents⟩ := observeAll_run events .nil rule.tracks_fresh returned
  rw [List.nil_append] at run
  have lifecycle := run.lifecycle key start
  have contributions : _ = rule.assigned key start _ := members_contributions kept key start
  rw [sameEvents] at contributions
  have emitted : rule.Emitted key start trace ↔
      rule.assigned key start events ≠ [] ∧ rule.Closes (watermarkOf key trace) start := by
    rw [Emitted, ← contributions, ne_eq, ne_eq, List.map_eq_nil_iff]
  split
  · rename_i due
    obtain ⟨isRepair, last⟩ := lifecycle.latest (emitted.mpr due)
    rw [last, Option.map_some, ← contributions, ← fold_contributions, List.length_map,
      ← fold_eventCount]
    rfl
  · rename_i notDue
    rw [lifecycle.silent fun due => notDue (emitted.mp due)]
    rfl

/-- Two orders of the same events in which none is dropped end at the same watermark of a key
and emit the same windows of it, and every window that has closed ends with the same value
and count. -/
theorem arrival_order_converges (rule : WindowRule σ κ ρ)
    (commutes : ∀ state left right, rule.combine (rule.combine state left) right =
      rule.combine (rule.combine state right) left)
    (key : String) (first second : List (StreamEvent κ)) (sameEvents : first.Perm second)
    (trace other : List (Outcome κ ρ))
    (system otherSystem : Windowing σ)
    (returned : Windowing.observeAll rule.aggregator first (Windowing.fresh rule.aggregator) =
      (.ok trace, system))
    (otherReturned : Windowing.observeAll rule.aggregator second
      (Windowing.fresh rule.aggregator) = (.ok other, otherSystem))
    (kept : ∀ outcome ∈ trace, outcome.given.classification ≠ .lateDropped)
    (otherKept : ∀ outcome ∈ other, outcome.given.classification ≠ .lateDropped) :
    watermarkOf key trace = watermarkOf key other ∧
    (∀ start, emissionsOf key start trace = [] ↔ emissionsOf key start other = []) ∧
    ∀ start, rule.Closes (watermarkOf key trace) start →
      (emissionsOf key start trace).getLast?.map
          (fun emission => (emission.value, emission.eventCount)) =
        (emissionsOf key start other).getLast?.map
          (fun emission => (emission.value, emission.eventCount)) := by
  have sameWatermark := watermarkOf_perm sameEvents returned otherReturned key
  have commuting : RightCommutative rule.combine := ⟨commutes⟩
  have same : ∀ start, (emissionsOf key start trace).getLast?.map
      (fun emission => (emission.value, emission.eventCount)) =
      (emissionsOf key start other).getLast?.map
        (fun emission => (emission.value, emission.eventCount)) := by
    intro start
    have sameAssigned : (rule.assigned key start first).Perm (rule.assigned key start second) :=
      (sameEvents.filter _).map _
    have sameEmpty : rule.assigned key start first = [] ↔ rule.assigned key start second = [] := by
      rw [← List.length_eq_zero_iff, sameAssigned.length_eq, List.length_eq_zero_iff]
    rw [last_emission returned kept, last_emission otherReturned otherKept, sameWatermark]
    simp only [ne_eq, sameEmpty, sameAssigned.foldl_eq, sameAssigned.length_eq]
  refine ⟨sameWatermark, ?_, fun start _ => same start⟩
  intro start
  have both := same start
  rw [← List.getLast?_eq_none_iff, ← List.getLast?_eq_none_iff, ← Option.map_eq_none_iff,
    both, Option.map_eq_none_iff]

/-- Summing in windows of one minute, events up to a minute late tolerated. -/
def sumPerMinute : WindowRule Int Int Int where
  spec := .perMinute
  latenessSeconds := 60
  name := "sum"
  initial := 0
  combine sum amount := sum + amount
  finalise sum := sum

theorem second_inRange (seconds : Fin 1000) :
    minMicros ≤ seconds.val * 1000000 ∧ seconds.val * 1000000 ≤ maxMicros := by
  simp only [minMicros, maxMicros, microsPerSecond]
  omega

def atSecond (seconds : Fin 1000) (amount : Int) : StreamEvent Int where
  key := "store-1"
  timestamp := ⟨seconds.val * 1000000, (second_inRange seconds).1, (second_inRange seconds).2⟩
  contribution := amount
  traceId := none

/-- A run that returns without a late drop, and the emissions of the first minute counted. -/
def Converging (events : List (StreamEvent Int)) (emitted : Nat) : Prop :=
  ((Windowing.observeAll sumPerMinute.aggregator events
    (Windowing.fresh sumPerMinute.aggregator)).1.toOption.any fun trace =>
      trace.all (fun outcome => outcome.given.classification ≠ .lateDropped) &&
        (emissionsOf "store-1" .epoch trace).length = emitted) = true

theorem Converging.returns {events : List (StreamEvent Int)} {emitted : Nat}
    (converging : Converging events emitted) :
    ∃ trace system, Windowing.observeAll sumPerMinute.aggregator events
        (Windowing.fresh sumPerMinute.aggregator) = (.ok trace, system) ∧
      (∀ outcome ∈ trace, outcome.given.classification ≠ .lateDropped) ∧
      (emissionsOf "store-1" .epoch trace).length = emitted := by
  rw [Converging] at converging
  rcases returned : Windowing.observeAll sumPerMinute.aggregator events
    (Windowing.fresh sumPerMinute.aggregator) with ⟨_ | trace, system⟩
  · rw [returned] at converging
    cases converging
  · rw [returned] at converging
    simp only [Except.toOption, Option.any_some, Bool.and_eq_true, List.all_eq_true,
      decide_eq_true_eq] at converging
    exact ⟨trace, system, rfl, converging⟩

/-- Once the first minute's second event is on time, once it repairs the minute. -/
theorem arrival_order_converges_repaired : ∃ trace other system otherSystem,
    Windowing.observeAll sumPerMinute.aggregator [atSecond 10 1, atSecond 20 2, atSecond 130 4]
      (Windowing.fresh sumPerMinute.aggregator) = (.ok trace, system) ∧
    Windowing.observeAll sumPerMinute.aggregator [atSecond 10 1, atSecond 130 4, atSecond 20 2]
      (Windowing.fresh sumPerMinute.aggregator) = (.ok other, otherSystem) ∧
    (emissionsOf "store-1" .epoch trace).length = 1 ∧
    (emissionsOf "store-1" .epoch other).length = 2 ∧
    watermarkOf "store-1" trace = watermarkOf "store-1" other ∧
    (∀ start, emissionsOf "store-1" start trace = [] ↔ emissionsOf "store-1" start other = []) ∧
    ∀ start, sumPerMinute.Closes (watermarkOf "store-1" trace) start →
      (emissionsOf "store-1" start trace).getLast?.map
          (fun emission => (emission.value, emission.eventCount)) =
        (emissionsOf "store-1" start other).getLast?.map
          (fun emission => (emission.value, emission.eventCount)) := by
  have onTime : Converging [atSecond 10 1, atSecond 20 2, atSecond 130 4] 1 := by
    rw [Converging]
    decide +kernel
  have repaired : Converging [atSecond 10 1, atSecond 130 4, atSecond 20 2] 2 := by
    rw [Converging]
    decide +kernel
  obtain ⟨trace, system, returned, kept, emitted⟩ := onTime.returns
  obtain ⟨other, otherSystem, otherReturned, otherKept, otherEmitted⟩ := repaired.returns
  refine ⟨trace, other, system, otherSystem, returned, otherReturned, emitted, otherEmitted, ?_⟩
  have commutes : ∀ state left right, sumPerMinute.combine (sumPerMinute.combine state left) right =
      sumPerMinute.combine (sumPerMinute.combine state right) left := by
    intro state left right
    simp only [sumPerMinute]
    omega
  exact arrival_order_converges sumPerMinute commutes "store-1" _ _
    (.cons _ (.swap _ _ _)) trace other system otherSystem returned otherReturned kept otherKept

end WindowRule

end SignalForge
