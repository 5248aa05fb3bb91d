import SignalForge.WindowingRun

/-! The emissions of one window over a whole run. -/

set_option autoImplicit false

namespace SignalForge

namespace WindowRule

open WindowAggregator

variable {σ κ ρ : Type}

/-- A trace every step of which meets its specification. -/
inductive Run (rule : WindowRule σ κ ρ) : List (Outcome κ ρ) → Prop
  | nil : Run rule []
  | step {trace : List (Outcome κ ρ)} {outcome : Outcome κ ρ} (earlier : Run rule trace)
      (meets : rule.StepMeets trace outcome) : Run rule (trace ++ [outcome])

/-- Every prefix of a run is one, and the step after it meets its specification. -/
theorem Run.split {rule : WindowRule σ κ ρ} {trace before after : List (Outcome κ ρ)}
    {outcome : Outcome κ ρ} (run : Run rule trace) (located : trace = before ++ outcome :: after) :
    Run rule before ∧ rule.StepMeets before outcome := by
  induction run generalizing after with
  | nil => exact absurd located.symm (List.append_ne_nil_of_right_ne_nil _ (List.cons_ne_nil _ _))
  | step earlier meets ih =>
      rename_i trace last
      rcases List.eq_nil_or_concat after with rfl | ⟨front, final, rfl⟩
      · obtain ⟨rfl, same⟩ := List.append_inj' located rfl
        obtain rfl := (List.cons.inj same).1
        exact ⟨earlier, meets⟩
      · rw [List.concat_eq_append, ← List.cons_append, ← List.append_assoc] at located
        exact ih (List.append_inj' located rfl).1

/-- The event an outcome came from. -/
def eventOf (outcome : Outcome κ ρ) : StreamEvent κ where
  key := outcome.given.partitionKey
  timestamp := outcome.given.eventTimestamp
  contribution := outcome.given.contribution
  traceId := outcome.given.traceId

/-- A run that returns meets its specification at every step. -/
theorem observeAll_run {rule : WindowRule σ κ ρ} (events : List (StreamEvent κ))
    {before trace : List (Outcome κ ρ)} {system after : Windowing σ}
    (run : Run rule before) (tracks : rule.Tracks before system)
    (returned : Windowing.observeAll rule.aggregator events system = (.ok trace, after)) :
    Run rule (before ++ trace) ∧ rule.Tracks (before ++ trace) after ∧
      trace.map eventOf = events := by
  induction events generalizing before trace system with
  | nil =>
      simp only [Windowing.observeAll, Call.pure_apply, Prod.mk.injEq, Except.ok.injEq] at returned
      obtain ⟨rfl, rfl⟩ := returned
      rw [List.append_nil]
      exact ⟨run, tracks, rfl⟩
  | cons event rest ih =>
      simp only [Windowing.observeAll, Call.bind_eq_ok, Call.pure_apply, Prod.mk.injEq,
        Except.ok.injEq] at returned
      obtain ⟨outcome, between, first, later, final, others, rfl, rfl⟩ := returned
      obtain ⟨tracksNext, meets, _, sameKey, sameTime, sameContribution, sameTrace⟩ :=
        step_meets tracks first
      obtain ⟨whole, tracksLast, same⟩ := ih (run.step meets) tracksNext others
      rw [List.append_assoc, List.singleton_append] at whole tracksLast
      refine ⟨whole, tracksLast, ?_⟩
      rw [List.map_cons, same, eventOf, sameKey, sameTime, sameContribution, sameTrace]

/-- The emissions of a window, in the order they were returned. -/
def emissionsOf (key : String) (start : Instant) (trace : List (Outcome κ ρ)) :
    List (WindowEmission ρ) :=
  (trace.flatMap Outcome.emissions).filter fun emission =>
    emission.partitionKey = key ∧ emission.windowStart.micros = start.micros

theorem emissionsOf_concat (key : String) (start : Instant) (trace : List (Outcome κ ρ))
    (outcome : Outcome κ ρ) :
    emissionsOf key start (trace ++ [outcome]) = emissionsOf key start trace ++
      emissionsOf key start [outcome] := by
  simp only [emissionsOf, List.flatMap_append, List.filter_append]

/-- Ascending emissions hold one at most of a window. -/
theorem filter_ascending {emissions : List (WindowEmission ρ)} {emission : WindowEmission ρ}
    (ascending : emissions.Pairwise fun first second =>
      first.windowStart.micros < second.windowStart.micros)
    (member : emission ∈ emissions) :
    (emissions.filter fun other => other.windowStart.micros = emission.windowStart.micros) =
      [emission] := by
  induction emissions with
  | nil => cases member
  | cons first rest ih =>
      obtain ⟨smallest, ascending⟩ := List.pairwise_cons.mp ascending
      rcases List.mem_cons.mp member with rfl | later
      · rw [List.filter_cons_of_pos (by simp only [decide_true]), List.filter_eq_nil_iff.mpr]
        intro other listed same
        exact (smallest other listed).ne (of_decide_eq_true same).symm
      · rw [List.filter_cons_of_neg (by simpa using (smallest emission later).ne), ih ascending later]

theorem emissionsOf_step {rule : WindowRule σ κ ρ} {trace : List (Outcome κ ρ)}
    {outcome : Outcome κ ρ} (meets : rule.StepMeets trace outcome) (key : String)
    (start : Instant) :
    emissionsOf key start [outcome] =
      if key = outcome.given.partitionKey ∧ rule.Emits trace outcome start then
        [rule.emissionOf key start (rule.fold (rule.members key start (trace ++ [outcome])))
          (decide (rule.Emitted key start trace))]
      else [] := by
  rw [emissionsOf, List.flatMap_singleton]
  split
  · rename_i due
    obtain ⟨rfl, emits⟩ := due
    have listed := (meets.emissions _).mpr ⟨start, emits, rfl⟩
    rw [← filter_ascending meets.ascending listed]
    apply List.filter_congr
    intro emission member
    obtain ⟨_, _, rfl⟩ := (meets.emissions emission).mp member
    rw [decide_eq_decide, emissionOf_windowStart, emissionOf_windowStart, Datetime.utc_micros,
      Datetime.utc_micros]
    exact ⟨And.right, fun same => ⟨rfl, same⟩⟩
  · rename_i notDue
    rw [List.filter_eq_nil_iff]
    intro emission member
    obtain ⟨_, emits, rfl⟩ := (meets.emissions emission).mp member
    rw [decide_eq_true_eq, emissionOf_windowStart, Datetime.utc_micros]
    rintro ⟨rfl, same⟩
    obtain rfl := Instant.micros_injective same
    exact notDue ⟨rfl, emits⟩

theorem emissionOf_eventCount (rule : WindowRule σ κ ρ) (key : String) (start : Instant)
    (window : WindowState σ) (isRepair : Bool) :
    (rule.emissionOf key start window isRepair).eventCount = window.eventCount := rfl

theorem fold_eventCount (rule : WindowRule σ κ ρ) (events : List (Observation κ)) :
    (rule.fold events).eventCount = events.length := by
  induction events using List.reverseRecOn with
  | nil => rfl
  | append_singleton events given ih => rw [fold_concat, addTo, ih, List.length_append]; rfl

theorem fold_state (rule : WindowRule σ κ ρ) (events : List (Observation κ)) :
    (rule.fold events).state =
      events.foldl (fun state given => rule.combine state given.contribution) rule.initial := by
  induction events using List.reverseRecOn with
  | nil => rfl
  | append_singleton events given ih =>
      rw [fold_concat, addTo, ih, List.foldl_append, List.foldl_cons, List.foldl_nil]

theorem fold_traceId (rule : WindowRule σ κ ρ) (events : List (Observation κ)) :
    (rule.fold events).lastContributingTraceId = events.getLast?.bind Observation.traceId := by
  induction events using List.reverseRecOn with
  | nil => rfl
  | append_singleton events given _ => rw [fold_concat, addTo, List.getLast?_concat]; rfl

/-- What is known of a window's emissions at every point of a run. -/
structure Lifecycle (rule : WindowRule σ κ ρ) (key : String) (start : Instant)
    (trace : List (Outcome κ ρ)) : Prop where
  silent : ¬ rule.Emitted key start trace → emissionsOf key start trace = []
  repairs : ∀ (place : Nat) (emission : WindowEmission ρ),
    (emissionsOf key start trace)[place]? = some emission →
      (emission.isRepair = false ↔ place = 0)
  counts : ((emissionsOf key start trace).map WindowEmission.eventCount).Pairwise (· < ·)
  bounded : ∀ emission ∈ emissionsOf key start trace,
    emission.eventCount ≤ (rule.members key start trace).length
  latest : rule.Emitted key start trace → ∃ isRepair,
    (emissionsOf key start trace).getLast? =
      some (rule.emissionOf key start (rule.fold (rule.members key start trace)) isRepair)

/-- A window was emitted before exactly where there are emissions of it. -/
theorem Lifecycle.emitted_iff {rule : WindowRule σ κ ρ} {key : String} {start : Instant}
    {trace : List (Outcome κ ρ)} (lifecycle : rule.Lifecycle key start trace) :
    rule.Emitted key start trace ↔ (emissionsOf key start trace).length ≠ 0 := by
  constructor
  · intro emitted none
    obtain ⟨_, last⟩ := lifecycle.latest emitted
    rw [List.length_eq_zero_iff.mp none] at last
    cases last
  · intro some
    by_contra never
    exact some (List.length_eq_zero_iff.mpr (lifecycle.silent never))

theorem members_length_le (rule : WindowRule σ κ ρ) (key : String) (start : Instant)
    (trace : List (Outcome κ ρ)) (outcome : Outcome κ ρ) :
    (rule.members key start trace).length ≤
      (rule.members key start (trace ++ [outcome])).length := by
  rw [members_concat]
  split
  · rw [List.length_append]
    exact Nat.le_add_right _ _
  · exact Nat.le_refl _

/-- A step that emits a window. -/
theorem Lifecycle.emit {rule : WindowRule σ κ ρ} {trace : List (Outcome κ ρ)}
    {outcome : Outcome κ ρ} {start : Instant}
    (lifecycle : rule.Lifecycle outcome.given.partitionKey start trace)
    (emits : rule.Emits trace outcome start)
    (listed : emissionsOf outcome.given.partitionKey start (trace ++ [outcome]) =
      emissionsOf outcome.given.partitionKey start trace ++
        [rule.emissionOf outcome.given.partitionKey start
          (rule.fold (rule.members outcome.given.partitionKey start (trace ++ [outcome])))
          (decide (rule.Emitted outcome.given.partitionKey start trace))]) :
    rule.Lifecycle outcome.given.partitionKey start (trace ++ [outcome]) := by
  have grown : rule.Emitted outcome.given.partitionKey start trace →
      (rule.members outcome.given.partitionKey start trace).length <
        (rule.members outcome.given.partitionKey start (trace ++ [outcome])).length := by
    intro emitted
    rw [members_concat, if_pos (emits.2.resolve_left (not_not.mpr emitted)), List.length_append]
    exact Nat.lt_succ_self _
  have kept := rule.members_length_le outcome.given.partitionKey start trace outcome
  refine ⟨fun never => absurd emits.1 never, ?_, ?_, ?_, fun _ => ?_⟩
  · intro place emission found
    rw [listed] at found
    rcases Nat.lt_or_ge place (emissionsOf outcome.given.partitionKey start trace).length with
      earlier | here
    · rw [List.getElem?_append_left earlier] at found
      exact lifecycle.repairs place emission found
    · rw [List.getElem?_append_right here, List.getElem?_singleton] at found
      split at found
      · cases found
        simp only [emissionOf, WindowRule.emission, decide_eq_false_iff_not,
          lifecycle.emitted_iff]
        omega
      · cases found
  · rw [listed, List.map_append, List.pairwise_append]
    refine ⟨lifecycle.counts, List.pairwise_singleton _ _, ?_⟩
    intro earlier inEarlier latest isLatest
    obtain ⟨emission, member, rfl⟩ := List.mem_map.mp inEarlier
    rw [List.map_singleton, List.mem_singleton] at isLatest
    have below := lifecycle.bounded emission member
    have emitted : rule.Emitted outcome.given.partitionKey start trace := by
      by_contra never
      rw [lifecycle.silent never] at member
      cases member
    have more := grown emitted
    rw [isLatest, emissionOf_eventCount, fold_eventCount]
    omega
  · intro emission member
    rw [listed, List.mem_append, List.mem_singleton] at member
    rcases member with earlier | rfl
    · exact (lifecycle.bounded emission earlier).trans kept
    · rw [emissionOf_eventCount, fold_eventCount]
  · exact ⟨_, by rw [listed, List.getLast?_concat]⟩

/-- A step that emits nothing of a window leaves its events or its watermark short of it. -/
theorem Lifecycle.quiet {rule : WindowRule σ κ ρ} {trace : List (Outcome κ ρ)}
    {outcome : Outcome κ ρ} {key : String} {start : Instant}
    (lifecycle : rule.Lifecycle key start trace)
    (listed : emissionsOf key start (trace ++ [outcome]) = emissionsOf key start trace)
    (same : rule.Emitted key start (trace ++ [outcome]) →
      rule.Emitted key start trace ∧
        rule.members key start (trace ++ [outcome]) = rule.members key start trace)
    (stays : rule.Emitted key start trace → rule.Emitted key start (trace ++ [outcome])) :
    rule.Lifecycle key start (trace ++ [outcome]) := by
  refine ⟨?_, ?_, ?_, ?_, ?_⟩
  · intro never
    rw [listed]
    exact lifecycle.silent fun emitted => never (stays emitted)
  · rw [listed]
    exact lifecycle.repairs
  · rw [listed]
    exact lifecycle.counts
  · rw [listed]
    intro emission member
    apply (lifecycle.bounded emission member).trans
    rw [members_concat]
    split
    · rw [List.length_append]
      omega
    · exact Nat.le_refl _
  · intro emitted
    obtain ⟨earlier, sameMembers⟩ := same emitted
    rw [listed, sameMembers]
    exact lifecycle.latest earlier

/-- The run lemma. -/
theorem Run.lifecycle {rule : WindowRule σ κ ρ} {trace : List (Outcome κ ρ)}
    (run : Run rule trace) (key : String) (start : Instant) :
    rule.Lifecycle key start trace := by
  induction run with
  | nil =>
      have never : ¬ rule.Emitted key start [] := fun emitted => emitted.1 rfl
      refine ⟨fun _ => rfl, ?_, List.Pairwise.nil, ?_, fun emitted => absurd emitted never⟩
      · intro _ _ found
        cases found
      · intro _ member
        cases member
  | step earlier meets ih =>
      rename_i trace outcome
      have listed := emissionsOf_concat key start trace outcome
      rw [emissionsOf_step meets] at listed
      by_cases sameKey : key = outcome.given.partitionKey
      · subst sameKey
        by_cases emits : rule.Emits trace outcome start
        · rw [if_pos ⟨rfl, emits⟩] at listed
          exact ih.emit emits listed
        · rw [if_neg fun both => emits both.2, List.append_nil] at listed
          refine ih.quiet listed ?_ fun emitted => emitted.step meets.monotone
          intro emitted
          have already : rule.Emitted outcome.given.partitionKey start trace := by
            by_contra never
            exact emits ⟨emitted, Or.inl never⟩
          refine ⟨already, ?_⟩
          rw [members_concat, if_neg fun adds => emits ⟨emitted, Or.inr adds⟩]
      · rw [if_neg fun both => sameKey both.1, List.append_nil] at listed
        have sameMembers : rule.members key start (trace ++ [outcome]) =
            rule.members key start trace := by
          rw [members_concat, if_neg fun adds => sameKey adds.1.symm]
        have unchanged : rule.Emitted key start (trace ++ [outcome]) ↔
            rule.Emitted key start trace := by
          rw [Emitted, Emitted, sameMembers, watermarkOf_concat,
            if_neg fun same => sameKey same.symm]
        exact ih.quiet listed (fun emitted => ⟨unchanged.mp emitted, sameMembers⟩)
          unchanged.mpr

end WindowRule

end SignalForge
