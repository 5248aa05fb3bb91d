import SignalForge.Windowing

/-! Every step of a run meets its specification, and the system keeps to its trace. -/

set_option autoImplicit false

namespace SignalForge

namespace WindowRule

open WindowAggregator

variable {σ κ ρ : Type}

theorem Closes.mono {rule : WindowRule σ κ ρ} {earlier later start : Instant}
    (closes : rule.Closes earlier start) (advanced : earlier ≤ later) :
    rule.Closes later start := by
  rw [Instant.le_def] at advanced
  unfold Closes at *
  omega

theorem Seals.mono {rule : WindowRule σ κ ρ} {earlier later start : Instant}
    (seals : rule.Seals earlier start) (advanced : earlier ≤ later) : rule.Seals later start := by
  rw [Instant.le_def] at advanced
  unfold Seals at *
  omega

/-- How an event stands to its key's watermark before it and after it. -/
structure Arrives (rule : WindowRule σ κ ρ) (previous : Instant) (given : Observation κ) :
    Prop where
  monotone : previous ≤ given.watermark
  unsealed : ∀ start, rule.Adds given.partitionKey start given →
    ¬ rule.Seals given.watermark start
  unclosed : given.classification = .onTime → ∀ start,
    rule.Adds given.partitionKey start given → ¬ rule.Closes previous start
  unmoved : given.classification = .lateDropped → given.watermark = previous

/-- What the manager tells the aggregator about an event. -/
theorem arrives_of_observed {rule : WindowRule σ κ ρ} {manager after : WatermarkManager Instant}
    {event : StreamEvent κ} {previous : Instant} {observed : WatermarkObservation Instant}
    (sameLateness : manager.latenessSeconds = rule.latenessSeconds)
    (seen : manager.Observed event.key event.timestamp previous observed after) :
    rule.Arrives previous (Windowing.observation event observed) := by
  have lateness : manager.lateness = rule.lateness := by
    rw [WatermarkManager.lateness, sameLateness]
    rfl
  have nonneg := rule.lateness_nonneg
  have covers : ∀ start, rule.Adds event.key start (Windowing.observation event observed) →
      observed.classification ≠ .lateDropped ∧
        event.timestamp.micros < start.micros + rule.spec.size := by
    intro start adds
    obtain ⟨_, kept, member⟩ := adds
    refine ⟨kept, ?_⟩
    unfold windowsOf at member
    split at member
    · rename_i starts found
      exact (windowsContaining_covers found member).2
    · cases member
  refine ⟨seen.monotone.1, ?_, ?_, ?_⟩
  · intro start adds seals
    obtain ⟨kept, inside⟩ := covers start adds
    simp only [Windowing.observation, Seals] at seals
    have reached := seen.watermark_le
    rcases seen.cases with ⟨_, onTime⟩ | ⟨_, _, tolerated, _⟩ | ⟨dropped, _⟩
    · rcases reached with same | below
      · rw [Instant.le_def] at onTime
        rw [same] at seals
        omega
      · rw [Instant.le_def] at below
        omega
    · rcases reached with same | below
      · rw [same] at seals
        omega
      · rw [Instant.le_def] at below
        omega
    · exact kept dropped
  · intro isOnTime start adds closes
    obtain ⟨_, inside⟩ := covers start adds
    rcases seen.cases with ⟨_, onTime⟩ | ⟨tolerated, _⟩ | ⟨dropped, _⟩
    · rw [Instant.le_def] at onTime
      unfold Closes at closes
      omega
    · exact absurd (isOnTime.symm.trans tolerated) (by decide)
    · exact absurd (isOnTime.symm.trans dropped) (by decide)
  · intro isDropped
    rcases seen.cases with ⟨onTime, _⟩ | ⟨tolerated, _⟩ | ⟨_, unmoved⟩
    · exact absurd (onTime.symm.trans isDropped) (by decide)
    · exact absurd (tolerated.symm.trans isDropped) (by decide)
    · exact unmoved

section Step

variable {rule : WindowRule σ κ ρ} {trace : List (Outcome κ ρ)} {outcome : Outcome κ ρ}
  {held between after : State σ}

/-- The windows held after a run. -/
def Windows (rule : WindowRule σ κ ρ) (trace : List (Outcome κ ρ)) (held : State σ) : Prop :=
  ∀ key start, held.states.get? (key, start) =
    if rule.members key start trace = [] ∨ rule.Seals (watermarkOf key trace) start then none
    else some (rule.marked (rule.members key start trace)
      (decide (rule.Closes (watermarkOf key trace) start)))

/-- The windows held once the step's event is added and before any closes. -/
def Added (rule : WindowRule σ κ ρ) (trace : List (Outcome κ ρ)) (outcome : Outcome κ ρ)
    (held : State σ) : Prop :=
  ∀ key start, held.states.get? (key, start) =
    if rule.members key start (trace ++ [outcome]) = [] ∨
        rule.Seals (watermarkOf key trace) start then none
    else some (rule.marked (rule.members key start (trace ++ [outcome]))
      (decide (rule.Emitted key start trace)))

/-- A window with events is emitted just when the watermark has closed it, so what is held may be
read either way. -/
theorem held_of_emitted (rule : WindowRule σ κ ρ) (key : String) (start : Instant)
    (trace : List (Outcome κ ρ)) :
    (if rule.members key start trace = [] ∨ rule.Seals (watermarkOf key trace) start then none
      else some (rule.marked (rule.members key start trace)
        (decide (rule.Emitted key start trace)))) =
    if rule.members key start trace = [] ∨ rule.Seals (watermarkOf key trace) start then none
      else some (rule.marked (rule.members key start trace)
        (decide (rule.Closes (watermarkOf key trace) start))) := by
  by_cases empty : rule.members key start trace = []
  · rw [if_pos (Or.inl empty), if_pos (Or.inl empty)]
  · have same : rule.Emitted key start trace ↔ rule.Closes (watermarkOf key trace) start :=
      ⟨And.right, fun closes => ⟨empty, closes⟩⟩
    simp only [same]

/-- A window that is not sealed is held as its events left it. -/
theorem Windows.windowFor (windows : Windows rule trace held) {key : String} {start : Instant}
    (unsealed : ¬ rule.Seals (watermarkOf key trace) start) :
    rule.windowFor held key start = rule.marked (rule.members key start trace)
      (decide (rule.Emitted key start trace)) := by
  rw [WindowRule.windowFor, windows]
  by_cases empty : rule.members key start trace = []
  · have never : ¬ rule.Emitted key start trace := fun emitted => emitted.1 empty
    rw [if_pos (Or.inl empty), decide_eq_false never, empty]
    rfl
  · have same : rule.Emitted key start trace ↔ rule.Closes (watermarkOf key trace) start :=
      ⟨And.right, fun closes => ⟨empty, closes⟩⟩
    rw [if_neg (not_or.mpr ⟨empty, unsealed⟩), Option.getD_some]
    simp only [same]

/-- A dropped event adds nothing. -/
theorem Windows.added_of_dropped (windows : Windows rule trace held)
    (none : ∀ key start, ¬ rule.Adds key start outcome.given) : Added rule trace outcome held := by
  intro key start
  rw [windows, members_concat, if_neg (none key start), held_of_emitted]

theorem Windows.added (windows : Windows rule trace held)
    (arrives : rule.Arrives (watermarkOf outcome.given.partitionKey trace) outcome.given)
    {repaired : List (WindowEmission ρ)} {starts : List Instant}
    (assigned : ∀ key start, rule.Adds key start outcome.given ↔
      key = outcome.given.partitionKey ∧ start ∈ starts)
    (applies : rule.Applies outcome.given starts held repaired between) :
    Added rule trace outcome between := by
  intro key start
  rw [applies.states]
  by_cases adds : rule.Adds key start outcome.given
  · obtain ⟨rfl, member⟩ := (assigned key start).mp adds
    have unsealed : ¬ rule.Seals (watermarkOf outcome.given.partitionKey trace) start :=
      fun seals => arrives.unsealed start adds (seals.mono arrives.monotone)
    rw [if_pos ⟨rfl, member⟩, windows.windowFor unsealed, addTo_marked, members_concat,
      if_pos adds, if_neg (not_or.mpr ⟨List.concat_ne_nil _ _, unsealed⟩)]
  · rw [if_neg fun both => adds ((assigned key start).mpr both), windows, members_concat,
      if_neg adds, held_of_emitted]

/-- Closing takes the windows to where the run's trace has them. -/
theorem Added.closed (added : Added rule trace outcome between)
    (arrives : rule.Arrives (watermarkOf outcome.given.partitionKey trace) outcome.given)
    {emissions : List (WindowEmission ρ)}
    (closed : rule.Closed outcome.given.partitionKey outcome.given.watermark between emissions
      after) :
    Windows rule (trace ++ [outcome]) after := by
  intro key start
  rw [closed.states, added, watermarkOf_concat]
  by_cases sameKey : key = outcome.given.partitionKey
  · subst sameKey
    rw [if_pos rfl, if_pos rfl]
    by_cases empty : rule.members outcome.given.partitionKey start (trace ++ [outcome]) = []
    · rw [if_pos (Or.inl empty), if_pos (Or.inl empty), Option.bind_none]
    by_cases sealed : rule.Seals outcome.given.watermark start
    · rw [if_pos (Or.inr sealed)]
      split
      · rfl
      · rw [Option.bind_some, settle, if_pos sealed]
    · have unsealed : ¬ rule.Seals (watermarkOf outcome.given.partitionKey trace) start :=
        fun seals => sealed (seals.mono arrives.monotone)
      rw [if_neg (not_or.mpr ⟨empty, unsealed⟩), if_neg (not_or.mpr ⟨empty, sealed⟩),
        Option.bind_some, settle, if_neg sealed]
      have flags : (decide (rule.Emitted outcome.given.partitionKey start trace) ||
          decide (rule.Closes outcome.given.watermark start)) =
          decide (rule.Closes outcome.given.watermark start) := by
        by_cases emitted : rule.Emitted outcome.given.partitionKey start trace
        · rw [decide_eq_true (emitted.2.mono arrives.monotone), Bool.or_true]
        · rw [decide_eq_false emitted, Bool.false_or]
      simp only [marked, flags]
  · have apart : outcome.given.partitionKey ≠ key := fun same => sameKey same.symm
    have unadded : rule.members key start (trace ++ [outcome]) = rule.members key start trace := by
      rw [members_concat, if_neg fun adds => apart adds.1]
    rw [if_neg sameKey, if_neg apart, unadded, held_of_emitted]

theorem mem_closures_iff (rule : WindowRule σ κ ρ) (key : String) (watermark : Instant)
    (held : State σ) (start : Instant) (emission : WindowEmission ρ) :
    emission ∈ rule.closures key watermark held start ↔
      ∃ window, held.states.get? (key, start) = some window ∧ window.hasEmitted = false ∧
        rule.Closes watermark start ∧ emission = rule.emissionOf key start window false := by
  rw [closures]
  cases held.states.get? (key, start) with
  | none => simp only [List.not_mem_nil, reduceCtorEq, false_and, exists_false]
  | some window =>
      simp only [Option.some.injEq, exists_eq_left']
      split
      · rename_i due
        simp only [List.mem_singleton, due.1, due.2, true_and]
      · rename_i notDue
        simp only [List.not_mem_nil, false_iff]
        exact fun both => notDue ⟨both.1, both.2.1⟩

/-- The closures of a step: windows it is the first to emit. -/
theorem Added.mem_closures (added : Added rule trace outcome between) (coherent : Coherent between)
    (arrives : rule.Arrives (watermarkOf outcome.given.partitionKey trace) outcome.given)
    (emission : WindowEmission ρ) :
    emission ∈ (startsFor between outcome.given.partitionKey).flatMap
        (rule.closures outcome.given.partitionKey outcome.given.watermark between) ↔
      ∃ start, rule.Emitted outcome.given.partitionKey start (trace ++ [outcome]) ∧
        ¬ rule.Emitted outcome.given.partitionKey start trace ∧
        emission = rule.emissionOf outcome.given.partitionKey start
          (rule.fold (rule.members outcome.given.partitionKey start (trace ++ [outcome])))
          false := by
  have reached : watermarkOf outcome.given.partitionKey (trace ++ [outcome]) =
      outcome.given.watermark := by
    rw [watermarkOf_concat, if_pos rfl]
  have closes : ∀ start, rule.Emitted outcome.given.partitionKey start (trace ++ [outcome]) ↔
      rule.members outcome.given.partitionKey start (trace ++ [outcome]) ≠ [] ∧
        rule.Closes outcome.given.watermark start := by
    intro start
    rw [Emitted, reached]
  rw [List.mem_flatMap]
  constructor
  · rintro ⟨start, _, emitted⟩
    obtain ⟨window, found, unmarked, atEnd, rfl⟩ := (mem_closures_iff ..).mp emitted
    rw [added] at found
    split at found
    · cases found
    · rename_i held
      obtain rfl := Option.some.inj found
      exact ⟨start, (closes start).mpr ⟨(not_or.mp held).1, atEnd⟩,
        of_decide_eq_false unmarked, rfl⟩
  · rintro ⟨start, emitted, first, rfl⟩
    obtain ⟨nonempty, atEnd⟩ := (closes start).mp emitted
    have unsealed : ¬ rule.Seals (watermarkOf outcome.given.partitionKey trace) start := by
      intro seals
      -- a sealed window that was never emitted had no events, so this step's event is its first
      by_cases adds : rule.Adds outcome.given.partitionKey start outcome.given
      · exact arrives.unsealed start adds (seals.mono arrives.monotone)
      · rw [members_concat, if_neg adds] at nonempty
        exact first ⟨nonempty, seals.closes⟩
    have isHeld := added outcome.given.partitionKey start
    rw [if_neg (not_or.mpr ⟨nonempty, unsealed⟩)] at isHeld
    refine ⟨start, ?_, (mem_closures_iff ..).mpr ⟨_, isHeld, decide_eq_false first, atEnd, rfl⟩⟩
    rw [coherent.retained, isHeld, Option.isSome_some]

/-- The repairs of a step: windows emitted before that it adds to. -/
theorem Windows.mem_repairs (windows : Windows rule trace held)
    (arrives : rule.Arrives (watermarkOf outcome.given.partitionKey trace) outcome.given)
    {starts : List Instant}
    (assigned : ∀ key start, rule.Adds key start outcome.given ↔
      key = outcome.given.partitionKey ∧ start ∈ starts)
    (emission : WindowEmission ρ) :
    emission ∈ starts.flatMap (rule.repairs outcome.given held) ↔
      ∃ start, rule.Emitted outcome.given.partitionKey start trace ∧
        rule.Adds outcome.given.partitionKey start outcome.given ∧
        emission = rule.emissionOf outcome.given.partitionKey start
          (rule.fold (rule.members outcome.given.partitionKey start (trace ++ [outcome])))
          true := by
  have window : ∀ start ∈ starts, rule.windowFor held outcome.given.partitionKey start =
      rule.marked (rule.members outcome.given.partitionKey start trace)
        (decide (rule.Emitted outcome.given.partitionKey start trace)) := by
    intro start member
    exact windows.windowFor fun seals => arrives.unsealed start
      ((assigned _ start).mpr ⟨rfl, member⟩) (seals.mono arrives.monotone)
  rw [List.mem_flatMap]
  constructor
  · rintro ⟨start, member, emitted⟩
    have adds := (assigned _ start).mpr ⟨rfl, member⟩
    rw [repairs, window start member] at emitted
    split at emitted
    · rename_i due
      rw [List.mem_singleton, addTo_marked] at emitted
      refine ⟨start, of_decide_eq_true due.2, adds, ?_⟩
      rw [members_concat, if_pos adds]
      exact emitted
    · cases emitted
  · rintro ⟨start, emitted, adds, rfl⟩
    obtain ⟨_, member⟩ := (assigned _ start).mp adds
    -- an on-time event is never in a window the watermark has reached the end of
    have tolerated : outcome.given.classification = .lateTolerated := by
      rcases same : outcome.given.classification with _ | _ | _
      · exact absurd emitted.2 (arrives.unclosed same start adds)
      · rfl
      · exact absurd same adds.2.1
    refine ⟨start, member, ?_⟩
    rw [repairs, window start member]
    have isMarked : (rule.marked (rule.members outcome.given.partitionKey start trace)
        (decide (rule.Emitted outcome.given.partitionKey start trace))).hasEmitted = true :=
      decide_eq_true emitted
    rw [if_pos ⟨tolerated, isMarked⟩, addTo_marked, members_concat, if_pos adds]
    exact List.mem_singleton_self _

/-- Starts of emissions made one at most for each of some distinct starts. -/
theorem starts_sublist (starts : List Instant) (emitted : Instant → List (WindowEmission ρ))
    (own : ∀ start, emitted start = [] ∨
      ∃ emission, emitted start = [emission] ∧ emission.windowStart.micros = start.micros) :
    ((starts.flatMap emitted).map fun emission => emission.windowStart.micros).Sublist
      (starts.map Instant.micros) := by
  induction starts with
  | nil => exact List.Sublist.slnil
  | cons start rest ih =>
      rw [List.flatMap_cons, List.map_append, List.map_cons]
      rcases own start with none | ⟨emission, one, same⟩
      · rw [none]
        exact ih.cons start.micros
      · rw [one, List.map_singleton, same]
        exact ih.cons_cons start.micros

theorem repairs_own (rule : WindowRule σ κ ρ) (given : Observation κ) (held : State σ)
    (start : Instant) : rule.repairs given held start = [] ∨
      ∃ emission, rule.repairs given held start = [emission] ∧
        emission.windowStart.micros = start.micros := by
  rw [repairs]
  split
  · exact Or.inr ⟨_, rfl, Datetime.utc_micros start⟩
  · exact Or.inl rfl

theorem closures_own (rule : WindowRule σ κ ρ) (key : String) (watermark : Instant)
    (held : State σ) (start : Instant) : rule.closures key watermark held start = [] ∨
      ∃ emission, rule.closures key watermark held start = [emission] ∧
        emission.windowStart.micros = start.micros := by
  rw [closures]
  split
  · exact Or.inl rfl
  · split
    · exact Or.inr ⟨_, rfl, Datetime.utc_micros start⟩
    · exact Or.inl rfl

/-- The windows a key closes come in order, none twice. -/
theorem closures_ascending (rule : WindowRule σ κ ρ) (coherent : Coherent held) (key : String)
    (watermark : Instant) :
    (((startsFor held key).flatMap (rule.closures key watermark held)).map fun emission =>
      emission.windowStart.micros).Pairwise (· < ·) := by
  have ascending : ((startsFor held key).map Instant.micros).Pairwise (· < ·) :=
    List.pairwise_map.mpr (coherent.sorted key)
  exact ascending.sublist (starts_sublist _ _ (rule.closures_own key watermark held))

instance : Std.Total (emissionLe (ρ := ρ)) where
  total left right := by
    unfold emissionLe
    rcases lt_trichotomy left.windowStart.micros right.windowStart.micros with
      before | same | after
    · exact Or.inl (Or.inl before)
    · cases left.isRepair with
      | false => exact Or.inl (Or.inr ⟨same, fun repair => absurd repair (by decide)⟩)
      | true => exact Or.inr (Or.inr ⟨same.symm, fun _ => rfl⟩)
    · exact Or.inr (Or.inl after)

instance : IsTrans (WindowEmission ρ) emissionLe where
  trans first second third := by
    unfold emissionLe
    rintro (before | ⟨same, repaired⟩) (later | ⟨sameLater, repairedLater⟩)
    · exact Or.inl (before.trans later)
    · exact Or.inl (sameLater ▸ before)
    · exact Or.inl (same.symm ▸ later)
    · exact Or.inr ⟨same.trans sameLater, fun repair => repairedLater (repaired repair)⟩

/-- Sorted emissions of distinct windows strictly ascend. -/
theorem sorted_ascending (emissions : List (WindowEmission ρ))
    (distinct : (emissions.map fun emission => emission.windowStart.micros).Nodup) :
    (emissions.insertionSort emissionLe).Pairwise fun first second =>
      first.windowStart.micros < second.windowStart.micros := by
  have ordered := List.pairwise_insertionSort emissionLe emissions
  have apart : (emissions.insertionSort emissionLe).Pairwise fun first second =>
      first.windowStart.micros ≠ second.windowStart.micros := by
    rw [← List.pairwise_map]
    exact ((List.perm_insertionSort emissionLe emissions).map _).nodup_iff.mpr distinct
  refine (ordered.and apart).imp ?_
  rintro first second ⟨before | ⟨same, _⟩, different⟩
  · exact before
  · exact absurd same different

/-- An emitted window stays emitted. -/
theorem Emitted.step {start : Instant}
    (emitted : rule.Emitted outcome.given.partitionKey start trace)
    (advanced : watermarkOf outcome.given.partitionKey trace ≤ outcome.given.watermark) :
    rule.Emitted outcome.given.partitionKey start (trace ++ [outcome]) := by
  constructor
  · rw [members_concat]
    split
    · exact List.concat_ne_nil _ _
    · exact emitted.1
  · rw [watermarkOf_concat, if_pos rfl]
    exact emitted.2.mono advanced

/-- Repairs and closures together are what the step's specification asks for. -/
theorem emits_iff (advanced : watermarkOf outcome.given.partitionKey trace ≤
      outcome.given.watermark) (emission : WindowEmission ρ) :
    ((∃ start, rule.Emitted outcome.given.partitionKey start trace ∧
        rule.Adds outcome.given.partitionKey start outcome.given ∧
        emission = rule.emissionOf outcome.given.partitionKey start
          (rule.fold (rule.members outcome.given.partitionKey start (trace ++ [outcome])))
          true) ∨
      ∃ start, rule.Emitted outcome.given.partitionKey start (trace ++ [outcome]) ∧
        ¬ rule.Emitted outcome.given.partitionKey start trace ∧
        emission = rule.emissionOf outcome.given.partitionKey start
          (rule.fold (rule.members outcome.given.partitionKey start (trace ++ [outcome])))
          false) ↔
    ∃ start, rule.Emits trace outcome start ∧
      emission = rule.emissionOf outcome.given.partitionKey start
        (rule.fold (rule.members outcome.given.partitionKey start (trace ++ [outcome])))
        (decide (rule.Emitted outcome.given.partitionKey start trace)) := by
  constructor
  · rintro (⟨start, emitted, adds, rfl⟩ | ⟨start, emitted, first, rfl⟩)
    · exact ⟨start, ⟨emitted.step advanced, Or.inr adds⟩, by rw [decide_eq_true emitted]⟩
    · exact ⟨start, ⟨emitted, Or.inl first⟩, by rw [decide_eq_false first]⟩
  · rintro ⟨start, ⟨emitted, due⟩, rfl⟩
    by_cases earlier : rule.Emitted outcome.given.partitionKey start trace
    · refine Or.inl ⟨start, earlier, due.resolve_left (not_not.mpr earlier), ?_⟩
      rw [decide_eq_true earlier]
    · refine Or.inr ⟨start, emitted, earlier, ?_⟩
      rw [decide_eq_false earlier]

/-- An event dropped as late adds to no window, and its key's windows are closed. -/
theorem dropped_meets (coherent : Coherent held) (windows : Windows rule trace held)
    (arrives : rule.Arrives (watermarkOf outcome.given.partitionKey trace) outcome.given)
    (dropped : outcome.given.classification = .lateDropped)
    (returned : rule.aggregator.closeEligibleWindows outcome.given.partitionKey
      outcome.given.watermark held = (.ok outcome.emissions, after)) :
    Coherent after ∧ Windows rule (trace ++ [outcome]) after ∧ rule.StepMeets trace outcome := by
  have none : ∀ key start, ¬ rule.Adds key start outcome.given :=
    fun _ _ adds => adds.2.1 dropped
  have closed := closeEligibleWindows_ok coherent returned
  have added := windows.added_of_dropped none
  refine ⟨closed.coherent, added.closed arrives closed, arrives.monotone, ?_, ?_⟩
  · rw [closed.emissions, ← List.pairwise_map]
    exact rule.closures_ascending coherent _ _
  · intro emission
    rw [closed.emissions, added.mem_closures coherent arrives, ← emits_iff arrives.monotone]
    constructor
    · exact Or.inr
    · rintro (⟨start, _, adds, _⟩ | closure)
      · exact absurd adds (none _ start)
      · exact closure

variable (rule) in
/-- An event adds to the windows it is assigned to, but for one dropped as late. -/
theorem adds_iff {starts : List Instant} (notDropped : outcome.given.classification ≠ .lateDropped)
    (found : windowsContaining rule.spec outcome.given.eventTimestamp = .ok starts) (key : String)
    (start : Instant) : rule.Adds key start outcome.given ↔
      key = outcome.given.partitionKey ∧ start ∈ starts := by
  have assignedTo : rule.windowsOf outcome.given.eventTimestamp = starts := by
    rw [windowsOf, found]
  rw [Adds, assignedTo]
  exact ⟨fun adds => ⟨adds.1.symm, adds.2.2⟩, fun both => ⟨both.1.symm, notDropped, both.2⟩⟩

/-- The step lemma for the aggregator: it keeps to the trace and emits what the step's
specification has it emit. -/
theorem observe_meets (coherent : Coherent held) (windows : Windows rule trace held)
    (arrives : rule.Arrives (watermarkOf outcome.given.partitionKey trace) outcome.given)
    (returned : rule.aggregator.observe outcome.given held = (.ok outcome.emissions, after)) :
    Coherent after ∧ Windows rule (trace ++ [outcome]) after ∧ rule.StepMeets trace outcome := by
  rw [WindowAggregator.observe] at returned
  split at returned
  · cases returned
  split at returned
  · rename_i dropped
    exact dropped_meets coherent windows arrives dropped returned
  · rename_i notDropped
    simp only [Call.bind_eq_ok, Call.lift_apply, Call.pure_apply, Prod.mk.injEq,
      Except.ok.injEq] at returned
    obtain ⟨starts, _, ⟨found, rfl⟩, repaired, between, applying, emitted, _, closing, sorted,
      rfl⟩ := returned
    have assigned := adds_iff rule notDropped found
    have ascending := (windowsContaining_ok found).1
    have distinct : starts.Nodup := ascending.imp fun before => before.ne
    have applies := applyToWindows_ok coherent distinct (fun start member =>
      arrives.unsealed start ((assigned _ start).mpr ⟨rfl, member⟩)) applying
    have closed := closeEligibleWindows_ok applies.coherent closing
    have added := windows.added arrives assigned applies
    have isRepair := windows.mem_repairs arrives assigned
    have isClosure := added.mem_closures applies.coherent arrives
    rw [← applies.emissions] at isRepair
    rw [← closed.emissions] at isClosure
    refine ⟨closed.coherent, added.closed arrives closed, arrives.monotone, ?_, ?_⟩
    · rw [← sorted]
      apply sorted_ascending
      rw [List.map_append, List.nodup_append]
      refine ⟨?_, ?_, ?_⟩
      · rw [applies.emissions]
        exact (distinct.map Instant.micros_injective).sublist
          (starts_sublist starts _ (rule.repairs_own outcome.given held))
      · rw [closed.emissions]
        exact (rule.closures_ascending applies.coherent _ _).imp fun before => before.ne
      · -- a repaired window had been emitted, a closed one had not
        intro first inRepairs second inClosures same
        obtain ⟨repair, repairMember, rfl⟩ := List.mem_map.mp inRepairs
        obtain ⟨closure, closureMember, rfl⟩ := List.mem_map.mp inClosures
        obtain ⟨start, earlier, _, rfl⟩ := (isRepair repair).mp repairMember
        obtain ⟨other, _, never, rfl⟩ := (isClosure closure).mp closureMember
        simp only [emissionOf_windowStart, Datetime.utc_micros] at same
        obtain rfl := Instant.micros_injective same
        exact never earlier
    · intro emission
      rw [← sorted, List.mem_insertionSort, List.mem_append, isRepair, isClosure,
        emits_iff arrives.monotone]

end Step

/-- The step lemma for the system. -/
theorem step_meets {rule : WindowRule σ κ ρ} {trace : List (Outcome κ ρ)}
    {outcome : Outcome κ ρ} {system after : Windowing σ} {event : StreamEvent κ}
    (tracks : rule.Tracks trace system)
    (returned : Windowing.observe rule.aggregator event system = (.ok outcome, after)) :
    rule.Tracks (trace ++ [outcome]) after ∧ rule.StepMeets trace outcome ∧
      rule.Arrives (watermarkOf event.key trace) outcome.given ∧
      outcome.given.partitionKey = event.key ∧ outcome.given.eventTimestamp = event.timestamp ∧
      outcome.given.contribution = event.contribution ∧ outcome.given.traceId = event.traceId := by
  simp only [Windowing.observe, Call.bind_eq_ok, Call.zoom_eq_ok, Call.pure_apply,
    Prod.mk.injEq, Except.ok.injEq] at returned
  obtain ⟨observed, _, ⟨manager, observing, rfl⟩, emissions, _, ⟨held, aggregating, rfl⟩, rfl,
    rfl⟩ := returned
  obtain ⟨previous, seen⟩ := WatermarkManager.observe_ok observing
  have isPrevious : previous = watermarkOf event.key trace := by
    have before := tracks.watermark event.key
    rw [seen.before] at before
    exact Except.ok.inj before
  subst isPrevious
  have arrives := arrives_of_observed tracks.lateness seen
  let outcome : Outcome κ ρ := ⟨Windowing.observation event observed, emissions⟩
  have aggregated : rule.aggregator.observe outcome.given system.held =
      (.ok outcome.emissions, held) := aggregating
  obtain ⟨coherent, windows, meets⟩ := observe_meets tracks.coherent tracks.windows arrives
    aggregated
  refine ⟨⟨?_, ?_, coherent, windows⟩, meets, arrives, rfl, rfl, rfl, rfl⟩
  · rw [← tracks.lateness, seen.stored]
  · intro key
    have stepped := watermarkOf_concat key trace outcome
    by_cases same : key = event.key
    · rw [seen.watermarkFor, if_pos same]
      exact congrArg _ (stepped.trans (if_pos same.symm)).symm
    · rw [seen.watermarkFor, if_neg same, tracks.watermark]
      exact congrArg _ (stepped.trans (if_neg fun equal => same equal.symm)).symm

end WindowRule

end SignalForge
