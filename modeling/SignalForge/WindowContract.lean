import SignalForge.WindowLifecycle

/-! The windowing contract: what a run emits of every window, told by the events the window
contains. It holds of every run whose timestamps are assigned exactly their windows. -/

set_option autoImplicit false

namespace SignalForge

namespace WindowRule

open WindowAggregator

variable {σ κ ρ : Type}

/-- The events a grid window contains that were not dropped, in arrival order. -/
def arrivals (spec : WindowSpec) (key : String) (start : Instant) (trace : List (Outcome κ ρ)) :
    List (Observation κ) :=
  (trace.map Outcome.given).filter fun given => given.partitionKey = key ∧
    given.classification ≠ .lateDropped ∧ spec.Contains start given.eventTimestamp

/-- An emission carries the fold of some events. -/
structure Carries (rule : WindowRule σ κ ρ) (emission : WindowEmission ρ)
    (events : List (Observation κ)) : Prop where
  value : emission.value = rule.finalise
    (events.foldl (fun state given => rule.combine state given.contribution) rule.initial)
  eventCount : emission.eventCount = events.length
  traceId : emission.lastContributingTraceId = events.getLast?.bind Observation.traceId

/-- An emission describes a grid window. -/
structure Describes (rule : WindowRule σ κ ρ) (emission : WindowEmission ρ) (start : Instant) :
    Prop where
  aggregationName : emission.aggregationName = rule.name
  windowStart : emission.windowStart = .utc start
  aligned : rule.spec.slide ∣ start.micros
  windowEnd : emission.windowEnd.micros = start.micros + rule.spec.size
  utc : emission.windowEnd.offset = 0

structure Contract (rule : WindowRule σ κ ρ) (trace : List (Outcome κ ρ)) : Prop where
  /-- The first emission of a window is its closure and every later one a repair. -/
  closureFirst : ∀ key start (place : Nat) emission,
    (emissionsOf key start trace)[place]? = some emission →
      (emission.isRepair = false ↔ place = 0)
  countsGrow : ∀ key start,
    ((emissionsOf key start trace).map WindowEmission.eventCount).Pairwise (· < ·)
  /-- Every emission carries the events its window contains so far. -/
  carries : ∀ before outcome after, trace = before ++ outcome :: after →
    ∀ emission ∈ outcome.emissions, ∃ start,
      emission.partitionKey = outcome.given.partitionKey ∧ rule.Describes emission start ∧
        rule.Carries emission
          (arrivals rule.spec outcome.given.partitionKey start (before ++ [outcome]))
  /-- A window that contains events is emitted by the time the watermark is at its end, and
  the latest emission is up to date. -/
  complete : ∀ before outcome after, trace = before ++ outcome :: after → ∀ start,
    arrivals rule.spec outcome.given.partitionKey start (before ++ [outcome]) ≠ [] →
      rule.Closes outcome.given.watermark start →
        ∃ emission, (emissionsOf outcome.given.partitionKey start
            (before ++ [outcome])).getLast? = some emission ∧
          rule.Carries emission
            (arrivals rule.spec outcome.given.partitionKey start (before ++ [outcome]))
  ascending : ∀ outcome ∈ trace, outcome.emissions.Pairwise fun first second =>
    first.windowStart.micros < second.windowStart.micros

/-- No arithmetic on the timestamp and its windows leaves the range of a datetime. -/
structure Roomy (rule : WindowRule σ κ ρ) (timestamp : Instant) : Prop where
  size_above : minMicros + rule.spec.size ≤ timestamp.micros
  lateness_above : minMicros + rule.lateness ≤ timestamp.micros
  below : timestamp.micros + rule.spec.size + rule.lateness ≤ maxMicros

theorem mem_windowsOf {rule : WindowRule σ κ ρ} {timestamp : Instant}
    (precise : rule.spec.AssignsExactly timestamp) (roomy : rule.Roomy timestamp)
    (start : Instant) :
    start ∈ rule.windowsOf timestamp ↔ rule.spec.Contains start timestamp := by
  have nonneg := rule.lateness_nonneg
  have below := roomy.below
  obtain ⟨starts, found⟩ := windowsContaining_total precise roomy.size_above (by omega)
  rw [windowsOf, found]
  exact mem_windowsContaining precise found start

theorem fits_of_mem_windowsOf {rule : WindowRule σ κ ρ} {timestamp start : Instant}
    (roomy : rule.Roomy timestamp) (member : start ∈ rule.windowsOf timestamp) :
    rule.Fits start := by
  have below := roomy.below
  unfold windowsOf at member
  split at member
  · rename_i starts found
    have before := (windowsContaining_covers found member).1
    rw [Instant.le_def] at before
    unfold Fits
    omega
  · cases member

/-- Every window held fits where every timestamp seen is roomy. -/
theorem Tracks.fits {rule : WindowRule σ κ ρ} {trace : List (Outcome κ ρ)}
    {system : Windowing σ} (tracks : rule.Tracks trace system)
    (roomy : ∀ outcome ∈ trace, rule.Roomy outcome.given.eventTimestamp) {key : String}
    {start : Instant} (held : (system.held.states.get? (key, start)).isSome) :
    rule.Fits start := by
  rw [tracks.windows] at held
  split at held
  · cases held
  · rename_i retained
    obtain ⟨given, member⟩ := List.exists_mem_of_ne_nil _ (not_or.mp retained).1
    obtain ⟨listed, adds⟩ := List.mem_filter.mp member
    obtain ⟨outcome, inTrace, rfl⟩ := List.mem_map.mp listed
    exact fits_of_mem_windowsOf (roomy outcome inTrace) (of_decide_eq_true adds).2.2

theorem observation_returns {manager : WatermarkManager Instant} {key : String}
    {timestamp previous : Instant} (named : key ≠ "")
    (before : manager.watermarkFor key = .ok previous)
    (above : minMicros + manager.lateness ≤ timestamp.micros) :
    (WatermarkManager.observe key timestamp).Returns manager := by
  have nonneg := manager.lateness_nonneg
  have highest := timestamp.le_max
  have derived : ∃ watermark, manager.deriveWatermark timestamp = .ok watermark := by
    rw [WatermarkManager.deriveWatermark]
    split
    · exact ⟨_, rfl⟩
    · exact ⟨_, Instant.ofMicros_of_range (by omega) (by omega)⟩
  refine (WatermarkManager.observe_returns named).mpr ⟨⟨previous, before⟩, ?_⟩
  rw [Timestamp.later]
  split
  · exact derived
  · exact ⟨previous, before⟩

theorem aggregate_returns {rule : WindowRule σ κ ρ} {held : State σ} {given : Observation κ}
    {previous : Instant} (coherent : Coherent held) (arrives : rule.Arrives previous given)
    (fits : ∀ key start, (held.states.get? (key, start)).isSome → rule.Fits start)
    (named : given.partitionKey ≠ "") (roomy : rule.Roomy given.eventTimestamp)
    (precise : rule.spec.AssignsExactly given.eventTimestamp) :
    (rule.aggregator.observe given).Returns held := by
  have nonneg := rule.lateness_nonneg
  have below := roomy.below
  rw [WindowAggregator.observe, if_neg named]
  split
  · exact closeEligibleWindows_returns coherent _ fun start member =>
      fits _ start ((coherent.retained _ start).mp member)
  · rename_i notDropped
    obtain ⟨starts, found⟩ := windowsContaining_total precise roomy.size_above (by omega)
    have assigned : ∀ start ∈ starts, start ∈ rule.windowsOf given.eventTimestamp := by
      intro start member
      rwa [windowsOf, found]
    have fit := fun start member => fits_of_mem_windowsOf roomy (assigned start member)
    apply Call.Returns.bind_lift found
    refine (applyToWindows_returns fit given held).bind fun repaired between applying => ?_
    have distinct : starts.Nodup := (windowsContaining_ok found).1.imp fun before => before.ne
    have applies := applyToWindows_ok coherent distinct (fun start member =>
      arrives.unsealed start ⟨rfl, notDropped, assigned start member⟩) applying
    have stillFits : ∀ start ∈ startsFor between given.partitionKey, rule.Fits start := by
      intro start member
      rw [applies.coherent.retained, applies.states] at member
      split at member
      · rename_i added
        exact fit start added.2
      · exact fits _ start member
    exact (closeEligibleWindows_returns applies.coherent _ stillFits).bind fun _ _ _ =>
      Call.returns_pure _ _

theorem step_returns {rule : WindowRule σ κ ρ} {trace : List (Outcome κ ρ)}
    {system : Windowing σ} {event : StreamEvent κ} (tracks : rule.Tracks trace system)
    (seen : ∀ outcome ∈ trace, rule.Roomy outcome.given.eventTimestamp)
    (named : event.key ≠ "") (roomy : rule.Roomy event.timestamp)
    (precise : rule.spec.AssignsExactly event.timestamp) :
    (Windowing.observe rule.aggregator event).Returns system := by
  have above := roomy.lateness_above
  have sameLateness : system.manager.lateness = rule.lateness := by
    rw [WatermarkManager.lateness, tracks.lateness]
    rfl
  obtain ⟨observed, manager, observing⟩ := observation_returns named
    (tracks.watermark event.key) (by rw [sameLateness]; exact above)
  obtain ⟨previous, seenAt⟩ := WatermarkManager.observe_ok observing
  obtain ⟨emissions, held, aggregating⟩ := aggregate_returns tracks.coherent
    (arrives_of_observed tracks.lateness seenAt) (fun _ _ => tracks.fits seen) named roomy precise
  refine ⟨⟨Windowing.observation event observed, emissions⟩, ⟨manager, held⟩, ?_⟩
  exact Call.bind_eq_ok.mpr ⟨observed, ⟨manager, system.held⟩,
    Call.zoom_eq_ok.mpr ⟨manager, observing, rfl⟩, Call.bind_eq_ok.mpr ⟨emissions, ⟨manager, held⟩,
      Call.zoom_eq_ok.mpr ⟨held, aggregating, rfl⟩, rfl⟩⟩

theorem observeAll_returns {rule : WindowRule σ κ ρ} (events : List (StreamEvent κ))
    {trace : List (Outcome κ ρ)} {system : Windowing σ} (tracks : rule.Tracks trace system)
    (seen : ∀ outcome ∈ trace, rule.Roomy outcome.given.eventTimestamp)
    (named : ∀ event ∈ events, event.key ≠ "")
    (roomy : ∀ event ∈ events, rule.Roomy event.timestamp)
    (precise : ∀ event ∈ events, rule.spec.AssignsExactly event.timestamp) :
    (Windowing.observeAll rule.aggregator events).Returns system := by
  induction events generalizing trace system with
  | nil => exact Call.returns_pure _ _
  | cons event rest ih =>
      have here := List.mem_cons_self (a := event) (l := rest)
      have first := step_returns tracks seen (named event here) (roomy event here)
        (precise event here)
      refine first.bind fun outcome between stepped => ?_
      obtain ⟨tracksNext, _, _, _, sameTime, _⟩ := step_meets tracks stepped
      have seenNext : ∀ other ∈ trace ++ [outcome], rule.Roomy other.given.eventTimestamp := by
        intro other member
        rcases List.mem_append.mp member with earlier | last
        · exact seen other earlier
        · rw [List.mem_singleton.mp last, sameTime]
          exact roomy event here
      have others := ih tracksNext seenNext
        (fun other member => named other (List.mem_cons_of_mem _ member))
        (fun other member => roomy other (List.mem_cons_of_mem _ member))
        (fun other member => precise other (List.mem_cons_of_mem _ member))
      exact others.bind fun _ _ _ => Call.returns_pure _ _

/-- Assigned exactly, a window's events are those it contains. -/
theorem arrivals_eq_members {rule : WindowRule σ κ ρ} {trace : List (Outcome κ ρ)}
    (roomy : ∀ outcome ∈ trace, rule.Roomy outcome.given.eventTimestamp)
    (precise : ∀ outcome ∈ trace, rule.spec.AssignsExactly outcome.given.eventTimestamp)
    (key : String) (start : Instant) :
    arrivals rule.spec key start trace = rule.members key start trace := by
  apply List.filter_congr
  intro given member
  obtain ⟨outcome, inTrace, rfl⟩ := List.mem_map.mp member
  rw [decide_eq_decide, Adds, mem_windowsOf (precise outcome inTrace) (roomy outcome inTrace)]

theorem carries_emissionOf (rule : WindowRule σ κ ρ) (key : String) (start : Instant)
    (events : List (Observation κ)) (isRepair : Bool) :
    rule.Carries (rule.emissionOf key start (rule.fold events) isRepair) events where
  value := by rw [← fold_state]; rfl
  eventCount := fold_eventCount rule events
  traceId := fold_traceId rule events

theorem describes_emissionOf {rule : WindowRule σ κ ρ} {start : Instant} (fits : rule.Fits start)
    (aligned : rule.spec.slide ∣ start.micros) (key : String) (window : WindowState σ)
    (isRepair : Bool) : rule.Describes (rule.emissionOf key start window isRepair) start where
  aggregationName := rfl
  windowStart := rfl
  aligned := aligned
  windowEnd := by
    obtain ⟨windowEnd, added, _⟩ := fits.end
    obtain ⟨same, ends⟩ := endOf_eq added
    rw [← ends, ← same]
    exact Datetime.utc_micros (rule.endOf start)
  utc := rfl

theorem Run.contract {rule : WindowRule σ κ ρ} {trace : List (Outcome κ ρ)} (run : Run rule trace)
    (roomy : ∀ outcome ∈ trace, rule.Roomy outcome.given.eventTimestamp)
    (precise : ∀ outcome ∈ trace, rule.spec.AssignsExactly outcome.given.eventTimestamp) :
    rule.Contract trace := by
  have contained : ∀ before outcome after, trace = before ++ outcome :: after → ∀ start,
      arrivals rule.spec outcome.given.partitionKey start (before ++ [outcome]) =
        rule.members outcome.given.partitionKey start (before ++ [outcome]) := by
    intro before outcome after located start
    have inTrace : ∀ other ∈ before ++ [outcome], other ∈ trace := by
      intro other member
      rw [located, ← List.singleton_append, ← List.append_assoc]
      exact List.mem_append_left _ member
    exact arrivals_eq_members (fun other member => roomy other (inTrace other member))
      (fun other member => precise other (inTrace other member)) _ start
  refine ⟨fun key start => (run.lifecycle key start).repairs,
    fun key start => (run.lifecycle key start).counts, ?_, ?_, ?_⟩
  · intro before outcome after located emission member
    obtain ⟨_, meets⟩ := run.split located
    obtain ⟨start, emits, rfl⟩ := (meets.emissions emission).mp member
    have nonempty := emits.1.1
    rw [← contained before outcome after located] at nonempty
    obtain ⟨given, arrived⟩ := List.exists_mem_of_ne_nil _ nonempty
    obtain ⟨listed, inside⟩ := List.mem_filter.mp arrived
    obtain ⟨_, _, contains⟩ := of_decide_eq_true inside
    obtain ⟨source, inPrefix, rfl⟩ := List.mem_map.mp listed
    have inTrace : source ∈ trace := by
      rw [located, ← List.singleton_append, ← List.append_assoc]
      exact List.mem_append_left _ inPrefix
    have fits := fits_of_mem_windowsOf (roomy source inTrace)
      ((mem_windowsOf (precise source inTrace) (roomy source inTrace) start).mpr contains)
    refine ⟨start, rfl, describes_emissionOf fits contains.1 _ _ _, ?_⟩
    rw [contained before outcome after located]
    exact carries_emissionOf rule _ start _ _
  · intro before outcome after located start nonempty closes
    obtain ⟨earlier, meets⟩ := run.split located
    have here := (earlier.step meets).lifecycle outcome.given.partitionKey start
    rw [contained before outcome after located] at nonempty ⊢
    obtain ⟨isRepair, last⟩ := here.latest ⟨nonempty, by
      rw [watermarkOf_concat, if_pos rfl]
      exact closes⟩
    exact ⟨_, last, carries_emissionOf rule _ start _ isRepair⟩
  · intro outcome member
    obtain ⟨before, after, located⟩ := List.append_of_mem member
    exact (run.split located).2.ascending

/-- Every run returns and meets the contract whose keys are named and whose timestamps leave
room for the arithmetic on them and do not round up to the next slide. -/
theorem observeAll_contract (rule : WindowRule σ κ ρ) (events : List (StreamEvent κ))
    (named : ∀ event ∈ events, event.key ≠ "")
    (roomy : ∀ event ∈ events, rule.Roomy event.timestamp)
    (precise : ∀ event ∈ events, rule.spec.AssignsExactly event.timestamp) :
    ∃ trace system, Windowing.observeAll rule.aggregator events
        (Windowing.fresh rule.aggregator) = (.ok trace, system) ∧
      trace.map eventOf = events ∧ rule.Contract trace := by
  obtain ⟨trace, system, returned⟩ := observeAll_returns events rule.tracks_fresh
    (fun _ member => by cases member) named roomy precise
  obtain ⟨run, _, same⟩ := observeAll_run events .nil rule.tracks_fresh returned
  rw [List.nil_append] at run
  have source : ∀ outcome ∈ trace, ∃ event ∈ events,
      outcome.given.eventTimestamp = event.timestamp := by
    intro outcome member
    refine ⟨eventOf outcome, ?_, rfl⟩
    rw [← same]
    exact List.mem_map_of_mem member
  refine ⟨trace, system, returned, same, run.contract ?_ ?_⟩
  · intro outcome member
    obtain ⟨event, listed, sameTime⟩ := source outcome member
    rw [sameTime]
    exact roomy event listed
  · intro outcome member
    obtain ⟨event, listed, sameTime⟩ := source outcome member
    rw [sameTime]
    exact precise event listed

/-- Counting events in windows of one minute, with no lateness. -/
def countPerMinute : WindowRule Nat Unit Nat where
  spec := .perMinute
  latenessSeconds := 0
  name := "count"
  initial := 0
  combine count _ := count + 1
  finalise count := count

def storeEvent (timestamp : Instant) : StreamEvent Unit := ⟨"store-1", timestamp, (), none⟩

theorem observeAll_contract_two : ∃ trace system,
    Windowing.observeAll countPerMinute.aggregator
        [storeEvent ⟨90000000, by decide, by decide⟩, storeEvent ⟨250000000, by decide, by decide⟩]
        (Windowing.fresh countPerMinute.aggregator) = (.ok trace, system) ∧
      trace.map eventOf =
        [storeEvent ⟨90000000, by decide, by decide⟩, storeEvent ⟨250000000, by decide, by decide⟩] ∧
      countPerMinute.Contract trace := by
  refine observeAll_contract countPerMinute _ ?_ ?_ ?_
  · simp only [storeEvent, List.mem_cons, List.not_mem_nil, or_false, forall_eq_or_imp, forall_eq]
    decide
  · simp only [storeEvent, List.mem_cons, List.not_mem_nil, or_false, forall_eq_or_imp, forall_eq]
    exact ⟨⟨by decide, by decide, by decide⟩, ⟨by decide, by decide, by decide⟩⟩
  · simp only [storeEvent, List.mem_cons, List.not_mem_nil, or_false, forall_eq_or_imp, forall_eq]
    decide +kernel

/-- A microsecond before a minute boundary of the year 2514. As a double its seconds are the
boundary's, so it is assigned the minute after, which does not contain it. -/
def roundedUp : Instant := ⟨17179869239999999, by decide, by decide⟩

def twoMinutesLater : Instant := ⟨17179869359999999, by decide, by decide⟩

/-- The start of the minute that contains it. -/
def containingMinute : Instant := ⟨17179869180000000, by decide, by decide⟩

/-- An event whose timestamp rounds up is counted in no window. -/
theorem rounded_up_event_lost : ∃ trace system,
    Windowing.observeAll countPerMinute.aggregator [storeEvent roundedUp, storeEvent twoMinutesLater]
        (Windowing.fresh countPerMinute.aggregator) = (.ok trace, system) ∧
      countPerMinute.Roomy roundedUp ∧ countPerMinute.Roomy twoMinutesLater ∧
      ¬ countPerMinute.Contract trace := by
  have lost : ((Windowing.observeAll countPerMinute.aggregator
      [storeEvent roundedUp, storeEvent twoMinutesLater]
      (Windowing.fresh countPerMinute.aggregator)).1.toOption.any fun trace =>
        (trace.getLast?.any fun outcome => outcome.given.partitionKey = "store-1" &&
          countPerMinute.Closes outcome.given.watermark containingMinute) &&
        !(arrivals countPerMinute.spec "store-1" containingMinute trace).isEmpty &&
        (emissionsOf "store-1" containingMinute trace).isEmpty) = true := by
    decide +kernel
  rcases returned : Windowing.observeAll countPerMinute.aggregator
      [storeEvent roundedUp, storeEvent twoMinutesLater]
      (Windowing.fresh countPerMinute.aggregator) with ⟨_ | trace, system⟩
  · rw [returned] at lost
    cases lost
  · rw [returned] at lost
    simp only [Except.toOption, Option.any_some, Bool.and_eq_true, Bool.not_eq_eq_eq_not,
      Bool.not_true, List.isEmpty_eq_false_iff, List.isEmpty_iff] at lost
    obtain ⟨⟨last, contained⟩, silent⟩ := lost
    refine ⟨trace, system, rfl, ⟨by decide, by decide, by decide⟩,
      ⟨by decide, by decide, by decide⟩, ?_⟩
    intro contract
    rcases List.eq_nil_or_concat trace with rfl | ⟨before, outcome, located⟩
    · cases last
    · rw [located, List.concat_eq_append, List.getLast?_concat, Option.any_some,
        Bool.and_eq_true, decide_eq_true_eq, decide_eq_true_eq] at last
      obtain ⟨key, closes⟩ := last
      rw [located, List.concat_eq_append] at contained silent
      have complete := contract.complete before outcome [] (by rw [located, List.concat_eq_append])
        containingMinute
      rw [key] at complete
      obtain ⟨emission, emitted, _⟩ := complete contained closes
      rw [silent] at emitted
      cases emitted

end WindowRule

end SignalForge
