import SignalForge.WindowAssignment

/-! What one call of the window aggregator does to its state, window by window, for an
aggregation that does not raise. -/

set_option autoImplicit false

namespace SignalForge

/-- An aggregator whose `combine` and `finalise` do not raise. -/
structure WindowRule (σ κ ρ : Type) where
  spec : WindowSpec
  latenessSeconds : Nat
  name : String
  initial : σ
  combine : σ → κ → σ
  finalise : σ → ρ

namespace WindowRule

open WindowAggregator

variable {σ κ ρ : Type}

def aggregator (rule : WindowRule σ κ ρ) : WindowAggregator σ κ ρ where
  spec := rule.spec
  latenessSeconds := rule.latenessSeconds
  aggregation := {
    name := rule.name
    initial := rule.initial
    combine := fun state contribution => .ok (rule.combine state contribution)
    finalise := fun state => .ok (rule.finalise state) }

def lateness (rule : WindowRule σ κ ρ) : Int := rule.latenessSeconds * microsPerSecond

theorem lateness_nonneg (rule : WindowRule σ κ ρ) : 0 ≤ rule.lateness := by
  simp only [lateness, microsPerSecond]
  omega

/-- The watermark has reached the window's end. -/
def Closes (rule : WindowRule σ κ ρ) (watermark start : Instant) : Prop :=
  start.micros + rule.spec.size ≤ watermark.micros

/-- The watermark has passed the window's sealing horizon. -/
def Seals (rule : WindowRule σ κ ρ) (watermark start : Instant) : Prop :=
  start.micros + rule.spec.size + rule.lateness < watermark.micros

instance (rule : WindowRule σ κ ρ) (watermark start : Instant) :
    Decidable (rule.Closes watermark start) := inferInstanceAs (Decidable (_ ≤ _))

instance (rule : WindowRule σ κ ρ) (watermark start : Instant) :
    Decidable (rule.Seals watermark start) := inferInstanceAs (Decidable (_ < _))

theorem Seals.closes {rule : WindowRule σ κ ρ} {watermark start : Instant}
    (seals : rule.Seals watermark start) : rule.Closes watermark start := by
  have nonneg := rule.lateness_nonneg
  simp only [Seals, Closes] at *
  omega

def freshWindow (rule : WindowRule σ κ ρ) : WindowState σ := ⟨rule.initial, 0, false, none⟩

/-- A window with one more event. -/
def addTo (rule : WindowRule σ κ ρ) (window : WindowState σ) (given : Observation κ) :
    WindowState σ where
  state := rule.combine window.state given.contribution
  eventCount := window.eventCount + 1
  hasEmitted := window.hasEmitted
  lastContributingTraceId := given.traceId

def emission (rule : WindowRule σ κ ρ) (key : String) (start windowEnd : Instant)
    (window : WindowState σ) (isRepair : Bool) : WindowEmission ρ where
  partitionKey := key
  aggregationName := rule.name
  windowStart := .utc start
  windowEnd := .utc windowEnd
  value := rule.finalise window.state
  eventCount := window.eventCount
  isRepair := isRepair
  lastContributingTraceId := window.lastContributingTraceId

/-- The end of a window that has one. -/
def endOf (rule : WindowRule σ κ ρ) (start : Instant) : Instant :=
  match start.add rule.spec.size with
  | .ok windowEnd => windowEnd
  | .error _ => start

theorem endOf_eq {rule : WindowRule σ κ ρ} {start windowEnd : Instant}
    (added : start.add rule.spec.size = .ok windowEnd) :
    rule.endOf start = windowEnd ∧ windowEnd.micros = start.micros + rule.spec.size :=
  ⟨by rw [endOf, added], Instant.add_eq_ok.mp added⟩

/-- The emission of a window as it stands. -/
def emissionOf (rule : WindowRule σ κ ρ) (key : String) (start : Instant)
    (window : WindowState σ) (isRepair : Bool) : WindowEmission ρ :=
  rule.emission key start (rule.endOf start) window isRepair

@[simp] theorem emissionOf_windowStart (rule : WindowRule σ κ ρ) (key : String) (start : Instant)
    (window : WindowState σ) (isRepair : Bool) :
    (rule.emissionOf key start window isRepair).windowStart = .utc start := rfl

theorem get?_set_window (states : OrderedDict (String × Instant) (WindowState σ)) (key : String)
    (start : Instant) (window : WindowState σ) (otherKey : String) (other : Instant) :
    (states.set (key, start) window).get? (otherKey, other) =
      if otherKey = key ∧ other = start then some window else states.get? (otherKey, other) := by
  simp only [OrderedDict.get?_set, Prod.mk.injEq]

theorem get?_erase_window (states : OrderedDict (String × Instant) (WindowState σ)) (key : String)
    (start : Instant) (otherKey : String) (other : Instant) :
    (states.erase (key, start)).get? (otherKey, other) =
      if otherKey = key ∧ other = start then none else states.get? (otherKey, other) := by
  simp only [OrderedDict.get?_erase, Prod.mk.injEq]

/-- Each key's starts ascend and are those of the windows held. -/
structure Coherent (held : State σ) : Prop where
  sorted : ∀ key, (startsFor held key).Pairwise (· < ·)
  retained : ∀ key start, start ∈ startsFor held key ↔ (held.states.get? (key, start)).isSome

theorem coherent_empty : Coherent ({} : State σ) where
  sorted _ := List.Pairwise.nil
  retained _ _ := by simp only [startsFor, OrderedDict.get?_empty, Option.getD_none,
    List.not_mem_nil, Option.isSome_none, Bool.false_eq_true]

theorem mem_insort (start other : Instant) (starts : List Instant) :
    other ∈ insort start starts ↔ other = start ∨ other ∈ starts := by
  induction starts with
  | nil => simp only [insort, List.mem_singleton, List.not_mem_nil, or_false]
  | cons first rest ih =>
      simp only [insort]
      split
      · simp only [List.mem_cons]
      · simp only [List.mem_cons, ih]
        exact or_left_comm

theorem insort_sorted {start : Instant} {starts : List Instant}
    (sorted : starts.Pairwise (· < ·)) (fresh : start ∉ starts) :
    (insort start starts).Pairwise (· < ·) := by
  induction starts with
  | nil => exact List.pairwise_singleton _ _
  | cons first rest ih =>
      obtain ⟨smallest, tail⟩ := List.pairwise_cons.mp sorted
      simp only [List.mem_cons, not_or] at fresh
      simp only [insort]
      split
      · rename_i before
        refine List.pairwise_cons.mpr ⟨?_, sorted⟩
        intro other member
        rcases List.mem_cons.mp member with rfl | later
        · exact before
        · exact before.trans (smallest other later)
      · rename_i notBefore
        refine List.pairwise_cons.mpr ⟨?_, ih tail fresh.2⟩
        intro other member
        rcases (mem_insort start other rest).mp member with rfl | later
        · exact lt_of_le_of_ne (not_lt.mp notBefore) (Ne.symm fresh.1)
        · exact smallest other later

/-- The window under a key and start, fresh where none is held. -/
def windowFor (rule : WindowRule σ κ ρ) (held : State σ) (key : String) (start : Instant) :
    WindowState σ :=
  (held.states.get? (key, start)).getD rule.freshWindow

/-- What an event emits from a window it belongs to. -/
def repairs (rule : WindowRule σ κ ρ) (given : Observation κ) (held : State σ)
    (start : Instant) : List (WindowEmission ρ) :=
  let window := rule.windowFor held given.partitionKey start
  if given.classification = .lateTolerated ∧ window.hasEmitted = true then
    [rule.emissionOf given.partitionKey start (rule.addTo window given) true]
  else []

/-- An event applied to the windows at some starts. -/
structure Applies (rule : WindowRule σ κ ρ) (given : Observation κ) (starts : List Instant)
    (held : State σ) (emissions : List (WindowEmission ρ)) (after : State σ) : Prop where
  coherent : Coherent after
  states : ∀ key start, after.states.get? (key, start) =
    if key = given.partitionKey ∧ start ∈ starts then
      some (rule.addTo (rule.windowFor held key start) given)
    else held.states.get? (key, start)
  emissions : emissions = starts.flatMap (rule.repairs given held)

/-- A window added, with its start put in place, leaves the starts listed. -/
theorem Coherent.opened {held : State σ} (coherent : Coherent held) {key : String}
    {start : Instant} (absent : held.states.get? (key, start) = none) (window : WindowState σ) :
    Coherent (σ := σ) ⟨held.states.set (key, start) window,
      held.openStarts.modify key [] (insort start)⟩ := by
  have starts : ∀ otherKey, startsFor (σ := σ) ⟨held.states.set (key, start) window,
      held.openStarts.modify key [] (insort start)⟩ otherKey =
        if otherKey = key then insort start (startsFor held key) else startsFor held otherKey := by
    intro otherKey
    simp only [startsFor, OrderedDict.get?_modify]
    split <;> rfl
  have unlisted : start ∉ startsFor held key := by
    rw [coherent.retained, absent]
    simp only [Option.isSome_none, Bool.false_eq_true, not_false_eq_true]
  refine ⟨?_, ?_⟩
  · intro otherKey
    rw [starts]
    split
    · exact insort_sorted (coherent.sorted key) unlisted
    · exact coherent.sorted otherKey
  · intro otherKey other
    rw [starts, get?_set_window]
    by_cases sameKey : otherKey = key
    · rw [if_pos sameKey, mem_insort, coherent.retained, sameKey]
      by_cases same : other = start
      · simp only [same, true_or, and_self, ↓reduceIte, Option.isSome_some]
      · simp only [same, false_or, and_false, ↓reduceIte]
    · simp only [sameKey, ↓reduceIte, false_and, coherent.retained]

/-- Opening a window returns it, fresh where none was held, and changes no other. -/
theorem openWindow_ok {rule : WindowRule σ κ ρ} {key : String} {start windowEnd watermark : Instant}
    {held after : State σ} {opened : Option (WindowState σ)} (coherent : Coherent held)
    (ends : windowEnd.micros = start.micros + rule.spec.size)
    (unsealed : ¬ rule.Seals watermark start)
    (returned : rule.aggregator.openWindow key start windowEnd watermark held =
      (.ok opened, after)) :
    opened = some (rule.windowFor held key start) ∧ Coherent after ∧
      ∀ otherKey other, after.states.get? (otherKey, other) =
        if otherKey = key ∧ other = start then some (rule.windowFor held key start)
        else held.states.get? (otherKey, other) := by
  simp only [openWindow, Call.bind_eq_ok, Call.read_apply, Prod.mk.injEq, Except.ok.injEq]
    at returned
  obtain ⟨existing, _, ⟨rfl, rfl⟩, opening⟩ := returned
  rcases found : held.states.get? (key, start) with _ | window
  · rw [found] at opening
    simp only [Call.bind_eq_ok, Call.lift_apply, Prod.mk.injEq] at opening
    obtain ⟨sealing, _, ⟨added, rfl⟩, opening⟩ := opening
    have horizon := Instant.add_eq_ok.mp added
    have notPast : ¬ sealing < watermark := by
      intro past
      apply unsealed
      rw [Instant.lt_def, horizon, ends] at past
      exact past
    rw [if_neg notPast] at opening
    simp only [Call.bind_eq_ok, Call.write_apply, Call.pure_apply, Prod.mk.injEq,
      Except.ok.injEq] at opening
    obtain ⟨_, _, ⟨_, rfl⟩, rfl, rfl⟩ := opening
    have isFresh : rule.windowFor held key start = rule.aggregator.freshWindow := by
      rw [windowFor, found]
      rfl
    refine ⟨by rw [isFresh], coherent.opened found _, ?_⟩
    rw [isFresh]
    exact get?_set_window held.states key start rule.aggregator.freshWindow
  · rw [found] at opening
    simp only [Call.pure_apply, Prod.mk.injEq, Except.ok.injEq] at opening
    obtain ⟨rfl, rfl⟩ := opening
    have isHeld : rule.windowFor held key start = window := by
      rw [windowFor, found]
      rfl
    refine ⟨by rw [isHeld], coherent, ?_⟩
    intro otherKey other
    split
    · rename_i same
      rw [isHeld, same.1, same.2, found]
    · rfl

theorem emit_ok {rule : WindowRule σ κ ρ} {key : String} {start windowEnd : Instant}
    {window : WindowState σ} {isRepair : Bool} {held after : State σ}
    {emitted : WindowEmission ρ}
    (returned : rule.aggregator.emit key start windowEnd window isRepair held =
      (.ok emitted, after)) :
    emitted = rule.emission key start windowEnd window isRepair ∧ after = held := by
  cases returned
  exact ⟨rfl, rfl⟩

/-- The step lemma for one window of an event. -/
theorem applyToWindow_ok {rule : WindowRule σ κ ρ} {given : Observation κ} {start : Instant}
    {held after : State σ} {emissions : List (WindowEmission ρ)} (coherent : Coherent held)
    (unsealed : ¬ rule.Seals given.watermark start)
    (returned : rule.aggregator.applyToWindow given start held = (.ok emissions, after)) :
    Applies rule given [start] held emissions after := by
  simp only [applyToWindow, Call.bind_eq_ok, Call.lift_apply, Prod.mk.injEq] at returned
  obtain ⟨windowEnd, _, ⟨added, rfl⟩, opened, between, opening, applying⟩ := returned
  obtain ⟨endIs, ends⟩ := endOf_eq added
  obtain ⟨rfl, openCoherent, openStates⟩ := openWindow_ok coherent ends unsealed opening
  simp only [Call.bind_eq_ok, Call.lift_apply, Call.write_apply, Prod.mk.injEq] at applying
  obtain ⟨combined, _, ⟨combining, rfl⟩, _, stored, ⟨_, rfl⟩, emitting⟩ := applying
  obtain rfl := Except.ok.inj combining
  have states : ∀ key other, (between.states.set (given.partitionKey, start)
      (rule.addTo (rule.windowFor held given.partitionKey start) given)).get? (key, other) =
      if key = given.partitionKey ∧ other ∈ [start] then
        some (rule.addTo (rule.windowFor held key other) given)
      else held.states.get? (key, other) := by
    intro key other
    rw [get?_set_window, openStates]
    simp only [List.mem_singleton]
    split
    · rename_i same
      rw [same.1, same.2]
    · rfl
  have wasOpen : start ∈ startsFor between given.partitionKey := by
    rw [openCoherent.retained, openStates]
    simp only [and_self, ↓reduceIte, Option.isSome_some]
  have stillCoherent : Coherent (σ := σ) { between with
      states := between.states.set (given.partitionKey, start)
        (rule.addTo (rule.windowFor held given.partitionKey start) given) } := by
    refine ⟨openCoherent.sorted, ?_⟩
    intro key other
    rw [get?_set_window]
    split
    · rename_i same
      simp only [same.1, same.2, Option.isSome_some, iff_true]
      exact wasOpen
    · exact openCoherent.retained key other
  split at emitting
  · rename_i repaired
    simp only [Call.bind_eq_ok, Call.pure_apply, Prod.mk.injEq, Except.ok.injEq] at emitting
    obtain ⟨repair, _, emitted, rfl, rfl⟩ := emitting
    obtain ⟨rfl, rfl⟩ := emit_ok emitted
    refine ⟨stillCoherent, states, ?_⟩
    rw [List.flatMap_singleton, repairs, if_pos repaired, emissionOf, endIs]
    rfl
  · rename_i quiet
    simp only [Call.pure_apply, Prod.mk.injEq, Except.ok.injEq] at emitting
    obtain ⟨rfl, rfl⟩ := emitting
    refine ⟨stillCoherent, states, ?_⟩
    rw [List.flatMap_singleton, repairs, if_neg quiet]

theorem applyToWindows_ok {rule : WindowRule σ κ ρ} {given : Observation κ}
    {starts : List Instant} {held after : State σ} {emissions : List (WindowEmission ρ)}
    (coherent : Coherent held) (distinct : starts.Nodup)
    (unsealed : ∀ start ∈ starts, ¬ rule.Seals given.watermark start)
    (returned : rule.aggregator.applyToWindows given starts held = (.ok emissions, after)) :
    Applies rule given starts held emissions after := by
  induction starts generalizing held emissions with
  | nil =>
      simp only [applyToWindows, Call.pure_apply, Prod.mk.injEq, Except.ok.injEq] at returned
      obtain ⟨rfl, rfl⟩ := returned
      exact ⟨coherent, by simp only [List.not_mem_nil, and_false, ↓reduceIte, implies_true], rfl⟩
  | cons start rest ih =>
      simp only [applyToWindows, Call.bind_eq_ok, Call.pure_apply, Prod.mk.injEq,
        Except.ok.injEq] at returned
      obtain ⟨here, between, first, later, last, others, rfl, rfl⟩ := returned
      obtain ⟨apart, distinct⟩ := List.nodup_cons.mp distinct
      have one := applyToWindow_ok coherent (unsealed start (List.mem_cons_self ..)) first
      have tail := ih one.coherent distinct
        (fun other member => unsealed other (List.mem_cons_of_mem _ member)) others
      -- the windows of the rest are as they were before this one
      have untouched : ∀ other ∈ rest, rule.windowFor between given.partitionKey other =
          rule.windowFor held given.partitionKey other := by
        intro other member
        have different : other ≠ start := fun same => apart (same ▸ member)
        rw [windowFor, one.states, if_neg (by simpa using different), windowFor]
      refine ⟨tail.coherent, ?_, ?_⟩
      · intro key other
        rw [tail.states, one.states]
        simp only [List.mem_cons, List.not_mem_nil, or_false]
        by_cases sameKey : key = given.partitionKey
        · subst sameKey
          by_cases inRest : other ∈ rest
          · simp only [inRest, and_self, ↓reduceIte, or_true, untouched other inRest]
          · simp only [inRest, and_false, ↓reduceIte, or_false, true_and]
        · simp only [sameKey, false_and, ↓reduceIte]
      · rw [one.emissions, tail.emissions, List.flatMap_singleton, List.flatMap_cons]
        congr 1
        apply List.flatMap_congr
        intro other member
        rw [repairs, repairs, untouched other member]

/-- What closing emits from a window held. -/
def closures (rule : WindowRule σ κ ρ) (key : String) (watermark : Instant) (held : State σ)
    (start : Instant) : List (WindowEmission ρ) :=
  match held.states.get? (key, start) with
  | none => []
  | some window =>
      if window.hasEmitted = false ∧ rule.Closes watermark start then
        [rule.emissionOf key start window false]
      else []

/-- What closing leaves of a window. -/
def settle (rule : WindowRule σ κ ρ) (watermark start : Instant) (window : WindowState σ) :
    Option (WindowState σ) :=
  if rule.Seals watermark start then none
  else some { window with hasEmitted := window.hasEmitted || rule.Closes watermark start }

theorem isSome_settle (rule : WindowRule σ κ ρ) (watermark start : Instant)
    (window : WindowState σ) :
    (rule.settle watermark start window).isSome ↔ ¬ rule.Seals watermark start := by
  unfold settle
  split <;> simp_all only [Option.isSome_none, Bool.false_eq_true, not_true_eq_false,
    Option.isSome_some, not_false_eq_true]

/-- The windows at some starts of a key closed. -/
structure Settles (rule : WindowRule σ κ ρ) (key : String) (watermark : Instant)
    (starts : List Instant) (held : State σ) (closed : List (WindowEmission ρ) × List Instant)
    (after : State σ) : Prop where
  openStarts : after.openStarts = held.openStarts
  states : ∀ otherKey start, after.states.get? (otherKey, start) =
    if otherKey = key ∧ start ∈ starts then
      (held.states.get? (otherKey, start)).bind (rule.settle watermark start)
    else held.states.get? (otherKey, start)
  emissions : closed.1 = starts.flatMap (rule.closures key watermark held)
  kept : closed.2 = starts.filter fun start => ¬ rule.Seals watermark start

/-- Emitting a closure that is due marks the window; nothing else changes. -/
theorem emitClosure_ok {rule : WindowRule σ κ ρ} {key : String}
    {watermark start windowEnd : Instant} {window : WindowState σ} {held after : State σ}
    {emissions : List (WindowEmission ρ)} (added : start.add rule.spec.size = .ok windowEnd)
    (holds : held.states.get? (key, start) = some window)
    (returned : rule.aggregator.emitClosure key watermark start windowEnd window held =
      (.ok emissions, after)) :
    emissions = rule.closures key watermark held start ∧
      after.openStarts = held.openStarts ∧
      ∀ otherKey other, after.states.get? (otherKey, other) =
        if otherKey = key ∧ other = start then
          some { window with hasEmitted := window.hasEmitted || rule.Closes watermark start }
        else held.states.get? (otherKey, other) := by
  obtain ⟨endIs, ends⟩ := endOf_eq added
  have due : (window.hasEmitted = false ∧ windowEnd ≤ watermark) ↔
      (window.hasEmitted = false ∧ rule.Closes watermark start) := by
    rw [Instant.le_def, ends, Closes]
  rw [emitClosure] at returned
  split at returned
  · rename_i isDue
    simp only [Call.bind_eq_ok, Call.write_apply, Call.pure_apply, Prod.mk.injEq,
      Except.ok.injEq] at returned
    obtain ⟨closure, _, emitted, _, _, ⟨_, rfl⟩, rfl, rfl⟩ := returned
    obtain ⟨rfl, rfl⟩ := emit_ok emitted
    have closes := (due.mp isDue).2
    refine ⟨?_, rfl, ?_⟩
    · rw [closures, holds]
      simp only [due.mp isDue, and_self, ↓reduceIte, emissionOf, endIs]
    · intro otherKey other
      rw [get?_set_window]
      simp only [closes, decide_true, Bool.or_true]
  · rename_i notDue
    simp only [Call.pure_apply, Prod.mk.injEq, Except.ok.injEq] at returned
    obtain ⟨rfl, rfl⟩ := returned
    have unchanged : (window.hasEmitted || decide (rule.Closes watermark start)) =
        window.hasEmitted := by
      rw [due] at notDue
      cases emitted : window.hasEmitted with
      | true => rfl
      | false =>
          rw [Bool.false_or, decide_eq_false_iff_not]
          exact fun closes => notDue ⟨emitted, closes⟩
    refine ⟨?_, rfl, ?_⟩
    · rw [closures, holds]
      simp only [due.symm.trans (iff_false_intro notDue), ↓reduceIte]
    · intro otherKey other
      rw [unchanged]
      split
      · rename_i same
        rw [same.1, same.2, holds]
      · rfl

theorem closeWindow_ok {rule : WindowRule σ κ ρ} {key : String} {watermark start : Instant}
    {held after : State σ} {closed : List (WindowEmission ρ) × List Instant}
    (returned : rule.aggregator.closeWindow key watermark start held = (.ok closed, after)) :
    Settles rule key watermark [start] held closed after := by
  simp only [closeWindow, Call.bind_eq_ok, Call.lift_apply, Call.read_apply, Prod.mk.injEq,
    Except.ok.injEq] at returned
  obtain ⟨windowEnd, _, ⟨added, rfl⟩, found, _, ⟨rfl, rfl⟩, closing⟩ := returned
  rcases holds : held.states.get? (key, start) with _ | window
  · rw [holds] at closing
    cases closing
  · rw [holds] at closing
    simp only [Call.bind_eq_ok, Call.lift_apply, Prod.mk.injEq] at closing
    obtain ⟨emissions, between, marking, sealing, _, ⟨horizon, rfl⟩, sealed⟩ := closing
    obtain ⟨rfl, sameStarts, states⟩ := emitClosure_ok added holds marking
    have past : sealing < watermark ↔ rule.Seals watermark start := by
      rw [Instant.lt_def, Instant.add_eq_ok.mp horizon, (endOf_eq added).2]
      rfl
    split at sealed
    · rename_i isPast
      simp only [Call.bind_eq_ok, Call.write_apply, Call.pure_apply, Prod.mk.injEq,
        Except.ok.injEq] at sealed
      obtain ⟨_, _, ⟨_, rfl⟩, rfl, rfl⟩ := sealed
      have seals := past.mp isPast
      refine ⟨sameStarts, ?_, (List.flatMap_singleton _ _).symm, ?_⟩
      · intro otherKey other
        rw [get?_erase_window, states]
        simp only [List.mem_singleton]
        split
        · rename_i same
          rw [same.1, same.2, holds, Option.bind_some, settle, if_pos seals]
        · rfl
      · simp only [List.filter_cons, seals, not_true_eq_false, decide_false, Bool.false_eq_true,
          ↓reduceIte, List.filter_nil]
    · rename_i notPast
      simp only [Call.pure_apply, Prod.mk.injEq, Except.ok.injEq] at sealed
      obtain ⟨rfl, rfl⟩ := sealed
      have open_ : ¬ rule.Seals watermark start := fun seals => notPast (past.mpr seals)
      refine ⟨sameStarts, ?_, (List.flatMap_singleton _ _).symm, ?_⟩
      · intro otherKey other
        rw [states]
        simp only [List.mem_singleton]
        split
        · rename_i same
          rw [same.1, same.2, holds, Option.bind_some, settle, if_neg open_]
        · rfl
      · simp only [List.filter_cons, open_, not_false_eq_true, decide_true, ↓reduceIte,
          List.filter_nil]

theorem closeWindows_ok {rule : WindowRule σ κ ρ} {key : String} {watermark : Instant}
    {starts : List Instant} {held after : State σ}
    {closed : List (WindowEmission ρ) × List Instant} (distinct : starts.Nodup)
    (returned : rule.aggregator.closeWindows key watermark starts held = (.ok closed, after)) :
    Settles rule key watermark starts held closed after := by
  induction starts generalizing held closed with
  | nil =>
      simp only [closeWindows, Call.pure_apply, Prod.mk.injEq, Except.ok.injEq] at returned
      obtain ⟨rfl, rfl⟩ := returned
      exact ⟨rfl, by simp only [List.not_mem_nil, and_false, ↓reduceIte, implies_true], rfl, rfl⟩
  | cons start rest ih =>
      simp only [closeWindows, Call.bind_eq_ok, Call.pure_apply, Prod.mk.injEq,
        Except.ok.injEq] at returned
      obtain ⟨here, between, first, later, last, others, rfl, rfl⟩ := returned
      obtain ⟨apart, distinct⟩ := List.nodup_cons.mp distinct
      have one := closeWindow_ok first
      have tail := ih distinct others
      have untouched : ∀ other ∈ rest, between.states.get? (key, other) =
          held.states.get? (key, other) := by
        intro other member
        have different : other ≠ start := fun same => apart (same ▸ member)
        rw [one.states, if_neg (by simpa using different)]
      refine ⟨by rw [tail.openStarts, one.openStarts], ?_, ?_, ?_⟩
      · intro otherKey other
        rw [tail.states]
        by_cases sameKey : otherKey = key
        · subst sameKey
          by_cases inRest : other ∈ rest
          · simp only [inRest, and_self, ↓reduceIte, List.mem_cons, or_true,
              untouched other inRest]
          · simp only [inRest, and_false, ↓reduceIte, List.mem_cons, or_false, true_and,
              one.states, List.not_mem_nil]
        · simp only [sameKey, false_and, ↓reduceIte, one.states]
      · dsimp only
        rw [one.emissions, tail.emissions, List.flatMap_singleton, List.flatMap_cons]
        congr 1
        apply List.flatMap_congr
        intro other member
        rw [closures, closures, untouched other member]
      · dsimp only
        rw [one.kept, tail.kept, ← List.filter_append]
        rfl

/-- Closing a key: its windows settled and no others touched. -/
structure Closed (rule : WindowRule σ κ ρ) (key : String) (watermark : Instant)
    (held : State σ) (emissions : List (WindowEmission ρ)) (after : State σ) : Prop where
  coherent : Coherent after
  states : ∀ otherKey start, after.states.get? (otherKey, start) =
    if otherKey = key then
      (held.states.get? (otherKey, start)).bind (rule.settle watermark start)
    else held.states.get? (otherKey, start)
  emissions : emissions = (startsFor held key).flatMap (rule.closures key watermark held)

theorem closeEligibleWindows_ok {rule : WindowRule σ κ ρ} {key : String} {watermark : Instant}
    {held after : State σ} {emissions : List (WindowEmission ρ)} (coherent : Coherent held)
    (returned : rule.aggregator.closeEligibleWindows key watermark held =
      (.ok emissions, after)) :
    Closed rule key watermark held emissions after := by
  simp only [closeEligibleWindows, Call.bind_eq_ok, Call.read_apply, Prod.mk.injEq,
    Except.ok.injEq] at returned
  obtain ⟨_, _, ⟨rfl, rfl⟩, closing⟩ := returned
  -- only windows with a retained start are held
  have absent : ∀ start ∉ startsFor held key, held.states.get? (key, start) = none := by
    intro start outside
    rwa [coherent.retained, Option.not_isSome_iff_eq_none] at outside
  split at closing
  · rename_i noStarts
    simp only [Call.pure_apply, Prod.mk.injEq, Except.ok.injEq] at closing
    obtain ⟨rfl, rfl⟩ := closing
    refine ⟨coherent, ?_, by rw [noStarts]; rfl⟩
    intro otherKey start
    split
    · rename_i sameKey
      rw [sameKey, absent start (by rw [noStarts]; exact List.not_mem_nil), Option.bind_none]
    · rfl
  · simp only [Call.bind_eq_ok, Call.write_apply, Call.pure_apply, Prod.mk.injEq,
      Except.ok.injEq] at closing
    obtain ⟨closed, between, settling, _, _, ⟨_, stored⟩, rfl, same⟩ := closing
    rw [same] at stored
    have settled := closeWindows_ok ((coherent.sorted key).imp fun before => before.ne) settling
    have states : ∀ otherKey start, after.states.get? (otherKey, start) =
        if otherKey = key then
          (held.states.get? (otherKey, start)).bind (rule.settle watermark start)
        else held.states.get? (otherKey, start) := by
      intro otherKey start
      rw [← stored, settled.states]
      by_cases sameKey : otherKey = key
      · by_cases retained : start ∈ startsFor held key
        · simp only [sameKey, retained, and_self, ↓reduceIte]
        · simp only [sameKey, retained, and_false, ↓reduceIte, absent start retained,
            Option.bind_none]
      · simp only [sameKey, false_and, ↓reduceIte]
    have starts : ∀ otherKey, startsFor after otherKey =
        if otherKey = key then closed.2 else startsFor held otherKey := by
      intro otherKey
      have unlisted : startsFor between otherKey = startsFor held otherKey := by
        rw [startsFor, settled.openStarts, startsFor]
      rw [← stored, startsFor_put, unlisted]
    refine ⟨⟨?_, ?_⟩, states, settled.emissions⟩
    · intro otherKey
      rw [starts]
      split
      · rw [settled.kept]
        exact (coherent.sorted key).filter _
      · exact coherent.sorted otherKey
    · intro otherKey start
      rw [starts, states]
      by_cases sameKey : otherKey = key
      · simp only [sameKey, ↓reduceIte, settled.kept, List.mem_filter, coherent.retained,
          decide_not, Bool.not_eq_eq_eq_not, Bool.not_true, decide_eq_false_iff_not]
        cases held.states.get? (key, start) with
        | none => simp only [Option.isSome_none, Bool.false_eq_true, false_and, Option.bind_none]
        | some window =>
            rw [Option.bind_some, isSome_settle]
            simp only [Option.isSome_some, true_and]
      · simp only [sameKey, ↓reduceIte, coherent.retained]

/-- There is room for the window and its sealing horizon. -/
def Fits (rule : WindowRule σ κ ρ) (start : Instant) : Prop :=
  start.micros + rule.spec.size + rule.lateness ≤ maxMicros

theorem Fits.end {rule : WindowRule σ κ ρ} {start : Instant} (fits : rule.Fits start) :
    ∃ windowEnd, start.add rule.aggregator.spec.size = .ok windowEnd ∧
      ∃ sealing, windowEnd.add rule.aggregator.lateness = .ok sealing := by
  have lowest := start.min_le
  have positive := rule.spec.size_micros_pos
  have nonneg := rule.lateness_nonneg
  unfold Fits at fits
  obtain ⟨windowEnd, added, ends⟩ := Instant.add_of_range start rule.spec.size (by omega)
    (by omega)
  obtain ⟨sealing, horizon, _⟩ := Instant.add_of_range windowEnd rule.lateness (by omega)
    (by omega)
  exact ⟨windowEnd, added, sealing, horizon⟩

theorem emit_returns (rule : WindowRule σ κ ρ) (key : String) (start windowEnd : Instant)
    (window : WindowState σ) (isRepair : Bool) (held : State σ) :
    (rule.aggregator.emit key start windowEnd window isRepair).Returns held :=
  ⟨rule.emission key start windowEnd window isRepair, held, rfl⟩

theorem openWindow_returns {rule : WindowRule σ κ ρ} {windowEnd sealing : Instant}
    (horizon : windowEnd.add rule.aggregator.lateness = .ok sealing) (key : String)
    (start watermark : Instant) (held : State σ) :
    (rule.aggregator.openWindow key start windowEnd watermark).Returns held := by
  apply Call.Returns.bind_read
  cases held.states.get? (key, start) with
  | some window => exact Call.returns_pure _ _
  | none =>
      apply Call.Returns.bind_lift horizon
      split
      · exact Call.returns_pure _ _
      · exact Call.Returns.bind_write (Call.returns_pure _ _)

theorem applyToWindow_returns {rule : WindowRule σ κ ρ} {start : Instant} (fits : rule.Fits start)
    (given : Observation κ) (held : State σ) :
    (rule.aggregator.applyToWindow given start).Returns held := by
  obtain ⟨windowEnd, added, sealing, horizon⟩ := fits.end
  apply Call.Returns.bind_lift added
  refine Call.Returns.bind (openWindow_returns horizon _ _ _ held) fun opened between _ => ?_
  cases opened with
  | none => exact Call.returns_pure _ _
  | some window =>
      apply Call.Returns.bind_lift rfl
      apply Call.Returns.bind_write
      split
      · exact Call.Returns.bind (rule.emit_returns _ _ _ _ _ _) fun _ _ _ =>
          Call.returns_pure _ _
      · exact Call.returns_pure _ _

theorem applyToWindows_returns {rule : WindowRule σ κ ρ} {starts : List Instant}
    (fits : ∀ start ∈ starts, rule.Fits start) (given : Observation κ) (held : State σ) :
    (rule.aggregator.applyToWindows given starts).Returns held := by
  induction starts generalizing held with
  | nil => exact Call.returns_pure _ _
  | cons start rest ih =>
      have here := applyToWindow_returns (fits start (List.mem_cons_self ..)) given held
      have others := ih fun other member => fits other (List.mem_cons_of_mem _ member)
      exact here.bind fun _ between _ => (others between).bind fun _ _ _ => Call.returns_pure _ _

theorem emitClosure_returns (rule : WindowRule σ κ ρ) (key : String)
    (watermark start windowEnd : Instant) (window : WindowState σ) (held : State σ) :
    (rule.aggregator.emitClosure key watermark start windowEnd window).Returns held := by
  rw [emitClosure]
  split
  · exact Call.Returns.bind (rule.emit_returns _ _ _ _ _ _) fun _ _ _ =>
      Call.Returns.bind_write (Call.returns_pure _ _)
  · exact Call.returns_pure _ _

theorem closeWindow_returns {rule : WindowRule σ κ ρ} {start : Instant} (fits : rule.Fits start)
    {key : String} (watermark : Instant) {held : State σ}
    (present : (held.states.get? (key, start)).isSome) :
    (rule.aggregator.closeWindow key watermark start).Returns held := by
  obtain ⟨windowEnd, added, sealing, horizon⟩ := fits.end
  apply Call.Returns.bind_lift added
  apply Call.Returns.bind_read
  obtain ⟨window, holds⟩ := Option.isSome_iff_exists.mp present
  rw [holds]
  refine Call.Returns.bind (rule.emitClosure_returns _ _ _ _ _ _) fun _ between _ => ?_
  apply Call.Returns.bind_lift horizon
  split
  · exact Call.Returns.bind_write (Call.returns_pure _ _)
  · exact Call.returns_pure _ _

theorem closeWindows_returns {rule : WindowRule σ κ ρ} {starts : List Instant}
    (distinct : starts.Nodup) (fits : ∀ start ∈ starts, rule.Fits start) {key : String}
    (watermark : Instant) {held : State σ}
    (present : ∀ start ∈ starts, (held.states.get? (key, start)).isSome) :
    (rule.aggregator.closeWindows key watermark starts).Returns held := by
  induction starts generalizing held with
  | nil => exact Call.returns_pure _ _
  | cons start rest ih =>
      obtain ⟨apart, distinct⟩ := List.nodup_cons.mp distinct
      have here := closeWindow_returns (fits start (List.mem_cons_self ..)) watermark
        (present start (List.mem_cons_self ..))
      refine here.bind fun closed between first => ?_
      have one := closeWindow_ok first
      have stillPresent : ∀ other ∈ rest, (between.states.get? (key, other)).isSome := by
        intro other member
        have different : other ≠ start := fun same => apart (same ▸ member)
        rw [one.states, if_neg (by simpa using different)]
        exact present other (List.mem_cons_of_mem _ member)
      have others := ih distinct (fun other member => fits other (List.mem_cons_of_mem _ member))
        stillPresent
      exact others.bind fun _ _ _ => Call.returns_pure _ _

theorem closeEligibleWindows_returns {rule : WindowRule σ κ ρ} {held : State σ}
    (coherent : Coherent held) {key : String} (watermark : Instant)
    (fits : ∀ start ∈ startsFor held key, rule.Fits start) :
    (rule.aggregator.closeEligibleWindows key watermark).Returns held := by
  apply Call.Returns.bind_read
  split
  · exact Call.returns_pure _ _
  · have distinct : (startsFor held key).Nodup := (coherent.sorted key).imp fun before => before.ne
    have closing := closeWindows_returns distinct fits watermark
      fun start member => (coherent.retained key start).mp member
    exact closing.bind fun _ _ _ => Call.Returns.bind_write (Call.returns_pure _ _)

end WindowRule

end SignalForge
