import SignalForge.Unwinding
import SignalForge.WindowSteps

/-! What an event does to one window of an aggregator whose aggregation may refuse the
contribution. -/

set_option autoImplicit false

namespace SignalForge

/-- An aggregator whose `combine` may raise and whose `finalise` does not. -/
structure FallibleRule (σ κ ρ : Type) where
  spec : WindowSpec
  latenessSeconds : Nat
  name : String
  initial : σ
  combine : σ → κ → Except Raised σ
  finalise : σ → ρ

namespace FallibleRule

open WindowAggregator

variable {σ κ ρ : Type}

def aggregator (rule : FallibleRule σ κ ρ) : WindowAggregator σ κ ρ where
  spec := rule.spec
  latenessSeconds := rule.latenessSeconds
  aggregation := {
    name := rule.name
    initial := rule.initial
    combine := rule.combine
    finalise := fun state => .ok (rule.finalise state) }

/-- The same windows where every contribution is taken: they close alike. -/
def closing (rule : FallibleRule σ κ ρ) : WindowRule σ κ ρ where
  spec := rule.spec
  latenessSeconds := rule.latenessSeconds
  name := rule.name
  initial := rule.initial
  combine := fun state _ => state
  finalise := rule.finalise

theorem closeWindows_closing (rule : FallibleRule σ κ ρ) (key : String) (watermark : Instant)
    (starts : List Instant) : rule.aggregator.closeWindows key watermark starts =
      rule.closing.aggregator.closeWindows key watermark starts := by
  induction starts with
  | nil => rfl
  | cons start rest ih =>
      rw [closeWindows, closeWindows, ih]
      rfl

theorem closeEligibleWindows_closing (rule : FallibleRule σ κ ρ) (key : String)
    (watermark : Instant) : rule.aggregator.closeEligibleWindows key watermark =
      rule.closing.aggregator.closeEligibleWindows key watermark := by
  simp only [closeEligibleWindows, closeWindows_closing]

/-- The event passes the window over: it is not held and past its sealing horizon. -/
def Skips (rule : FallibleRule σ κ ρ) (given : Observation κ) (held : State σ)
    (start : Instant) : Prop :=
  held.states.get? (given.partitionKey, start) = none ∧ rule.closing.Fits start ∧
    rule.closing.Seals given.watermark start

/-- The window takes the contribution. -/
def Accepts (rule : FallibleRule σ κ ρ) (given : Observation κ) (held : State σ)
    (start : Instant) : Prop :=
  (held.states.get? (given.partitionKey, start) = none →
      rule.closing.Fits start ∧ ¬ rule.closing.Seals given.watermark start) ∧
    ∃ combined, rule.combine (rule.closing.windowFor held given.partitionKey start).state
      given.contribution = .ok combined

/-- The window raises before it is touched: there is no room for its end and its horizon, or it is
held and `combine` raises on what it holds. -/
def Refuses (rule : FallibleRule σ κ ρ) (given : Observation κ) (held : State σ)
    (start : Instant) : Prop :=
  match held.states.get? (given.partitionKey, start) with
  | none => ¬ rule.closing.Fits start
  | some window => ∃ reason, rule.combine window.state given.contribution = .error reason

/-- Starts are listed for the windows held, and there is room for each. -/
structure Sound (rule : FallibleRule σ κ ρ) (held : State σ) : Prop where
  coherent : WindowRule.Coherent held
  fits : ∀ key, ∀ start ∈ startsFor held key, rule.closing.Fits start

theorem sound_empty (rule : FallibleRule σ κ ρ) : rule.Sound {} :=
  ⟨WindowRule.coherent_empty, fun _ => List.forall_mem_nil _⟩

section Window

variable {rule : FallibleRule σ κ ρ} {given : Observation κ} {held : State σ} {start : Instant}

theorem Sound.fits_held (sound : rule.Sound held) {key : String} {window : WindowState σ}
    (found : held.states.get? (key, start) = some window) : rule.closing.Fits start := by
  apply sound.fits key start
  rw [sound.coherent.retained, found, Option.isSome_some]

/-- A window opened where there is room for it. -/
theorem Sound.opened (sound : rule.Sound held) {key : String}
    (absent : held.states.get? (key, start) = none) (fits : rule.closing.Fits start)
    (window : WindowState σ) : rule.Sound (σ := σ) ⟨held.states.set (key, start) window,
      held.openStarts.modify key [] (insort start)⟩ := by
  refine ⟨sound.coherent.opened absent window, ?_⟩
  intro otherKey other member
  simp only [startsFor, OrderedDict.get?_modify] at member
  split at member
  · rcases (WindowRule.mem_insort start other _).mp member with rfl | listed
    · exact fits
    · exact sound.fits key other listed
  · exact sound.fits otherKey other member

/-- A window held that is replaced. -/
theorem Sound.set (sound : rule.Sound held) {key : String}
    (present : (held.states.get? (key, start)).isSome) (window : WindowState σ) :
    rule.Sound { held with states := held.states.set (key, start) window } := by
  refine ⟨⟨sound.coherent.sorted, ?_⟩, sound.fits⟩
  intro otherKey other
  rw [WindowRule.get?_set_window]
  split
  · rename_i same
    rw [same.1, same.2, Option.isSome_some]
    exact iff_of_true ((sound.coherent.retained key start).mpr present) rfl
  · exact sound.coherent.retained otherKey other

/-- A window with the event in it. -/
def taken (given : Observation κ) (window : WindowState σ) (combined : σ) : WindowState σ :=
  { window with
    state := combined
    eventCount := window.eventCount + 1
    lastContributingTraceId := given.traceId }

theorem fits_end (fits : rule.closing.Fits start) :
    ∃ windowEnd, start.add rule.aggregator.spec.size = .ok windowEnd ∧
      ∃ sealing, windowEnd.add rule.aggregator.lateness = .ok sealing := fits.end

/-- What the event emits from a window that has taken it. -/
def repairOf (rule : FallibleRule σ κ ρ) (given : Observation κ) (start windowEnd : Instant)
    (window : WindowState σ) : List (WindowEmission ρ) :=
  if given.classification = .lateTolerated ∧ window.hasEmitted then
    [rule.closing.emission given.partitionKey start windowEnd window true]
  else []

/-- A window held or opened takes the contribution or refuses it; opened, it stays opened. -/
theorem apply_of_open {windowEnd : Instant} {window : WindowState σ} {between : State σ}
    (added : start.add rule.aggregator.spec.size = .ok windowEnd)
    (opening : rule.aggregator.openWindow given.partitionKey start windowEnd given.watermark held =
      (.ok (some window), between)) :
    rule.aggregator.applyToWindow given start held =
      match rule.combine window.state given.contribution with
      | .error reason => (.error reason, between)
      | .ok combined => (.ok (rule.repairOf given start windowEnd (taken given window combined)),
          { between with
            states := between.states.set (given.partitionKey, start) (taken given window combined) }) := by
  rw [applyToWindow, Call.bind_lift_of_ok added,
    Call.bind_of_ok opening]
  simp only [aggregator, Call.bind_apply, Call.lift_apply]
  rcases rule.combine window.state given.contribution with reason | combined
  · rfl
  · simp only [Call.write_apply]
    split
    · rename_i repaired
      rw [repairOf, if_pos (by exact repaired)]
      rfl
    · rename_i quiet
      rw [repairOf, if_neg (by exact quiet)]
      rfl

theorem open_of_held {windowEnd : Instant} {window : WindowState σ}
    (found : held.states.get? (given.partitionKey, start) = some window) :
    rule.aggregator.openWindow given.partitionKey start windowEnd given.watermark held =
      (.ok (some window), held) := by
  rw [openWindow, Call.bind_of_ok (Call.read_apply _ _), found]
  rfl

variable (rule) in
theorem open_of_absent {windowEnd sealing : Instant}
    (absent : held.states.get? (given.partitionKey, start) = none)
    (horizon : windowEnd.add rule.aggregator.lateness = .ok sealing) :
    rule.aggregator.openWindow given.partitionKey start windowEnd given.watermark held =
      if sealing < given.watermark then (.ok none, held)
      else (.ok (some rule.closing.freshWindow),
        ⟨held.states.set (given.partitionKey, start) rule.closing.freshWindow,
          held.openStarts.modify given.partitionKey [] (insort start)⟩) := by
  rw [openWindow, Call.bind_of_ok (Call.read_apply _ _), absent]
  simp only [Call.bind_apply, Call.lift_apply, horizon]
  split <;> rfl

theorem apply_of_skips (skips : rule.Skips given held start) :
    rule.aggregator.applyToWindow given start held = (.ok [], held) := by
  obtain ⟨absent, fits, seals⟩ := skips
  obtain ⟨windowEnd, added, sealing, horizon⟩ := fits_end fits
  have past : sealing < given.watermark := by
    rw [Instant.lt_def, Instant.add_eq_ok.mp horizon, Instant.add_eq_ok.mp added]
    exact seals
  have opening := open_of_absent rule absent horizon
  rw [if_pos past] at opening
  rw [applyToWindow, Call.bind_lift_of_ok added,
    Call.bind_of_ok opening]
  rfl

theorem apply_of_refuses (sound : rule.Sound held) (refuses : rule.Refuses given held start) :
    ∃ reason, rule.aggregator.applyToWindow given start held = (.error reason, held) := by
  rw [Refuses] at refuses
  rcases found : held.states.get? (given.partitionKey, start) with _ | window
  · rw [found] at refuses
    rcases added : start.add rule.aggregator.spec.size with reason | windowEnd
    · exact ⟨reason, by rw [applyToWindow, Call.bind_lift_of_error added]⟩
    rcases horizon : windowEnd.add rule.aggregator.lateness with reason | sealing
    · refine ⟨reason, ?_⟩
      rw [applyToWindow, Call.bind_lift_of_ok added]
      apply Call.bind_of_error
      rw [openWindow, Call.bind_of_ok (Call.read_apply _ _), found]
      simp only [Call.bind_apply, Call.lift_apply, horizon]
    · refine absurd ?_ refuses
      have sum := Instant.add_eq_ok.mp horizon
      rw [Instant.add_eq_ok.mp added] at sum
      have within := sealing.le_max
      rw [sum] at within
      exact within
  · rw [found] at refuses
    obtain ⟨reason, rejects⟩ := refuses
    obtain ⟨windowEnd, added, _⟩ := fits_end (sound.fits_held found)
    refine ⟨reason, ?_⟩
    rw [apply_of_open added (open_of_held found), rejects]

/-- The event applied to one window that has taken it. -/
structure Takes (rule : FallibleRule σ κ ρ) (given : Observation κ) (held : State σ)
    (start : Instant) (emissions : List (WindowEmission ρ)) (after : State σ) : Prop where
  sound : rule.Sound after
  states : ∃ combined, ∀ key other, after.states.get? (key, other) =
    if key = given.partitionKey ∧ other = start then
      some (taken given (rule.closing.windowFor held given.partitionKey start) combined)
    else held.states.get? (key, other)
  counted : ∀ emission ∈ emissions, emission.eventCount ≠ 0

theorem counted_repairOf (windowEnd : Instant) (window : WindowState σ) (combined : σ) :
    ∀ emission ∈ rule.repairOf given start windowEnd (taken given window combined),
      emission.eventCount ≠ 0 := by
  intro emission member
  rw [repairOf] at member
  split at member
  · rw [List.mem_singleton.mp member]
    exact Nat.succ_ne_zero _
  · cases member

theorem apply_of_accepts (sound : rule.Sound held) (accepts : rule.Accepts given held start) :
    ∃ emissions after, rule.aggregator.applyToWindow given start held = (.ok emissions, after) ∧
      rule.Takes given held start emissions after := by
  obtain ⟨room, combined, takes⟩ := accepts
  rcases found : held.states.get? (given.partitionKey, start) with _ | window
  · obtain ⟨fits, unsealed⟩ := room found
    obtain ⟨windowEnd, added, sealing, horizon⟩ := fits_end fits
    have notPast : ¬ sealing < given.watermark := by
      rw [Instant.lt_def, Instant.add_eq_ok.mp horizon, Instant.add_eq_ok.mp added]
      exact unsealed
    have opening := open_of_absent rule found horizon
    rw [if_neg notPast] at opening
    have isFresh : rule.closing.windowFor held given.partitionKey start =
        rule.closing.freshWindow := by
      rw [WindowRule.windowFor, found, Option.getD_none]
    rw [isFresh] at takes
    refine ⟨_, _, by rw [apply_of_open added opening, takes], ?_, ⟨combined, ?_⟩,
      counted_repairOf _ _ _⟩
    · refine (sound.opened found fits _).set ?_ _
      rw [OrderedDict.get?_set_self, Option.isSome_some]
    · intro key other
      simp only [WindowRule.get?_set_window, isFresh]
      split <;> simp_all only
  · obtain ⟨windowEnd, added, _⟩ := fits_end (sound.fits_held found)
    have isHeld : rule.closing.windowFor held given.partitionKey start = window := by
      rw [WindowRule.windowFor, found, Option.getD_some]
    rw [isHeld] at takes
    refine ⟨_, _, by rw [apply_of_open added (open_of_held found), takes], ?_, ⟨combined, ?_⟩,
      counted_repairOf _ _ _⟩
    · exact sound.set (by rw [found, Option.isSome_some]) _
    · intro key other
      rw [WindowRule.get?_set_window, isHeld]

/-- A window that is opened and then refuses stays behind, without an event. -/
theorem apply_otherwise (sound : rule.Sound held) (skips : ¬ rule.Skips given held start)
    (accepts : ¬ rule.Accepts given held start) (refuses : ¬ rule.Refuses given held start) :
    ∃ reason after, rule.aggregator.applyToWindow given start held = (.error reason, after) ∧
      rule.Sound after ∧ held.states.get? (given.partitionKey, start) = none ∧
      after.states.get? (given.partitionKey, start) = some rule.closing.freshWindow := by
  rw [Refuses] at refuses
  rcases found : held.states.get? (given.partitionKey, start) with _ | window
  · rw [found] at refuses
    have fits := not_not.mp refuses
    have unsealed : ¬ rule.closing.Seals given.watermark start :=
      fun seals => skips ⟨found, fits, seals⟩
    obtain ⟨windowEnd, added, sealing, horizon⟩ := fits_end fits
    have notPast : ¬ sealing < given.watermark := by
      rw [Instant.lt_def, Instant.add_eq_ok.mp horizon, Instant.add_eq_ok.mp added]
      exact unsealed
    have opening := open_of_absent rule found horizon
    rw [if_neg notPast] at opening
    rcases outcome : rule.combine rule.closing.freshWindow.state given.contribution with
      reason | combined
    · refine ⟨reason, _, by rw [apply_of_open added opening, outcome], sound.opened found fits _,
        rfl, OrderedDict.get?_set_self ..⟩
    · refine absurd ⟨fun _ => ⟨fits, unsealed⟩, combined, ?_⟩ accepts
      rw [WindowRule.windowFor, found, Option.getD_none, outcome]
  · rw [found] at refuses
    rcases outcome : rule.combine window.state given.contribution with reason | combined
    · exact absurd ⟨reason, outcome⟩ refuses
    · refine absurd ⟨?_, combined, ?_⟩ accepts
      · rw [found]
        exact fun absent => by cases absent
      · rw [WindowRule.windowFor, found, Option.getD_some, outcome]

/-- The four ways one window can go. -/
theorem apply_cases (sound : rule.Sound held) (given : Observation κ) (start : Instant) :
    rule.Skips given held start ∨ rule.Accepts given held start ∨ rule.Refuses given held start ∨
      ∃ reason after, rule.aggregator.applyToWindow given start held = (.error reason, after) ∧
        rule.Sound after ∧ held.states.get? (given.partitionKey, start) = none ∧
        after.states.get? (given.partitionKey, start) = some rule.closing.freshWindow := by
  by_cases skips : rule.Skips given held start
  · exact Or.inl skips
  by_cases accepts : rule.Accepts given held start
  · exact Or.inr (Or.inl accepts)
  by_cases refuses : rule.Refuses given held start
  · exact Or.inr (Or.inr (Or.inl refuses))
  · exact Or.inr (Or.inr (Or.inr (apply_otherwise sound skips accepts refuses)))

theorem applyToWindow_sound (given : Observation κ) (start : Instant) :
    Call.Keeps rule.Sound (rule.aggregator.applyToWindow given start) := by
  intro held sound
  rcases apply_cases sound given start with skips | accepts | refuses | ⟨_, _, failed, kept, _⟩
  · rw [apply_of_skips skips]
    exact sound
  · obtain ⟨_, _, returned, takes⟩ := apply_of_accepts sound accepts
    rw [returned]
    exact takes.sound
  · obtain ⟨_, failed⟩ := apply_of_refuses sound refuses
    rw [failed]
    exact sound
  · rw [failed]
    exact kept

end Window

end FallibleRule

end SignalForge
