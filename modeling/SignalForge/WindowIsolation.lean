import SignalForge.Aggregations
import SignalForge.Unwinding
import SignalForge.Windowing

/-! What a key's events come to in a watermark manager and a window aggregator depends on that
key's events alone. -/

set_option autoImplicit false

namespace SignalForge

/-- What a call shows of a key: its highest timestamp. -/
def WatermarkManager.keyView (key : String) (manager : WatermarkManager Instant) :
    Nat × Option Instant := (manager.latenessSeconds, manager.highEventTs.get? key)

namespace WatermarkManager

theorem watermarkFor_congr {key : String} {left right : WatermarkManager Instant}
    (same : left.keyView key = right.keyView key) :
    left.watermarkFor key = right.watermarkFor key := by
  obtain ⟨latenessSeconds, highs⟩ := left
  obtain ⟨otherSeconds, others⟩ := right
  simp only [keyView, Prod.mk.injEq] at same
  obtain ⟨rfl, sameHigh⟩ := same
  simp only [watermarkFor, highFor, sameHigh]
  rfl

theorem observe_frames {key other : String} (apart : other ≠ key) (t : Instant) :
    Call.Frames (keyView key) (observe other t) := by
  rw [observe]
  split
  · exact Call.frames_raise _
  · refine (Call.frames_read _).bind fun manager => ?_
    refine (Call.frames_lift _).bind fun previous => ?_
    refine Call.Frames.bind ?_ fun _ => (Call.frames_lift _).bind fun _ => Call.frames_pure _
    apply Call.frames_write
    intro manager
    simp only [keyView, OrderedDict.get?_set_of_ne _ _ apart.symm]

/-- A key's watermark and classifications depend on its highest timestamp alone. -/
theorem observe_factors (key : String) (t : Instant) :
    Call.Factors (keyView key) (observe key t) := by
  rw [observe]
  split
  · exact Call.factors_raise _
  · intro left right same
    obtain ⟨latenessSeconds, highs⟩ := left
    obtain ⟨otherSeconds, others⟩ := right
    simp only [keyView, Prod.mk.injEq] at same
    obtain ⟨rfl, sameHigh⟩ := same
    have high : highFor ⟨latenessSeconds, highs⟩ key = highFor ⟨latenessSeconds, others⟩ key := by
      simp only [highFor, sameHigh]
    have derive : ∀ high, deriveWatermark ⟨latenessSeconds, highs⟩ high =
        deriveWatermark ⟨latenessSeconds, others⟩ high := fun _ => rfl
    simp only [Call.bind_apply, Call.read_apply, id_eq, Call.lift_apply, Call.write_apply, high,
      derive]
    rcases deriveWatermark ⟨latenessSeconds, others⟩ (highFor ⟨latenessSeconds, others⟩ key) with
      reason | previous
    · simp only [keyView, sameHigh, and_self]
    · dsimp only
      rcases deriveWatermark ⟨latenessSeconds, others⟩ (Timestamp.later
        (highFor ⟨latenessSeconds, others⟩ key) t) with reason | watermark
      · simp only [keyView, OrderedDict.get?_set_self, and_self]
      · simp only [keyView, Call.pure_apply, OrderedDict.get?_set_self, and_true]
        rfl

/-- An observation is about its key. -/
theorem observe_owned (key : String) (t : Instant) : Call.Owned keyView key (observe key t) :=
  ⟨fun _ apart => observe_frames apart.symm t, observe_factors key t⟩

end WatermarkManager

namespace WindowAggregator

variable {σ κ ρ : Type}

/-- What the state shows of a key: its windows and its retained starts. -/
def keyView (key : String) (held : State σ) :
    (Instant → Option (WindowState σ)) × Option (List Instant) :=
  (fun start => held.states.get? (key, start), held.openStarts.get? key)

section Writes

variable {key : String} {start : Instant}

theorem set_owned (window : WindowState σ) : Call.Owned keyView key
    (Call.write fun held : State σ => { held with
      states := held.states.set (key, start) window } : Call Raised (State σ) Unit) := by
  apply Call.owned_write
  · intro other apart held
    simp only [keyView, WindowRule.get?_set_window, apart, false_and, ↓reduceIte]
  · intro left right same
    simp only [keyView, Prod.mk.injEq] at same
    simp only [keyView, WindowRule.get?_set_window, true_and, congrFun same.1, same.2]

theorem erase_owned : Call.Owned keyView key
    (Call.write fun held : State σ => { held with
      states := held.states.erase (key, start) } : Call Raised (State σ) Unit) := by
  apply Call.owned_write
  · intro other apart held
    simp only [keyView, WindowRule.get?_erase_window, apart, false_and, ↓reduceIte]
  · intro left right same
    simp only [keyView, Prod.mk.injEq] at same
    simp only [keyView, WindowRule.get?_erase_window, true_and, congrFun same.1, same.2]

theorem open_owned (window : WindowState σ) : Call.Owned keyView key
    (Call.write fun held : State σ => {
      states := held.states.set (key, start) window
      openStarts := held.openStarts.modify key [] (insort start) } :
        Call Raised (State σ) Unit) := by
  apply Call.owned_write
  · intro other apart held
    simp only [keyView, WindowRule.get?_set_window, OrderedDict.get?_modify, apart, false_and,
      ↓reduceIte]
  · intro left right same
    simp only [keyView, Prod.mk.injEq] at same
    simp only [keyView, WindowRule.get?_set_window, OrderedDict.get?_modify, true_and, ↓reduceIte,
      congrFun same.1, same.2]

theorem kept_owned (kept : List Instant) : Call.Owned keyView key
    (Call.write fun held : State σ => { held with
      openStarts :=
        if kept = [] then held.openStarts.erase key else held.openStarts.set key kept } :
        Call Raised (State σ) Unit) := by
  apply Call.owned_write
  · intro other apart held
    split
    · simp only [keyView, OrderedDict.get?_erase, apart, ↓reduceIte]
    · simp only [keyView, OrderedDict.get?_set, apart, ↓reduceIte]
  · intro left right same
    simp only [keyView, Prod.mk.injEq] at same
    split
    · simp only [keyView, OrderedDict.get?_erase_self, same.1]
    · simp only [keyView, OrderedDict.get?_set_self, same.1]

theorem window_owned : Call.Owned keyView key
    (Call.read fun held : State σ => held.states.get? (key, start) :
      Call Raised (State σ) (Option (WindowState σ))) :=
  Call.owned_read fun _ _ same => congrFun (congrArg Prod.fst same) start

theorem starts_owned : Call.Owned keyView key
    (Call.read fun held : State σ => startsFor held key : Call Raised (State σ) (List Instant)) :=
  Call.owned_read fun _ _ same => congrArg (fun starts => starts.getD []) (congrArg Prod.snd same)

end Writes

section Functions

variable (aggregator : WindowAggregator σ κ ρ)

theorem emit_owned (key partitionKey : String) (windowStart windowEnd : Instant)
    (window : WindowState σ) (isRepair : Bool) : Call.Owned keyView key
      (aggregator.emit partitionKey windowStart windowEnd window isRepair) :=
  (Call.owned_lift _).bind fun _ => Call.owned_pure _

theorem openWindow_owned (key : String) (windowStart windowEnd watermark : Instant) :
    Call.Owned keyView key (aggregator.openWindow key windowStart windowEnd watermark) := by
  refine window_owned.bind fun existing => ?_
  cases existing with
  | some window => exact Call.owned_pure _
  | none =>
      refine (Call.owned_lift _).bind fun sealing => ?_
      split
      · exact Call.owned_pure _
      · exact (open_owned _).bind fun _ => Call.owned_pure _

theorem applyToWindow_owned (given : Observation κ) (windowStart : Instant) :
    Call.Owned keyView given.partitionKey (aggregator.applyToWindow given windowStart) := by
  refine (Call.owned_lift _).bind fun windowEnd => ?_
  refine (openWindow_owned aggregator ..).bind fun opened => ?_
  cases opened with
  | none => exact Call.owned_pure _
  | some window =>
      refine (Call.owned_lift _).bind fun combined => (set_owned _).bind fun _ => ?_
      split
      · exact (emit_owned aggregator ..).bind fun _ => Call.owned_pure _
      · exact Call.owned_pure _

theorem applyToWindows_owned (given : Observation κ) (starts : List Instant) :
    Call.Owned keyView given.partitionKey (aggregator.applyToWindows given starts) := by
  induction starts with
  | nil => exact Call.owned_pure _
  | cons windowStart rest ih =>
      exact (applyToWindow_owned aggregator given windowStart).bind fun _ =>
        ih.bind fun _ => Call.owned_pure _

theorem emitClosure_owned (key : String) (watermark windowStart windowEnd : Instant)
    (window : WindowState σ) : Call.Owned keyView key
      (aggregator.emitClosure key watermark windowStart windowEnd window) := by
  rw [emitClosure]
  split
  · exact (emit_owned aggregator ..).bind fun _ => (set_owned _).bind fun _ => Call.owned_pure _
  · exact Call.owned_pure _

theorem closeWindow_owned (key : String) (watermark windowStart : Instant) :
    Call.Owned keyView key (aggregator.closeWindow key watermark windowStart) := by
  refine (Call.owned_lift _).bind fun windowEnd => window_owned.bind fun held => ?_
  cases held with
  | none => exact Call.owned_raise _
  | some window =>
      refine (emitClosure_owned aggregator ..).bind fun emissions => ?_
      refine (Call.owned_lift _).bind fun sealing => ?_
      split
      · exact erase_owned.bind fun _ => Call.owned_pure _
      · exact Call.owned_pure _

theorem closeWindows_owned (key : String) (watermark : Instant) (starts : List Instant) :
    Call.Owned keyView key (aggregator.closeWindows key watermark starts) := by
  induction starts with
  | nil => exact Call.owned_pure _
  | cons windowStart rest ih =>
      exact (closeWindow_owned aggregator key watermark windowStart).bind fun _ =>
        ih.bind fun _ => Call.owned_pure _

theorem closeEligibleWindows_owned (key : String) (watermark : Instant) :
    Call.Owned keyView key (aggregator.closeEligibleWindows key watermark) := by
  refine starts_owned.bind fun openStarts => ?_
  split
  · exact Call.owned_pure _
  · exact (closeWindows_owned aggregator key watermark openStarts).bind fun closed =>
      (kept_owned closed.2).bind fun _ => Call.owned_pure _

/-- An observation is about its partition key, whether it returns or raises. -/
theorem observe_owned (given : Observation κ) :
    Call.Owned keyView given.partitionKey (aggregator.observe given) := by
  rw [observe]
  split
  · exact Call.owned_raise _
  · split
    · exact closeEligibleWindows_owned aggregator ..
    · exact (Call.owned_lift _).bind fun starts =>
        (applyToWindows_owned aggregator given starts).bind fun repairs =>
          (closeEligibleWindows_owned aggregator ..).bind fun closures => Call.owned_pure _

end Functions

end WindowAggregator

/-- What the two components answer to an event: the manager's observation, and what the
aggregator then comes to. -/
structure StreamAnswer (ρ : Type) where
  observed : WatermarkObservation Instant
  emissions : Except Raised (List (WindowEmission ρ))

namespace Windowing

open WindowAggregator

variable {σ κ ρ : Type}

/-- The event is observed by the manager and, where that returns, by the aggregator. -/
def answer (aggregator : WindowAggregator σ κ ρ) (event : StreamEvent κ) :
    Call Raised (Windowing σ) (StreamAnswer ρ) := do
  let observed ← Call.zoom Windowing.manager (fun system manager => { system with manager })
    (WatermarkManager.observe event.key event.timestamp)
  let emissions ← Call.attempt (Call.zoom Windowing.held (fun system held => { system with held })
    (aggregator.observe (observation event observed)))
  pure ⟨observed, emissions⟩

/-- What the system shows of a key. -/
def keyView (key : String) (system : Windowing σ) :
    (Nat × Option Instant) × (Instant → Option (WindowState σ)) × Option (List Instant) :=
  (system.manager.keyView key, WindowAggregator.keyView key system.held)

theorem manager_owned {α : Type} {key : String} {call : Call Raised (WatermarkManager Instant) α}
    (owned : Call.Owned WatermarkManager.keyView key call) :
    Call.Owned keyView key (Call.zoom Windowing.manager
      (fun system manager => { system with manager } : Windowing σ → _ → Windowing σ) call) := by
  refine owned.zoom (fun _ _ => congrArg Prod.fst) ?_ fun _ => rfl
  intro other left right same after final unchanged
  have sameHeld := congrArg Prod.snd same
  exact Prod.ext unchanged sameHeld

theorem held_owned {α : Type} {key : String} {call : Call Raised (State σ) α}
    (owned : Call.Owned WindowAggregator.keyView key call) :
    Call.Owned keyView key (Call.zoom Windowing.held
      (fun system held => { system with held } : Windowing σ → _ → Windowing σ) call) := by
  refine owned.zoom (fun _ _ => congrArg Prod.snd) ?_ fun _ => rfl
  intro other left right same after final unchanged
  have sameManager := congrArg Prod.fst same
  exact Prod.ext sameManager unchanged

/-- What an event comes to is about its key. -/
theorem answer_owned (aggregator : WindowAggregator σ κ ρ) (event : StreamEvent κ) :
    Call.Owned keyView event.key (answer aggregator event) := by
  refine (manager_owned (WatermarkManager.observe_owned _ _)).bind fun observed => ?_
  refine (held_owned (observe_owned aggregator (observation event observed))).attempt.bind ?_
  exact fun emissions => Call.owned_pure _

/-- Keys are isolated: two runs with the same events of a key come to the same for each of them,
and leave it with the same watermark and the same number of open windows. -/
theorem keys_isolated (aggregator : WindowAggregator σ κ ρ) (latenessSeconds : Nat) (key : String)
    (events others : List (StreamEvent κ))
    (sameEvents : (events.filter fun event => event.key = key) =
      others.filter fun event => event.key = key) :
    let start : Windowing σ := ⟨⟨latenessSeconds, .empty⟩, {}⟩
    let one := Call.outcomes (answer aggregator) events start
    let other := Call.outcomes (answer aggregator) others start
    (one.1.filter fun outcome => outcome.1.key = key) =
        other.1.filter (fun outcome => outcome.1.key = key) ∧
      one.2.manager.watermarkFor key = other.2.manager.watermarkFor key ∧
      openWindowCount one.2.held key = openWindowCount other.2.held key := by
  intro start one other
  obtain ⟨sameOutcomes, sameView⟩ :=
    Call.outcomes_isolated (answer_owned aggregator) sameEvents start
  refine ⟨sameOutcomes, ?_, ?_⟩
  · exact WatermarkManager.watermarkFor_congr (congrArg Prod.fst sameView)
  · have starts := congrArg (fun view => view.2.2) sameView
    simp only [keyView, WindowAggregator.keyView] at starts
    simp only [openWindowCount, startsFor, one, other, starts]

/-- One store's events, as they come alone. -/
def storeAlone : List (StreamEvent Unit) :=
  [⟨"store-1", .second 10, (), none⟩, ⟨"store-1", .second 200, (), none⟩]

/-- The same store's events between those of another. -/
def storeAmongOthers : List (StreamEvent Unit) :=
  [⟨"store-2", .second 500, (), none⟩, ⟨"store-1", .second 10, (), none⟩,
    ⟨"store-2", .second 20, (), none⟩, ⟨"store-1", .second 200, (), none⟩]

theorem keys_isolated_sample :
    let aggregator : WindowAggregator Nat Unit Nat := ⟨.perMinute, countAggregation Unit, 60⟩
    let one := Call.outcomes (answer aggregator) storeAlone ⟨⟨60, .empty⟩, {}⟩
    let other := Call.outcomes (answer aggregator) storeAmongOthers ⟨⟨60, .empty⟩, {}⟩
    (one.1.filter fun outcome => outcome.1.key = "store-1") =
        other.1.filter (fun outcome => outcome.1.key = "store-1") ∧
      one.2.manager.watermarkFor "store-1" = other.2.manager.watermarkFor "store-1" ∧
      openWindowCount one.2.held "store-1" = openWindowCount other.2.held "store-1" :=
  keys_isolated ⟨.perMinute, countAggregation Unit, 60⟩ 60 "store-1" storeAlone storeAmongOthers rfl

end Windowing

end SignalForge
