import Mathlib.Data.List.Induction
import SignalForge.WatermarkManager
import SignalForge.WindowSteps

/-! A watermark manager feeding a window aggregator of the same lateness: what each step of
a run emits, told by the events it has been given. -/

set_option autoImplicit false

namespace SignalForge

structure StreamEvent (κ : Type) where
  key : String
  timestamp : Instant
  contribution : κ
  traceId : Option String

structure Windowing (σ : Type) where
  manager : WatermarkManager Instant
  held : WindowAggregator.State σ

/-- One step of a run: what the aggregator was given and what it returned. -/
structure Outcome (κ ρ : Type) where
  given : WindowAggregator.Observation κ
  emissions : List (WindowEmission ρ)

namespace Windowing

open WindowAggregator

variable {σ κ ρ : Type}

def fresh (aggregator : WindowAggregator σ κ ρ) : Windowing σ :=
  ⟨⟨aggregator.latenessSeconds, .empty⟩, {}⟩

def observation (event : StreamEvent κ) (observed : WatermarkObservation Instant) : Observation κ where
  partitionKey := event.key
  eventTimestamp := event.timestamp
  contribution := event.contribution
  classification := observed.classification
  watermark := observed.watermark
  traceId := event.traceId

def observe (aggregator : WindowAggregator σ κ ρ) (event : StreamEvent κ) :
    Call Raised (Windowing σ) (Outcome κ ρ) := do
  let observed ← Call.zoom Windowing.manager (fun system manager => { system with manager })
    (WatermarkManager.observe event.key event.timestamp)
  let given := observation event observed
  let emissions ← Call.zoom Windowing.held (fun system held => { system with held })
    (aggregator.observe given)
  pure ⟨given, emissions⟩

def observeAll (aggregator : WindowAggregator σ κ ρ) :
    List (StreamEvent κ) → Call Raised (Windowing σ) (List (Outcome κ ρ))
  | [] => pure []
  | event :: rest => do
      let outcome ← observe aggregator event
      let later ← observeAll aggregator rest
      pure (outcome :: later)

end Windowing

namespace WindowRule

open WindowAggregator

variable {σ κ ρ : Type}

/-- The windows an event is assigned to. -/
def windowsOf (rule : WindowRule σ κ ρ) (timestamp : Instant) : List Instant :=
  match windowsContaining rule.spec timestamp with
  | .ok starts => starts
  | .error _ => []

/-- The event is added to the window. -/
def Adds (rule : WindowRule σ κ ρ) (key : String) (start : Instant) (given : Observation κ) :
    Prop :=
  given.partitionKey = key ∧ given.classification ≠ .lateDropped ∧
    start ∈ rule.windowsOf given.eventTimestamp

instance (rule : WindowRule σ κ ρ) (key : String) (start : Instant) (given : Observation κ) :
    Decidable (rule.Adds key start given) := inferInstanceAs (Decidable (_ ∧ _ ∧ _))

/-- A window's events in arrival order. -/
def members (rule : WindowRule σ κ ρ) (key : String) (start : Instant)
    (trace : List (Outcome κ ρ)) : List (Observation κ) :=
  (trace.map Outcome.given).filter fun given => rule.Adds key start given

/-- A key's watermark after a run. -/
def watermarkOf (key : String) (trace : List (Outcome κ ρ)) : Instant :=
  trace.foldl (fun watermark outcome =>
    if outcome.given.partitionKey = key then outcome.given.watermark else watermark) .baseline

/-- The window after its events, not marked as emitted. -/
def fold (rule : WindowRule σ κ ρ) (events : List (Observation κ)) : WindowState σ :=
  events.foldl rule.addTo rule.freshWindow

/-- The window has been emitted: it has events and the watermark has reached its end. -/
def Emitted (rule : WindowRule σ κ ρ) (key : String) (start : Instant)
    (trace : List (Outcome κ ρ)) : Prop :=
  rule.members key start trace ≠ [] ∧ rule.Closes (watermarkOf key trace) start

instance (rule : WindowRule σ κ ρ) (key : String) (start : Instant)
    (trace : List (Outcome κ ρ)) : Decidable (rule.Emitted key start trace) :=
  inferInstanceAs (Decidable (_ ∧ _))

theorem members_concat (rule : WindowRule σ κ ρ) (key : String) (start : Instant)
    (trace : List (Outcome κ ρ)) (outcome : Outcome κ ρ) :
    rule.members key start (trace ++ [outcome]) =
      if rule.Adds key start outcome.given then rule.members key start trace ++ [outcome.given]
      else rule.members key start trace := by
  rw [members, List.map_append, List.filter_append, ← members, List.map_singleton]
  split
  · rename_i adds
    rw [List.filter_cons_of_pos (by simpa using adds), List.filter_nil]
  · rename_i none
    rw [List.filter_cons_of_neg (by simpa using none), List.filter_nil, List.append_nil]

theorem watermarkOf_concat (key : String) (trace : List (Outcome κ ρ)) (outcome : Outcome κ ρ) :
    watermarkOf key (trace ++ [outcome]) =
      if outcome.given.partitionKey = key then outcome.given.watermark
      else watermarkOf key trace := by
  simp only [watermarkOf, List.foldl_append, List.foldl_cons, List.foldl_nil]

theorem fold_concat (rule : WindowRule σ κ ρ) (events : List (Observation κ))
    (given : Observation κ) :
    rule.fold (events ++ [given]) = rule.addTo (rule.fold events) given := by
  simp only [fold, List.foldl_append, List.foldl_cons, List.foldl_nil]

/-- The window as the aggregator holds it, marked where it has been emitted. -/
def marked (rule : WindowRule σ κ ρ) (events : List (Observation κ)) (emitted : Bool) :
    WindowState σ :=
  { rule.fold events with hasEmitted := emitted }

theorem addTo_marked (rule : WindowRule σ κ ρ) (events : List (Observation κ))
    (given : Observation κ) (emitted : Bool) :
    rule.addTo (rule.marked events emitted) given = rule.marked (events ++ [given]) emitted := by
  rw [marked, marked, fold_concat]
  rfl

/-- The system after a run, told by the run's trace. -/
structure Tracks (rule : WindowRule σ κ ρ) (trace : List (Outcome κ ρ)) (system : Windowing σ) :
    Prop where
  lateness : system.manager.latenessSeconds = rule.latenessSeconds
  watermark : ∀ key, system.manager.watermarkFor key = .ok (watermarkOf key trace)
  coherent : Coherent system.held
  windows : ∀ key start, system.held.states.get? (key, start) =
    if rule.members key start trace = [] ∨ rule.Seals (watermarkOf key trace) start then none
    else some (rule.marked (rule.members key start trace)
      (decide (rule.Closes (watermarkOf key trace) start)))

theorem tracks_fresh (rule : WindowRule σ κ ρ) :
    rule.Tracks [] (Windowing.fresh rule.aggregator) where
  lateness := rfl
  watermark _ := rfl
  coherent := coherent_empty
  windows _ _ := rfl

/-- What a step emits, by what came before it. A window with events emits when the
watermark reaches its end, and again with every event added after that. -/
def Emits (rule : WindowRule σ κ ρ) (before : List (Outcome κ ρ)) (outcome : Outcome κ ρ)
    (start : Instant) : Prop :=
  rule.Emitted outcome.given.partitionKey start (before ++ [outcome]) ∧
    (¬ rule.Emitted outcome.given.partitionKey start before ∨
      rule.Adds outcome.given.partitionKey start outcome.given)

instance (rule : WindowRule σ κ ρ) (before : List (Outcome κ ρ)) (outcome : Outcome κ ρ)
    (start : Instant) : Decidable (rule.Emits before outcome start) :=
  inferInstanceAs (Decidable (_ ∧ (_ ∨ _)))

structure StepMeets (rule : WindowRule σ κ ρ) (before : List (Outcome κ ρ))
    (outcome : Outcome κ ρ) : Prop where
  monotone : watermarkOf outcome.given.partitionKey before ≤ outcome.given.watermark
  ascending : outcome.emissions.Pairwise fun first second =>
    first.windowStart.micros < second.windowStart.micros
  emissions : ∀ emission, emission ∈ outcome.emissions ↔ ∃ start,
    rule.Emits before outcome start ∧
      emission = rule.emissionOf outcome.given.partitionKey start
        (rule.fold (rule.members outcome.given.partitionKey start (before ++ [outcome])))
        (decide (rule.Emitted outcome.given.partitionKey start before))

end WindowRule

end SignalForge
