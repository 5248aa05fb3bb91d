import Mathlib.Data.Finset.Card
import SignalForge.Windowing

/-! The emissions a run of an aggregator hands to the detectors. -/

set_option autoImplicit false

namespace SignalForge

/-- `DistinctCountAggregation(key, name)`. -/
def distinctCount {κ η : Type} [DecidableEq η] (key : κ → Except Raised η) (name : String) :
    Aggregation (Finset η) κ Nat where
  name := name
  initial := ∅
  combine seen contribution := do
    let value ← key contribution
    pure (insert value seen)
  finalise seen := .ok seen.card

namespace WindowAggregator

variable {σ κ ρ : Type}

/-- The bounds of the window are in UTC. -/
def InUtc (emission : WindowEmission ρ) : Prop :=
  ∃ windowStart windowEnd, emission.windowStart = .utc windowStart ∧
    emission.windowEnd = .utc windowEnd

/-- Every emission is of a window with bounds in UTC. -/
def AllInUtc (emissions : List (WindowEmission ρ)) : Prop := ∀ emission ∈ emissions, InUtc emission

theorem AllInUtc.append {first second : List (WindowEmission ρ)} (here : AllInUtc first)
    (later : AllInUtc second) : AllInUtc (first ++ second) := by
  intro emission member
  rcases List.mem_append.mp member with earlier | after
  · exact here emission earlier
  · exact later emission after

theorem allInUtc_nil : AllInUtc ([] : List (WindowEmission ρ)) := fun _ member => by cases member

theorem allInUtc_singleton {emission : WindowEmission ρ} (inUtc : InUtc emission) :
    AllInUtc [emission] := by
  intro other member
  rwa [List.mem_singleton.mp member]

variable (aggregator : WindowAggregator σ κ ρ)

theorem emit_inUtc (partitionKey : String) (windowStart windowEnd : Instant)
    (window : WindowState σ) (isRepair : Bool) :
    (aggregator.emit partitionKey windowStart windowEnd window isRepair).Yields InUtc :=
  Call.Yields.after _ fun _ => Call.yields_pure ⟨windowStart, windowEnd, rfl, rfl⟩

theorem applyToWindow_inUtc (given : Observation κ) (windowStart : Instant) :
    (aggregator.applyToWindow given windowStart).Yields AllInUtc := by
  refine Call.Yields.after _ fun windowEnd => Call.Yields.after _ fun opened => ?_
  cases opened with
  | none => exact Call.yields_pure allInUtc_nil
  | some window =>
      refine Call.Yields.after _ fun combined => Call.Yields.after _ fun _ => ?_
      split
      · exact (aggregator.emit_inUtc _ _ _ _ _).bind fun _ inUtc =>
          Call.yields_pure (allInUtc_singleton inUtc)
      · exact Call.yields_pure allInUtc_nil

theorem applyToWindows_inUtc (given : Observation κ) (starts : List Instant) :
    (aggregator.applyToWindows given starts).Yields AllInUtc := by
  induction starts with
  | nil => exact Call.yields_pure allInUtc_nil
  | cons windowStart rest ih =>
      exact (aggregator.applyToWindow_inUtc given windowStart).bind fun _ here =>
        ih.bind fun _ later => Call.yields_pure (here.append later)

theorem emitClosure_inUtc (partitionKey : String) (watermark windowStart windowEnd : Instant)
    (window : WindowState σ) :
    (aggregator.emitClosure partitionKey watermark windowStart windowEnd window).Yields AllInUtc := by
  rw [emitClosure]
  split
  · exact (aggregator.emit_inUtc _ _ _ _ _).bind fun _ inUtc => Call.Yields.after _ fun _ =>
      Call.yields_pure (allInUtc_singleton inUtc)
  · exact Call.yields_pure allInUtc_nil

theorem closeWindow_inUtc (partitionKey : String) (watermark windowStart : Instant) :
    (aggregator.closeWindow partitionKey watermark windowStart).Yields
      fun closed => AllInUtc closed.1 := by
  refine Call.Yields.after _ fun windowEnd => Call.Yields.after _ fun held => ?_
  cases held with
  | none => exact Call.yields_raise _
  | some window =>
      refine (aggregator.emitClosure_inUtc _ _ _ _ _).bind fun emissions inUtc =>
        Call.Yields.after _ fun sealing => ?_
      split
      · exact Call.Yields.after _ fun _ => Call.yields_pure inUtc
      · exact Call.yields_pure inUtc

theorem closeWindows_inUtc (partitionKey : String) (watermark : Instant) (starts : List Instant) :
    (aggregator.closeWindows partitionKey watermark starts).Yields
      fun closed => AllInUtc closed.1 := by
  induction starts with
  | nil => exact Call.yields_pure allInUtc_nil
  | cons windowStart rest ih =>
      exact (aggregator.closeWindow_inUtc partitionKey watermark windowStart).bind fun _ here =>
        ih.bind fun _ later => Call.yields_pure (here.append later)

theorem closeEligibleWindows_inUtc (partitionKey : String) (watermark : Instant) :
    (aggregator.closeEligibleWindows partitionKey watermark).Yields AllInUtc := by
  refine Call.Yields.after _ fun openStarts => ?_
  split
  · exact Call.yields_pure allInUtc_nil
  · exact (aggregator.closeWindows_inUtc _ _ _).bind fun _ inUtc => Call.Yields.after _ fun _ =>
      Call.yields_pure inUtc

theorem observe_inUtc (given : Observation κ) : (aggregator.observe given).Yields AllInUtc := by
  rw [observe]
  split
  · exact Call.yields_raise _
  · split
    · exact aggregator.closeEligibleWindows_inUtc _ _
    · refine Call.Yields.after _ fun starts => (aggregator.applyToWindows_inUtc given starts).bind
        fun repairs here => (aggregator.closeEligibleWindows_inUtc _ _).bind fun closures later =>
          Call.yields_pure fun emission member => ?_
      exact here.append later emission ((List.perm_insertionSort _ _).mem_iff.mp member)

end WindowAggregator

namespace Windowing

variable {σ κ ρ : Type}

/-- The emissions of events in turn; an event whose call raises returns none. -/
def emissionsFrom (aggregator : WindowAggregator σ κ ρ) :
    List (StreamEvent κ) → Windowing σ → List (WindowEmission ρ)
  | [], _ => []
  | event :: rest, system =>
      let emissions := match (observe aggregator event system).1 with
        | .ok outcome => outcome.emissions
        | .error _ => []
      emissions ++ emissionsFrom aggregator rest (observe aggregator event system).2

/-- All emissions of a run. -/
def produced (aggregator : WindowAggregator σ κ ρ) (events : List (StreamEvent κ)) :
    List (WindowEmission ρ) :=
  emissionsFrom aggregator events (fresh aggregator)

open WindowAggregator (AllInUtc)

theorem observe_inUtc (aggregator : WindowAggregator σ κ ρ) (event : StreamEvent κ) :
    (observe aggregator event).Yields fun outcome => AllInUtc outcome.emissions := by
  refine Call.Yields.after _ fun observed => ?_
  have zoomed : (Call.zoom Windowing.held (fun system held => { system with held })
      (aggregator.observe (observation event observed))).Yields AllInUtc := by
    intro system emissions after returned
    obtain ⟨held, inner, _⟩ := Call.zoom_eq_ok.mp returned
    exact aggregator.observe_inUtc _ _ _ _ inner
  exact zoomed.bind fun _ inUtc => Call.yields_pure inUtc

theorem emissionsFrom_inUtc (aggregator : WindowAggregator σ κ ρ) (events : List (StreamEvent κ))
    (system : Windowing σ) : AllInUtc (emissionsFrom aggregator events system) := by
  induction events generalizing system with
  | nil => exact WindowAggregator.allInUtc_nil
  | cons event rest ih =>
      rw [emissionsFrom]
      refine WindowAggregator.AllInUtc.append ?_ (ih _)
      rcases observed : observe aggregator event system with ⟨reason | outcome, after⟩
      · exact WindowAggregator.allInUtc_nil
      · exact observe_inUtc aggregator event system outcome after observed

theorem produced_inUtc (aggregator : WindowAggregator σ κ ρ) (events : List (StreamEvent κ)) :
    AllInUtc (produced aggregator events) := emissionsFrom_inUtc aggregator events _

end Windowing

end SignalForge
