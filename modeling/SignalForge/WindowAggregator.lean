import Mathlib.Data.List.Sort
import SignalForge.Binary64
import SignalForge.Call
import SignalForge.StreamRecords

/-! The event-time window aggregator with late-event repair. Aggregation states,
contributions and results are of any type. -/

set_option autoImplicit false

namespace SignalForge

structure WindowSpec where
  sizeSeconds : Nat
  slideSeconds : Nat
  size_pos : 0 < sizeSeconds
  slide_pos : 0 < slideSeconds
  slide_dvd : slideSeconds ∣ sizeSeconds
  deriving DecidableEq

namespace WindowSpec

def make (sizeSeconds slideSeconds : Int) : Except Raised WindowSpec :=
  if size_pos : sizeSeconds ≤ 0 then .error (.valueError "size_seconds must be > 0")
  else if slide_pos : slideSeconds ≤ 0 then .error (.valueError "slide_seconds must be > 0")
  else if slideSeconds > sizeSeconds then .error (.valueError
    "slide_seconds must be <= size_seconds (gapped windows not permitted)")
  else if slide_dvd : sizeSeconds % slideSeconds ≠ 0 then .error (.valueError
    "size_seconds must be an integer multiple of slide_seconds")
  else .ok {
    sizeSeconds := sizeSeconds.toNat
    slideSeconds := slideSeconds.toNat
    size_pos := by omega
    slide_pos := by omega
    slide_dvd := by
      have divides := Int.dvd_of_emod_eq_zero (not_not.mp slide_dvd)
      rw [← Int.natCast_dvd_natCast]
      rwa [Int.toNat_of_nonneg (by omega), Int.toNat_of_nonneg (by omega)] }

/-- Tumbling windows of a minute. -/
def perMinute : WindowSpec := ⟨60, 60, by decide, by decide, by decide⟩

def perSecond : WindowSpec := ⟨1, 1, by decide, by decide, by decide⟩

/-- The window size in microseconds. -/
def size (spec : WindowSpec) : Int := spec.sizeSeconds * microsPerSecond

/-- The slide in microseconds. -/
def slide (spec : WindowSpec) : Int := spec.slideSeconds * microsPerSecond

end WindowSpec

structure Aggregation (σ κ ρ : Type) where
  name : String
  initial : σ
  combine : σ → κ → Except Raised σ
  finalise : σ → Except Raised ρ

structure WindowState (σ : Type) where
  state : σ
  eventCount : Nat
  hasEmitted : Bool
  lastContributingTraceId : Option String
  deriving DecidableEq

structure WindowAggregator (σ κ ρ : Type) where
  spec : WindowSpec
  aggregation : Aggregation σ κ ρ
  latenessSeconds : Nat

namespace WindowAggregator

/-- Per-window state, and each key's retained window starts in ascending order. -/
structure State (σ : Type) where
  states : OrderedDict (String × Instant) (WindowState σ) := .empty
  openStarts : OrderedDict String (List Instant) := .empty

variable {σ κ ρ : Type}

def make (spec : WindowSpec) (aggregation : Aggregation σ κ ρ) (latenessToleranceSeconds : Int) :
    Except Raised (WindowAggregator σ κ ρ) :=
  if latenessToleranceSeconds < 0 then
    .error (.valueError "lateness_tolerance_seconds must be >= 0")
  else .ok ⟨spec, aggregation, latenessToleranceSeconds.toNat⟩

/-- The sealing horizon past a window's end, in microseconds. -/
def lateness (aggregator : WindowAggregator σ κ ρ) : Int :=
  aggregator.latenessSeconds * microsPerSecond

/-- `math.floor(offset_seconds / slide) * slide`. Both divisions are of floats, so each
rounds: the timestamp's seconds first, then their quotient. -/
def newestStartSeconds (spec : WindowSpec) (eventTimestamp : Instant) : Int :=
  let offsetSeconds := Binary64.round (eventTimestamp.micros / microsPerSecond)
  ⌊Binary64.round (offsetSeconds / spec.slideSeconds)⌋ * spec.slideSeconds

/-- The start stepped back `k` slides, where its window contains the timestamp. -/
def containingStart (spec : WindowSpec) (eventTimestamp : Instant) (newest : Int) (k : Nat) :
    Except Raised (List Instant) := do
  let start ← Instant.epoch.add ((newest - k * spec.slideSeconds) * microsPerSecond)
  if start ≤ eventTimestamp then
    let windowEnd ← start.add spec.size
    pure (if eventTimestamp < windowEnd then [start] else [])
  else pure []

def containingStarts (spec : WindowSpec) (eventTimestamp : Instant) (newest : Int) :
    List Nat → Except Raised (List Instant)
  | [] => pure []
  | k :: rest => do
      let here ← containingStart spec eventTimestamp newest k
      let later ← containingStarts spec eventTimestamp newest rest
      pure (here ++ later)

def windowsContaining (spec : WindowSpec) (eventTimestamp : Instant) :
    Except Raised (List Instant) := do
  let starts ← containingStarts spec eventTimestamp (newestStartSeconds spec eventTimestamp)
    (List.range (spec.sizeSeconds / spec.slideSeconds))
  pure (starts.insertionSort (· ≤ ·))

/-- `bisect.insort` into a sorted list: after the elements equal to the new one. -/
def insort (start : Instant) : List Instant → List Instant
  | [] => [start]
  | other :: rest => if start < other then start :: other :: rest else other :: insort start rest

def freshWindow (aggregator : WindowAggregator σ κ ρ) : WindowState σ where
  state := aggregator.aggregation.initial
  eventCount := 0
  hasEmitted := false
  lastContributingTraceId := none

def emit (aggregator : WindowAggregator σ κ ρ) (partitionKey : String)
    (windowStart windowEnd : Instant) (window : WindowState σ) (isRepair : Bool) :
    Call Raised (State σ) (WindowEmission ρ) := do
  let value ← Call.lift (aggregator.aggregation.finalise window.state)
  pure {
    partitionKey := partitionKey
    aggregationName := aggregator.aggregation.name
    windowStart := .utc windowStart
    windowEnd := .utc windowEnd
    value := value
    eventCount := window.eventCount
    isRepair := isRepair
    lastContributingTraceId := window.lastContributingTraceId }

/-- The window's state, opened where there is none; `none` where it is already sealed. -/
def openWindow (aggregator : WindowAggregator σ κ ρ) (partitionKey : String)
    (windowStart windowEnd watermark : Instant) :
    Call Raised (State σ) (Option (WindowState σ)) := do
  let existing ← Call.read fun held => held.states.get? (partitionKey, windowStart)
  match existing with
  | some window => pure (some window)
  | none =>
      let sealing ← Call.lift (windowEnd.add aggregator.lateness)
      if sealing < watermark then pure none
      else
        Call.write fun held => {
          states := held.states.set (partitionKey, windowStart) aggregator.freshWindow
          openStarts := held.openStarts.modify partitionKey [] (insort windowStart) }
        pure (some aggregator.freshWindow)

/-- What every call to `observe` is given. -/
structure Observation (κ : Type) where
  partitionKey : String
  eventTimestamp : Instant
  contribution : κ
  classification : EventClassification
  watermark : Instant
  traceId : Option String

/-- One turn of the loop over the windows the event belongs to. -/
def applyToWindow (aggregator : WindowAggregator σ κ ρ) (given : Observation κ)
    (windowStart : Instant) : Call Raised (State σ) (List (WindowEmission ρ)) := do
  let windowEnd ← Call.lift (windowStart.add aggregator.spec.size)
  let opened ← aggregator.openWindow given.partitionKey windowStart windowEnd given.watermark
  match opened with
  | none => pure []
  | some window =>
      let combined ← Call.lift (aggregator.aggregation.combine window.state given.contribution)
      let updated := { window with
        state := combined
        eventCount := window.eventCount + 1
        lastContributingTraceId := given.traceId }
      Call.write fun held => { held with
        states := held.states.set (given.partitionKey, windowStart) updated }
      if given.classification = .lateTolerated ∧ updated.hasEmitted then
        let repair ← aggregator.emit given.partitionKey windowStart windowEnd updated true
        pure [repair]
      else pure []

def applyToWindows (aggregator : WindowAggregator σ κ ρ) (given : Observation κ) :
    List Instant → Call Raised (State σ) (List (WindowEmission ρ))
  | [] => pure []
  | windowStart :: rest => do
      let here ← aggregator.applyToWindow given windowStart
      let later ← aggregator.applyToWindows given rest
      pure (here ++ later)

/-- The first-time closure of a window whose end the watermark has reached. -/
def emitClosure (aggregator : WindowAggregator σ κ ρ) (partitionKey : String)
    (watermark windowStart windowEnd : Instant) (window : WindowState σ) :
    Call Raised (State σ) (List (WindowEmission ρ)) :=
  if window.hasEmitted = false ∧ windowEnd ≤ watermark then do
    let closure ← aggregator.emit partitionKey windowStart windowEnd window false
    Call.write fun held => { held with
      states := held.states.set (partitionKey, windowStart) { window with hasEmitted := true } }
    pure [closure]
  else pure []

/-- One turn of the closing loop: what the window emits, and its start where it is kept. -/
def closeWindow (aggregator : WindowAggregator σ κ ρ) (partitionKey : String)
    (watermark windowStart : Instant) :
    Call Raised (State σ) (List (WindowEmission ρ) × List Instant) := do
  let windowEnd ← Call.lift (windowStart.add aggregator.spec.size)
  let held ← Call.read fun held => held.states.get? (partitionKey, windowStart)
  match held with
  | none => Call.raise .keyError
  | some window =>
      let emissions ← aggregator.emitClosure partitionKey watermark windowStart windowEnd window
      let sealing ← Call.lift (windowEnd.add aggregator.lateness)
      if sealing < watermark then
        Call.write fun held => { held with
          states := held.states.erase (partitionKey, windowStart) }
        pure (emissions, [])
      else pure (emissions, [windowStart])

def closeWindows (aggregator : WindowAggregator σ κ ρ) (partitionKey : String)
    (watermark : Instant) :
    List Instant → Call Raised (State σ) (List (WindowEmission ρ) × List Instant)
  | [] => pure ([], [])
  | windowStart :: rest => do
      let here ← aggregator.closeWindow partitionKey watermark windowStart
      let later ← aggregator.closeWindows partitionKey watermark rest
      pure (here.1 ++ later.1, here.2 ++ later.2)

/-- The starts retained for a key. -/
def startsFor (held : State σ) (partitionKey : String) : List Instant :=
  (held.openStarts.get? partitionKey).getD []

/-- What closing a key puts back of its starts. -/
theorem startsFor_put (held : State σ) (key other : String) (kept : List Instant) :
    startsFor { held with
      openStarts :=
        if kept = [] then held.openStarts.erase key else held.openStarts.set key kept } other =
      if other = key then kept else startsFor held other := by
  simp only [startsFor]
  by_cases sameKey : other = key
  · rw [if_pos sameKey, sameKey]
    split
    · rename_i none
      rw [OrderedDict.get?_erase_self, Option.getD_none, none]
    · rw [OrderedDict.get?_set_self, Option.getD_some]
  · rw [if_neg sameKey]
    split
    · rw [OrderedDict.get?_erase_of_ne _ sameKey]
    · rw [OrderedDict.get?_set_of_ne _ _ sameKey]

def closeEligibleWindows (aggregator : WindowAggregator σ κ ρ) (partitionKey : String)
    (watermark : Instant) : Call Raised (State σ) (List (WindowEmission ρ)) := do
  let openStarts ← Call.read fun held => startsFor held partitionKey
  if openStarts = [] then pure []
  else
    let closed ← aggregator.closeWindows partitionKey watermark openStarts
    Call.write fun held => { held with
      openStarts :=
        if closed.2 = [] then held.openStarts.erase partitionKey
        else held.openStarts.set partitionKey closed.2 }
    pure closed.1

/-- The sort key `(window_start, is_repair)`. -/
def emissionLe (left right : WindowEmission ρ) : Prop :=
  left.windowStart.micros < right.windowStart.micros ∨
    left.windowStart.micros = right.windowStart.micros ∧
      (left.isRepair = true → right.isRepair = true)

instance (left right : WindowEmission ρ) : Decidable (emissionLe left right) :=
  inferInstanceAs (Decidable (_ ∨ _))

def observe (aggregator : WindowAggregator σ κ ρ) (given : Observation κ) :
    Call Raised (State σ) (List (WindowEmission ρ)) :=
  if given.partitionKey = "" then Call.raise (.valueError "partition_key must be non-empty")
  else if given.classification = .lateDropped then
    -- a dropped event still lets the watermark close windows
    aggregator.closeEligibleWindows given.partitionKey given.watermark
  else do
    let starts ← Call.lift (windowsContaining aggregator.spec given.eventTimestamp)
    let repairs ← aggregator.applyToWindows given starts
    let closures ← aggregator.closeEligibleWindows given.partitionKey given.watermark
    pure ((repairs ++ closures).insertionSort emissionLe)

def openWindowCount (held : State σ) (partitionKey : String) : Nat :=
  (startsFor held partitionKey).length

end WindowAggregator

end SignalForge
