import SignalForge.Call
import SignalForge.StreamRecords

/-! Per-key event-time watermarks and the classification of events against them. -/

set_option autoImplicit false

namespace SignalForge

structure WatermarkObservation (τ : Type) where
  key : String
  classification : EventClassification
  watermark : τ
  highEventTimestamp : τ
  deriving DecidableEq

structure WatermarkManager (τ : Type) where
  latenessSeconds : Nat
  /-- Highest event timestamp seen for each key. -/
  highEventTs : OrderedDict String τ

namespace WatermarkManager

section

variable {τ : Type}

def make (latenessToleranceSeconds : Int) : Except Raised (WatermarkManager τ) :=
  if latenessToleranceSeconds < 0 then
    .error (.valueError "lateness_tolerance_seconds must be >= 0")
  else .ok ⟨latenessToleranceSeconds.toNat, .empty⟩

/-- The lateness tolerance in microseconds. -/
def lateness (manager : WatermarkManager τ) : Int := manager.latenessSeconds * microsPerSecond

variable [Timestamp τ]

def deriveWatermark (manager : WatermarkManager τ) (highEventTimestamp : τ) : Except Raised τ :=
  if Timestamp.micros highEventTimestamp = Timestamp.micros (Timestamp.baseline : τ) then
    .ok Timestamp.baseline
  else Timestamp.sub highEventTimestamp manager.lateness

def classify (manager : WatermarkManager τ) (eventTimestamp previousWatermark : τ) :
    EventClassification :=
  if Timestamp.micros previousWatermark ≤ Timestamp.micros eventTimestamp then .onTime
  else
    let lateBy := Timestamp.micros previousWatermark - Timestamp.micros eventTimestamp
    if lateBy ≤ manager.lateness ∧ 0 < manager.lateness then .lateTolerated
    else .lateDropped

/-- Highest timestamp seen for a key, the baseline where there is none. -/
def highFor (manager : WatermarkManager τ) (key : String) : τ :=
  (manager.highEventTs.get? key).getD Timestamp.baseline

/-- The new high is stored before the watermark returned is derived from it. -/
def observe (key : String) (eventTimestamp : τ) :
    Call Raised (WatermarkManager τ) (WatermarkObservation τ) :=
  if key = "" then Call.raise (.valueError "key must be non-empty")
  else do
    let manager ← Call.read id
    let previousHigh := manager.highFor key
    let previousWatermark ← Call.lift (manager.deriveWatermark previousHigh)
    let classification := manager.classify eventTimestamp previousWatermark
    let newHigh := Timestamp.later previousHigh eventTimestamp
    Call.write fun manager => { manager with highEventTs := manager.highEventTs.set key newHigh }
    let watermark ← Call.lift (manager.deriveWatermark newHigh)
    pure ⟨key, classification, watermark, newHigh⟩

def watermarkFor (manager : WatermarkManager τ) (key : String) : Except Raised τ :=
  manager.deriveWatermark (manager.highFor key)

/-- `min` over the watermarks of the highs listed, the first of equals. -/
def leastWatermark (manager : WatermarkManager τ) (least : τ) : List τ → Except Raised τ
  | [] => .ok least
  | high :: rest => do
      let watermark ← manager.deriveWatermark high
      manager.leastWatermark
        (if Timestamp.micros watermark < Timestamp.micros least then watermark else least) rest

def globalWatermark (manager : WatermarkManager τ) : Except Raised τ :=
  match manager.highEventTs.values with
  | [] => .ok Timestamp.baseline
  | high :: rest => do
      let watermark ← manager.deriveWatermark high
      manager.leastWatermark watermark rest

/-- Calls of `observe` in turn, each followed by the next whether it returns or raises. -/
def observeAll (manager : WatermarkManager τ) (arrivals : List (String × τ)) : WatermarkManager τ :=
  arrivals.foldl (fun manager arrival => (observe arrival.1 arrival.2 manager).2) manager

end

theorem lateness_nonneg {τ : Type} (manager : WatermarkManager τ) : 0 ≤ manager.lateness := by
  simp only [lateness, microsPerSecond]
  omega

section

variable {τ : Type} [Timestamp τ]

/-- An observation that returns, from the watermark before it. -/
structure Observed (manager : WatermarkManager τ) (key : String) (eventTimestamp previous : τ)
    (observation : WatermarkObservation τ) (after : WatermarkManager τ) : Prop where
  nonempty : key ≠ ""
  before : manager.watermarkFor key = .ok previous
  classified : observation.classification = manager.classify eventTimestamp previous
  derived : manager.deriveWatermark (Timestamp.later (manager.highFor key) eventTimestamp) =
    .ok observation.watermark
  stored : after = ⟨manager.latenessSeconds,
    manager.highEventTs.set key (Timestamp.later (manager.highFor key) eventTimestamp)⟩

theorem observe_ok {manager after : WatermarkManager τ} {key : String} {eventTimestamp : τ}
    {observation : WatermarkObservation τ}
    (returned : observe key eventTimestamp manager = (.ok observation, after)) :
    ∃ previous, Observed manager key eventTimestamp previous observation after := by
  unfold observe at returned
  split at returned
  · cases returned
  · rename_i nonempty
    simp only [Call.bind_eq_ok, Call.read_apply, Call.lift_apply, Call.write_apply,
      Call.pure_apply, Prod.mk.injEq, Except.ok.injEq] at returned
    obtain ⟨_, _, ⟨rfl, rfl⟩, previous, _, ⟨before, rfl⟩, _, _, ⟨_, rfl⟩, _, _, ⟨derived, rfl⟩,
      rfl, rfl⟩ := returned
    exact ⟨previous, nonempty, before, rfl, derived, rfl⟩

/-- What an observation leaves behind, whether it returns or raises: the later of the high and
the timestamp, once the high before has a watermark. -/
theorem observe_leaves {manager : WatermarkManager τ} {key : String} {previous : τ}
    (named : key ≠ "") (before : manager.watermarkFor key = .ok previous) (eventTimestamp : τ) :
    (observe key eventTimestamp manager).2 = ⟨manager.latenessSeconds,
      manager.highEventTs.set key (Timestamp.later (manager.highFor key) eventTimestamp)⟩ := by
  rw [watermarkFor] at before
  rw [observe, if_neg named]
  simp only [Call.bind_apply, Call.read_apply, id_eq, Call.lift_apply, before, Call.write_apply]
  rcases manager.deriveWatermark (Timestamp.later (manager.highFor key) eventTimestamp) with _ | _ <;>
    rfl

/-- Without a watermark of the high before, nothing is written. -/
theorem observe_raises {manager : WatermarkManager τ} {key : String} {eventTimestamp : τ}
    {reason : Raised} (named : key ≠ "") (before : manager.watermarkFor key = .error reason) :
    observe key eventTimestamp manager = (.error reason, manager) := by
  rw [watermarkFor] at before
  rw [observe, if_neg named]
  simp only [Call.bind_apply, Call.read_apply, id_eq, Call.lift_apply, before]

/-- An observation needs a watermark of the high before and one of the high after. -/
theorem observe_returns {manager : WatermarkManager τ} {key : String} {eventTimestamp : τ}
    (named : key ≠ "") :
    (observe key eventTimestamp).Returns manager ↔
      (∃ previous, manager.watermarkFor key = .ok previous) ∧
        ∃ watermark, manager.deriveWatermark
          (Timestamp.later (manager.highFor key) eventTimestamp) = .ok watermark := by
  constructor
  · rintro ⟨observation, after, returned⟩
    obtain ⟨previous, observed⟩ := observe_ok returned
    exact ⟨⟨previous, observed.before⟩, observation.watermark, observed.derived⟩
  · rintro ⟨⟨previous, before⟩, watermark, derived⟩
    rw [observe, if_neg named]
    apply Call.Returns.bind_read
    apply Call.Returns.bind_lift before
    apply Call.Returns.bind_write
    exact Call.Returns.bind_lift derived (Call.returns_pure _ _)

/-- An observation that raises writes nothing, or a high without a watermark. -/
theorem observe_raised {manager after : WatermarkManager τ} {key : String} {eventTimestamp : τ}
    {reason : Raised} (raised : observe key eventTimestamp manager = (.error reason, after)) :
    after.latenessSeconds = manager.latenessSeconds ∧
      (after = manager ∨ ∃ cause, after.watermarkFor key = .error cause) := by
  by_cases nameless : key = ""
  · rw [observe, if_pos nameless] at raised
    cases raised
    exact ⟨rfl, Or.inl rfl⟩
  rcases before : manager.watermarkFor key with cause | previous
  · rw [observe_raises nameless before] at raised
    cases raised
    exact ⟨rfl, Or.inl rfl⟩
  · have leaves := observe_leaves nameless before eventTimestamp
    rw [raised] at leaves
    dsimp only at leaves
    subst leaves
    refine ⟨rfl, Or.inr ?_⟩
    have high : highFor (τ := τ) ⟨manager.latenessSeconds, manager.highEventTs.set key
        (Timestamp.later (manager.highFor key) eventTimestamp)⟩ key =
          Timestamp.later (manager.highFor key) eventTimestamp := by
      rw [highFor, OrderedDict.get?_set_self, Option.getD_some]
    rw [watermarkFor, high]
    rcases derived : manager.deriveWatermark (Timestamp.later (manager.highFor key) eventTimestamp)
      with cause | watermark
    · exact ⟨cause, derived⟩
    · obtain ⟨_, _, returned⟩ :=
        (observe_returns nameless).mpr ⟨⟨previous, before⟩, watermark, derived⟩
      rw [raised] at returned
      cases returned

namespace Observed

variable {manager after : WatermarkManager τ} {key : String} {eventTimestamp previous : τ}
  {observation : WatermarkObservation τ}

theorem highFor (observed : Observed manager key eventTimestamp previous observation after)
    (other : String) :
    after.highFor other =
      if other = key then Timestamp.later (manager.highFor key) eventTimestamp
      else manager.highFor other := by
  rw [observed.stored]
  simp only [WatermarkManager.highFor, OrderedDict.get?_set]
  split <;> rfl

theorem lateness (observed : Observed manager key eventTimestamp previous observation after) :
    after.lateness = manager.lateness := by
  rw [observed.stored]
  rfl

theorem watermarkFor (observed : Observed manager key eventTimestamp previous observation after)
    (other : String) :
    after.watermarkFor other =
      if other = key then .ok observation.watermark else manager.watermarkFor other := by
  have sameDerive : after.deriveWatermark = manager.deriveWatermark := by
    rw [observed.stored]
    rfl
  rw [WatermarkManager.watermarkFor, observed.highFor, sameDerive]
  split
  · exact observed.derived
  · rfl

end Observed

end

/-- The datetime has a watermark: it is `datetime.min` in UTC, or the lateness stays within
the range of its wall clock. -/
def InReach (manager : WatermarkManager Datetime) (t : Datetime) : Prop :=
  t.micros = minMicros ∨ minMicros + manager.lateness ≤ t.wall

theorem deriveWatermark_returns {manager : WatermarkManager Datetime} {t : Datetime} :
    (∃ watermark, manager.deriveWatermark t = .ok watermark) ↔ manager.InReach t := by
  have nonneg := manager.lateness_nonneg
  have upper := t.wall_le_max
  have derives : manager.deriveWatermark t =
      if t.micros = minMicros then .ok Timestamp.baseline else t.sub manager.lateness := rfl
  rw [derives, InReach]
  by_cases unseen : t.micros = minMicros
  · rw [if_pos unseen]
    exact ⟨fun _ => Or.inl unseen, fun _ => ⟨_, rfl⟩⟩
  · rw [if_neg unseen]
    simp only [unseen, false_or]
    constructor
    · rintro ⟨watermark, moved⟩
      rw [Datetime.sub] at moved
      split at moved
      · rename_i range
        omega
      · cases moved
    · intro above
      have range : minMicros ≤ t.wall - manager.lateness ∧ t.wall - manager.lateness ≤ maxMicros := by
        omega
      exact ⟨_, dif_pos range⟩

/-- The high before has a watermark, and so has the event where it is the later. -/
def Observable (manager : WatermarkManager Datetime) (key : String) (t : Datetime) : Prop :=
  manager.InReach (manager.highFor key) ∧
    (t.micros ≤ (manager.highFor key).micros ∨ manager.InReach t)

theorem observe_returns_iff {manager : WatermarkManager Datetime} {key : String} {t : Datetime}
    (named : key ≠ "") : (observe key t).Returns manager ↔ manager.Observable key t := by
  rw [observe_returns named, watermarkFor, deriveWatermark_returns, deriveWatermark_returns,
    Observable, Timestamp.later]
  refine and_congr_right fun high => ?_
  by_cases moves : Timestamp.micros (manager.highFor key) < Timestamp.micros t
  · have notBelow : ¬ t.micros ≤ (manager.highFor key).micros := Int.not_le.mpr moves
    simp only [moves, ↓reduceIte, notBelow, false_or]
  · have below : t.micros ≤ (manager.highFor key).micros := Int.not_lt.mp moves
    simp only [moves, ↓reduceIte, below, true_or, high]

/-- What a derived watermark is: the baseline, or the high less the lateness. -/
theorem deriveWatermark_ok {manager : WatermarkManager Instant} {high watermark : Instant}
    (derived : manager.deriveWatermark high = .ok watermark) :
    high = .baseline ∧ watermark = .baseline ∨
      high ≠ .baseline ∧ watermark.micros = high.micros - manager.lateness := by
  unfold deriveWatermark at derived
  split at derived
  · rename_i unseen
    cases derived
    exact Or.inl ⟨Instant.ext unseen, rfl⟩
  · rename_i seen
    exact Or.inr ⟨fun same => seen (congrArg Instant.micros same), Instant.sub_eq_ok.mp derived⟩

namespace Observed

variable {manager after : WatermarkManager Instant} {key : String} {eventTimestamp previous : Instant}
  {observation : WatermarkObservation Instant}

theorem derived_max (observed : Observed manager key eventTimestamp previous observation after) :
    manager.deriveWatermark (max (manager.highFor key) eventTimestamp) =
      .ok observation.watermark := by
  rw [← Timestamp.later_instant]
  exact observed.derived

/-- Watermarks never go backwards, and only an on-time event moves one. -/
theorem monotone (observed : Observed manager key eventTimestamp previous observation after) :
    previous ≤ observation.watermark ∧
      (eventTimestamp < previous → observation.watermark = previous) := by
  have nonneg := manager.lateness_nonneg
  have lowest := Instant.baseline_le observation.watermark
  have highest := le_max_left (manager.highFor key) eventTimestamp
  have atLeast : eventTimestamp ≤ manager.highFor key →
      observation.watermark = previous := by
    intro below
    have derived := observed.derived_max
    rw [max_eq_left below, ← WatermarkManager.watermarkFor, observed.before] at derived
    exact (Except.ok.inj derived).symm
  rcases deriveWatermark_ok observed.before with ⟨_, atBaseline⟩ | ⟨_, trails⟩
  · refine ⟨atBaseline ▸ lowest, ?_⟩
    intro early
    have least := Instant.baseline_le eventTimestamp
    rw [atBaseline] at early
    exact absurd early (not_lt.mpr least)
  · constructor
    · rcases deriveWatermark_ok observed.derived_max with ⟨newHigh, _⟩ | ⟨_, moved⟩
      · have same := atLeast (by
          rw [newHigh] at highest
          exact (le_trans (le_max_right _ _) (newHigh.le.trans (Instant.baseline_le _))))
        rw [same]
      · rw [Instant.le_def] at highest ⊢
        omega
    · intro early
      apply atLeast
      rw [Instant.lt_def] at early
      rw [Instant.le_def]
      omega

/-- The three ways an event stands to the watermark before it. -/
theorem cases (observed : Observed manager key eventTimestamp previous observation after) :
    observation.classification = .onTime ∧ previous ≤ eventTimestamp ∨
      observation.classification = .lateTolerated ∧ eventTimestamp < previous ∧
        previous.micros ≤ eventTimestamp.micros + manager.lateness ∧
        observation.watermark = previous ∨
      observation.classification = .lateDropped ∧ observation.watermark = previous := by
  have unmoved := observed.monotone.2
  rw [observed.classified, classify]
  split
  · rename_i onTime
    exact Or.inl ⟨rfl, onTime⟩
  · rename_i late
    have early : eventTimestamp < previous := Int.not_le.mp late
    simp only [Timestamp.micros_instant]
    split
    · rename_i tolerated
      exact Or.inr (Or.inl ⟨rfl, early, by omega, unmoved early⟩)
    · exact Or.inr (Or.inr ⟨rfl, unmoved early⟩)

/-- The watermark stays below any instant past the event and past the watermark before. -/
theorem watermark_le (observed : Observed manager key eventTimestamp previous observation after) :
    observation.watermark = previous ∨ observation.watermark ≤ eventTimestamp := by
  have nonneg := manager.lateness_nonneg
  rcases le_total eventTimestamp (manager.highFor key) with below | above
  · have derived := observed.derived_max
    rw [max_eq_left below, ← WatermarkManager.watermarkFor, observed.before] at derived
    exact Or.inl (Except.ok.inj derived).symm
  · have derived := observed.derived_max
    rw [max_eq_right above] at derived
    rcases deriveWatermark_ok derived with ⟨_, atBaseline⟩ | ⟨_, trails⟩
    · exact Or.inr (atBaseline ▸ Instant.baseline_le _)
    · right
      rw [Instant.le_def]
      omega

end Observed

end WatermarkManager

end SignalForge
