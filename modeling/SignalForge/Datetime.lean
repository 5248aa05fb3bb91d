import Mathlib.Order.Basic
import Mathlib.Order.Defs.LinearOrder
import Mathlib.Data.Int.Order.Basic

/-! Instants, timezone-aware datetimes and the exceptions arithmetic on them raises. -/

set_option autoImplicit false

namespace SignalForge

/-- What a call can raise. `exception` stands for anything a caller's own code raises. -/
inductive Raised where
  | valueError (message : String)
  /-- A schema refused the named fields; also a `ValueError`. -/
  | validationError (fields : List String)
  | typeError (message : String)
  | keyError
  | overflowError
  | exception (name : String)
  deriving DecidableEq, Repr

def microsPerSecond : Int := 1000000

def microsPerHour : Int := 3600 * microsPerSecond

/-- `datetime.min` in UTC, in microseconds from the Unix epoch. -/
def minMicros : Int := -62135596800 * microsPerSecond

/-- `datetime.max` in UTC, in microseconds from the Unix epoch. -/
def maxMicros : Int := 253402300800 * microsPerSecond - 1

/-- An instant a datetime can denote. Aware datetimes compare and subtract by instant. -/
structure Instant where
  micros : Int
  min_le : minMicros ≤ micros
  le_max : micros ≤ maxMicros
  deriving DecidableEq

namespace Instant

@[ext] theorem ext {left right : Instant} (same : left.micros = right.micros) : left = right := by
  cases left
  cases right
  simpa only [Instant.mk.injEq] using same

theorem micros_injective : Function.Injective Instant.micros := fun _ _ same => ext same

instance : LE Instant := ⟨fun left right => left.micros ≤ right.micros⟩

instance : LT Instant := ⟨fun left right => left.micros < right.micros⟩

theorem le_def (left right : Instant) : left ≤ right ↔ left.micros ≤ right.micros := Iff.rfl

theorem lt_def (left right : Instant) : left < right ↔ left.micros < right.micros := Iff.rfl

instance (left right : Instant) : Decidable (left ≤ right) :=
  inferInstanceAs (Decidable (left.micros ≤ right.micros))

instance (left right : Instant) : Decidable (left < right) :=
  inferInstanceAs (Decidable (left.micros < right.micros))

instance : LinearOrder Instant where
  le_refl instant := Int.le_refl instant.micros
  le_trans _ _ _ := Int.le_trans
  le_antisymm _ _ forward backward := ext (Int.le_antisymm forward backward)
  le_total left right := Int.le_total left.micros right.micros
  lt_iff_le_not_ge left right := by
    simp only [lt_def, le_def]
    omega
  toDecidableLE := fun left right => inferInstance

instance : Max Instant := LinearOrder.toMax

/-- `_EPOCH_BASELINE`, `datetime.min` in UTC. -/
def baseline : Instant := ⟨minMicros, by decide, by decide⟩

/-- `datetime(1970, 1, 1, tzinfo=UTC)`. -/
def epoch : Instant := ⟨0, by decide, by decide⟩

theorem firstDay_inRange (seconds : Nat) :
    minMicros ≤ (seconds % 86400 : Nat) * microsPerSecond ∧
      (seconds % 86400 : Nat) * microsPerSecond ≤ maxMicros := by
  have within : ((seconds % 86400 : Nat) : Int) ≤ 86400 :=
    Int.ofNat_le.mpr (Nat.le_of_lt (Nat.mod_lt seconds (Nat.succ_pos 86399)))
  constructor
  · have nonneg : 0 ≤ ((seconds % 86400 : Nat) : Int) * microsPerSecond :=
      Int.mul_nonneg (Int.natCast_nonneg _) (by decide)
    exact le_trans (by decide) nonneg
  · exact (Int.mul_le_mul_of_nonneg_right within (by decide)).trans (by decide)

/-- A second of the epoch's day. -/
def second (seconds : Nat) : Instant :=
  ⟨(seconds % 86400 : Nat) * microsPerSecond, (firstDay_inRange seconds).1,
    (firstDay_inRange seconds).2⟩

theorem baseline_le (instant : Instant) : baseline ≤ instant := instant.min_le

/-- An instant from its microseconds; outside the range of a datetime this raises. -/
def ofMicros (micros : Int) : Except Raised Instant :=
  if range : minMicros ≤ micros ∧ micros ≤ maxMicros then .ok ⟨micros, range.1, range.2⟩
  else .error .overflowError

/-- `instant + timedelta`. -/
def add (instant : Instant) (delta : Int) : Except Raised Instant :=
  ofMicros (instant.micros + delta)

/-- `instant - timedelta`. -/
def sub (instant : Instant) (delta : Int) : Except Raised Instant :=
  ofMicros (instant.micros - delta)

theorem ofMicros_eq_ok {micros : Int} {instant : Instant} :
    ofMicros micros = .ok instant ↔ instant.micros = micros := by
  unfold ofMicros
  split
  · simp only [Except.ok.injEq, Instant.ext_iff]
    exact eq_comm
  · rename_i outside
    simp only [reduceCtorEq, false_iff]
    rintro rfl
    exact outside ⟨instant.min_le, instant.le_max⟩

theorem add_eq_ok {instant sum : Instant} {delta : Int} :
    instant.add delta = .ok sum ↔ sum.micros = instant.micros + delta := ofMicros_eq_ok

theorem sub_eq_ok {instant difference : Instant} {delta : Int} :
    instant.sub delta = .ok difference ↔ difference.micros = instant.micros - delta :=
  ofMicros_eq_ok

theorem ofMicros_of_range {micros : Int} (lower : minMicros ≤ micros) (upper : micros ≤ maxMicros) :
    ofMicros micros = .ok ⟨micros, lower, upper⟩ := by
  simp only [ofMicros, lower, upper, and_self, ↓reduceDIte]

/-- Arithmetic that stays in the range of a datetime returns. -/
theorem add_of_range (instant : Instant) (delta : Int) (lower : minMicros ≤ instant.micros + delta)
    (upper : instant.micros + delta ≤ maxMicros) :
    ∃ sum, instant.add delta = .ok sum ∧ sum.micros = instant.micros + delta :=
  ⟨_, ofMicros_of_range lower upper, rfl⟩

/-- Arithmetic that leaves the range of a datetime raises. -/
theorem add_outside {instant : Instant} {delta : Int}
    (outside : ¬ (minMicros ≤ instant.micros + delta ∧ instant.micros + delta ≤ maxMicros)) :
    instant.add delta = .error .overflowError := by
  rw [add, ofMicros, dif_neg outside]

end Instant

/-- A timezone-aware datetime: its wall clock, in microseconds, and the clock's offset from
UTC. A datetime is bounded by its wall clock, not by the instant it denotes. -/
structure Datetime where
  wall : Int
  offset : Int
  min_le_wall : minMicros ≤ wall
  wall_le_max : wall ≤ maxMicros
  deriving DecidableEq

namespace Datetime

/-- The instant denoted, in microseconds from the Unix epoch; datetimes are equal and ordered
by it. -/
def micros (t : Datetime) : Int := t.wall - t.offset

def utc (instant : Instant) : Datetime where
  wall := instant.micros
  offset := 0
  min_le_wall := instant.min_le
  wall_le_max := instant.le_max

@[simp] theorem utc_micros (instant : Instant) : (utc instant).micros = instant.micros := by
  simp only [micros, utc, Int.sub_zero]

@[simp] theorem utc_offset (instant : Instant) : (utc instant).offset = 0 := rfl

@[simp] theorem utc_wall (instant : Instant) : (utc instant).wall = instant.micros := rfl

/-- `t.astimezone(timezone.utc)`. -/
def toUtc (t : Datetime) : Except Raised Datetime :=
  match Instant.ofMicros t.micros with
  | .error reason => .error reason
  | .ok instant => .ok (.utc instant)

/-- `t - timedelta`, on the wall clock. -/
def sub (t : Datetime) (delta : Int) : Except Raised Datetime :=
  if range : minMicros ≤ t.wall - delta ∧ t.wall - delta ≤ maxMicros then
    .ok ⟨t.wall - delta, t.offset, range.1, range.2⟩
  else .error .overflowError

/-- `t + timedelta`, on the wall clock. -/
def add (t : Datetime) (delta : Int) : Except Raised Datetime :=
  if range : minMicros ≤ t.wall + delta ∧ t.wall + delta ≤ maxMicros then
    .ok ⟨t.wall + delta, t.offset, range.1, range.2⟩
  else .error .overflowError

theorem toUtc_ok {t shifted : Datetime} (returned : t.toUtc = .ok shifted) :
    shifted.offset = 0 ∧ shifted.micros = t.micros := by
  rw [toUtc] at returned
  split at returned
  · cases returned
  · rename_i instant found
    cases returned
    rw [utc_offset, utc_micros]
    exact ⟨rfl, Instant.ofMicros_eq_ok.mp found⟩

/-- A datetime whose UTC date is in range has one. -/
theorem toUtc_of_range {t : Datetime} (lower : minMicros ≤ t.micros) (upper : t.micros ≤ maxMicros) :
    t.toUtc = .ok (.utc ⟨t.micros, lower, upper⟩) := by
  rw [toUtc, Instant.ofMicros_of_range lower upper]

end Datetime

/-- What code for datetimes of any kind uses of them: the instant denoted, `datetime.min` in
UTC, and subtraction. -/
class Timestamp (τ : Type) where
  micros : τ → Int
  baseline : τ
  sub : τ → Int → Except Raised τ

namespace Timestamp

instance : Timestamp Instant := ⟨Instant.micros, .baseline, Instant.sub⟩

instance : Timestamp Datetime := ⟨Datetime.micros, .utc .baseline, Datetime.sub⟩

@[simp] theorem micros_instant (instant : Instant) : micros instant = instant.micros := rfl

/-- `max(first, second)`, the first of equals. -/
def later {τ : Type} [Timestamp τ] (first second : τ) : τ :=
  if micros first < micros second then second else first

theorem later_instant (first second : Instant) : later first second = max first second := by
  rw [later]
  split
  · rename_i before
    have below : first ≤ second := Int.le_of_lt before
    exact (max_eq_right below).symm
  · rename_i notBefore
    have above : second ≤ first := Int.not_lt.mp notBefore
    exact (max_eq_left above).symm

end Timestamp

end SignalForge
