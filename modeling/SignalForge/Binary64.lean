import Mathlib.Data.Int.Log
import Mathlib.Data.Rat.Floor

/-! Rounding a rational to the nearest double, ties to even. Overflow and the subnormal
range are left out: no value here comes near them. -/

set_option autoImplicit false

namespace Binary64

def roundHalfEven (value : ℚ) : Int :=
  let low := ⌊value⌋
  if 2 * (value - low) < 1 then low
  else if 1 < 2 * (value - low) then low + 1
  else if low % 2 = 0 then low
  else low + 1

/-- The weight of the last of the 53 binary digits of a value. -/
def lastPlace (value : ℚ) : ℚ := 2 ^ (Int.log 2 |value| - 52)

def round (value : ℚ) : ℚ :=
  if value = 0 then 0 else roundHalfEven (value / lastPlace value) * lastPlace value

example : round (1 / 3) = 6004799503160661 / 18014398509481984 := by decide +kernel

@[simp] theorem roundHalfEven_intCast (whole : Int) : roundHalfEven whole = whole := by
  simp [roundHalfEven]

/-- A whole number of last places is a double. -/
theorem round_of_places {value : ℚ} (places : Int) (whole : value = places * lastPlace value) :
    round value = value := by
  have positive : lastPlace value ≠ 0 := zpow_ne_zero _ (by decide)
  rw [round]
  split
  · rename_i zero
    exact zero.symm
  · rw [(div_eq_iff positive).mpr whole, roundHalfEven_intCast, ← whole]

theorem round_intCast {whole : Int} (small : |whole| < 2 ^ 53) : round whole = whole := by
  rcases eq_or_ne whole 0 with rfl | nonzero
  · simp [round]
  · have positive : (0 : ℚ) < |(whole : ℚ)| := abs_pos.mpr (Int.cast_ne_zero.mpr nonzero)
    have below : Int.log 2 |(whole : ℚ)| < 53 := by
      rw [← Int.lt_zpow_iff_log_lt (by decide) positive]
      exact_mod_cast small
    have fits : 0 ≤ 52 - Int.log 2 |(whole : ℚ)| := by omega
    obtain ⟨shift, shifted⟩ := Int.eq_ofNat_of_zero_le fits
    have place : lastPlace whole = (2 ^ shift)⁻¹ := by
      rw [lastPlace, ← zpow_natCast, ← zpow_neg]
      congr 1
      omega
    refine round_of_places (whole * 2 ^ shift) ?_
    rw [place, Int.cast_mul, Int.cast_pow, Int.cast_ofNat,
      mul_inv_cancel_right₀ (pow_ne_zero _ (by decide))]

end Binary64

/-- A value of type `float`. -/
inductive Double where
  | finite (value : ℚ)
  | infinity (negative : Bool)
  | nan
  deriving DecidableEq

namespace Double

/-- `left < right`. -/
def lt : Double → Double → Bool
  | .finite left, .finite right => left < right
  | .finite _, .infinity negative => !negative
  | .infinity negative, .finite _ => negative
  | .infinity left, .infinity right => left && !right
  | .nan, _ => false
  | _, .nan => false

/-- `left <= right`. -/
def le : Double → Double → Bool
  | .nan, _ => false
  | _, .nan => false
  | left, right => !lt right left

end Double
