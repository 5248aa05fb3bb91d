import SignalForge.WindowAggregator

/-! The counting and the summing aggregation a window aggregator may be given. -/

set_option autoImplicit false

namespace Double

/-- The double nearest to a rational; infinite from 2^1024 on. -/
def ofRat (value : ℚ) : Double :=
  let rounded := Binary64.round value
  if 2 ^ 1024 ≤ |rounded| then .infinity (rounded < 0) else .finite rounded

/-- `left + right`. -/
def add : Double → Double → Double
  | .finite left, .finite right => ofRat (left + right)
  | .infinity left, .infinity right => if left = right then .infinity left else .nan
  | .infinity negative, .finite _ => .infinity negative
  | .finite _, .infinity negative => .infinity negative
  | .nan, _ => .nan
  | _, .nan => .nan

end Double

namespace SignalForge

/-- A contribution as `isinstance(contribution, (int, float))` tells it apart. -/
inductive Contribution where
  | whole (value : Int)
  | real (value : Double)
  | other (typeName : String)
  deriving DecidableEq

namespace Contribution

/-- `float(contribution)` behind the check that it is numeric. -/
def toFloat (refusal : String) : Contribution → Except Raised Double
  | .whole value =>
      match Double.ofRat value with
      | .finite rounded => .ok (.finite rounded)
      | _ => .error .overflowError
  | .real value => .ok value
  | .other typeName => .error (.typeError (refusal ++ typeName))

end Contribution

/-- `CountAggregation`. -/
def countAggregation (κ : Type) : Aggregation Nat κ Nat where
  name := "count"
  initial := 0
  combine count _ := .ok (count + 1)
  finalise count := .ok count

/-- `SumAggregation`. -/
def sumAggregation : Aggregation Double Contribution Double where
  name := "sum"
  initial := .finite 0
  combine total contribution := do
    let value ← contribution.toFloat "SumAggregation contribution must be numeric, got "
    pure (total.add value)
  finalise total := .ok total

end SignalForge
