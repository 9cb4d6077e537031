import Compositor.Scalar
import Compositor.Scalar.Rounding

/-!
# Rational numbers as a scalar

The scalar without rounding.  Over it the geometry of the editor is geometry: a sum is a sum, and a
quotient fails for the divisor zero alone.  It has no infinite and no undefined number, so a text
that spells one of these spells no number here.
-/

namespace Compositor

/-- The rational number `mantissa * 10 ^ exponent`, negated when `negative` holds. -/
def Exact.ofDecimal (negative : Bool) (mantissa : Nat) (exponent : Int) : Rat :=
  let up : Int := (mantissa * Nat.pow 10 exponent.toNat : Nat)
  let magnitude := mkRat up (Nat.pow 10 (-exponent).toNat)
  if negative then -magnitude else magnitude

instance : Scalar Rat where
  decideLT := inferInstance
  decideLE := inferInstance
  ofInt := Rat.ofInt
  ofNumeral
    | .decimal s m e => .ok (Exact.ofDecimal s m e)
    | .infinite _ => .error .notANumber
    | .undefined => .error .notANumber
  quotient := fun a b => if b == 0 then .error .divisionByZero else .ok (a / b)
  floor := fun x => .ok (Fraction.floor x.num x.den)
  roundEven := fun x => .ok (Fraction.nearestEven x.num x.den)
  isFinite := fun _ => true

namespace Exact

/-- To be at least a whole number is what it says. -/
theorem atLeast_iff (v : Rat) (n : Int) : Scalar.atLeast v n = true ↔ (n : Rat) ≤ v := by
  have h : Fraction.floor v.num v.den = v.floor := by
    rw [Rat.floor_def]
    rfl
  simp only [Scalar.atLeast, Scalar.floor, h]
  exact decide_eq_true_iff.trans Rat.le_floor_iff

end Exact

end Compositor
