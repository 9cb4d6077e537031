import Compositor.Defaults
import Compositor.Scalar.Exact
import Compositor.Snap
import Mathlib

/-!
# Exact arithmetic

Over the rational numbers the operations of `Scalar` are the usual ones, and of those that can fail
only the quotient by zero does.  The equations here carry the code's own spelling over to the usual
one, in which the geometry is then proved.
-/

namespace Compositor

namespace Exact

/-- A whole number is itself. -/
theorem ofInt_eq (n : Int) : (Scalar.ofInt n : Rat) = n := rfl

/-- The smallest side is fifty. -/
theorem minSide_eq : (Defaults.minSide : Rat) = 50 := rfl

/-- One half is one half. -/
theorem ofDecimal_half : (Scalar.ofDecimal 5 1 : Rat) = 1 / 2 := by decide +kernel

/-- One half of a number is its quotient by two. -/
theorem half_eq (v : Rat) : Scalar.half v = v / 2 := by
  rw [Scalar.half, ofDecimal_half]
  ring

/-- The larger of two is their maximum. -/
theorem larger_eq_max (a b : Rat) : Scalar.larger a b = max a b := by
  unfold Scalar.larger
  rw [max_def]
  split <;> split <;> grind

/-- The smaller of two is their minimum. -/
theorem smaller_eq_min (a b : Rat) : Scalar.smaller a b = min a b := by
  unfold Scalar.smaller
  rw [min_def]
  split <;> split <;> grind

/-- A value is moved into bounds by a maximum and a minimum, the lower bound last. -/
theorem clamp_eq (v lo hi : Rat) : Scalar.clamp v lo hi = max lo (min hi v) := by
  rw [Scalar.clamp, larger_eq_max, smaller_eq_min]

/-- There is a quotient by whatever is not zero. -/
theorem quotient_eq {a b : Rat} (hb : b ≠ 0) : Scalar.quotient a b = .ok (a / b) := by
  have hne : (b == 0) = false := beq_eq_false_iff_ne.mpr hb
  change (if (b == 0) = true then Except.error Fault.divisionByZero else .ok (a / b)) = _
  rw [hne]
  rfl

/-- Every number has a floor. -/
theorem floor_eq (v : Rat) : Scalar.floor v = .ok ⌊v⌋ := by
  rw [Rat.floor_def']
  rfl

/-- Every number has a nearest whole number, halves going up. -/
theorem roundHalfUp_eq (v : Rat) : Scalar.roundHalfUp v = .ok ⌊v + 1 / 2⌋ := by
  rw [Scalar.roundHalfUp, ofDecimal_half, floor_eq]

end Exact

namespace Grid

/-- The coordinate to which a coordinate snaps. -/
def nearest (g : Grid Rat) (v : Rat) : Rat :=
  if g.enabled = true ∧ 0 < g.size then ⌊v / g.size + 1 / 2⌋ * g.size else v

/-- **Snapping never fails**: a grid without a positive size is left alone. -/
theorem snap_eq (g : Grid Rat) (v : Rat) : g.snap v = .ok (g.nearest v) := by
  unfold Grid.snap nearest
  by_cases h : g.enabled = true ∧ 0 < g.size
  · obtain ⟨hon, hpos⟩ := h
    have hnot : ¬(!g.enabled || decide (g.size ≤ Scalar.ofInt 0)) = true := by
      simp [hon, Exact.ofInt_eq, hpos]
    rw [if_neg hnot, if_pos ⟨hon, hpos⟩, Exact.quotient_eq hpos.ne']
    change (Scalar.roundHalfUp (v / g.size) >>= fun n => .ok (Scalar.ofInt n * g.size)) = _
    rw [Exact.roundHalfUp_eq]
    rfl
  · have hoff : (!g.enabled || decide (g.size ≤ Scalar.ofInt 0)) = true := by
      rw [not_and, not_lt] at h
      cases hon : g.enabled with
      | false => rfl
      | true => simpa [Exact.ofInt_eq] using h hon
    rw [if_pos hoff, if_neg h]

end Grid

end Compositor
