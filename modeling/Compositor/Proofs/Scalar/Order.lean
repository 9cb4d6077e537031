import Compositor.Defaults
import Compositor.Proofs.Geometry.Exact
import Compositor.Scalar.Binary

/-!
# What the settings need of an order and of equality

A number is kept within limits by two comparisons, and whether it then is within them is a matter of
the scalar's order.  Whether a setting is read back as it was stored is a matter of its equality.
Little is needed of both (`Scalar.Lawful`), and it is less than a linear order: doubles are not
linearly ordered, since the undefined one compares with nothing, itself included, and equal doubles
need not be the same, since there are two zeros.

What is less than a double is also at most that double, because both are read off one comparison;
and a double that is at least five is compared by its sign with zero.
-/

namespace Compositor

/-- What keeping a number within limits and reading it back needs of the order and the equality of a
scalar, and of the limits. -/
class Scalar.Lawful (α : Type) [Scalar α] : Prop where
  /-- To be less is to be at most. -/
  le_of_lt {a b : α} : a < b → a ≤ b
  /-- The smallest distance of grid lines is one. -/
  minGridSize_le_self : (Defaults.minGridSize : α) ≤ Defaults.minGridSize
  /-- A distance that is no smaller than the smallest one is positive. -/
  pos_of_minGridSize_le {v : α} : Defaults.minGridSize ≤ v → Scalar.ofInt 0 < v
  /-- The distance of the grid lines, until it is set, is a whole number. -/
  truncate_gridSize : Scalar.truncate (Defaults.gridSize : α) = .ok 20
  /-- It is not below the smallest one. -/
  minGridSize_le_gridSize : (Defaults.minGridSize : α) ≤ Scalar.ofInt 20
  /-- Zero, one and the first opacity are opacities. -/
  opacities : ∀ v ∈ [Scalar.ofInt 0, Scalar.ofInt 1, (Defaults.templateOpacity : α)],
    Scalar.ofInt 0 ≤ v ∧ v ≤ Scalar.ofInt 1
  /-- An opacity is neither infinite nor undefined. -/
  isFinite_of_opacity {v : α} : Scalar.ofInt 0 ≤ v → v ≤ Scalar.ofInt 1 → Scalar.isFinite v = true
  /-- Only the undefined number differs from itself, and no number is at most that one. -/
  beq_self_of_le {a v : α} : a ≤ v → (v == v) = true
  /-- What equals one number equals its equals. -/
  beq_trans {a b c : α} : (a == b) = true → (b == c) = true → (a == c) = true
  /-- Equal numbers are cut to one whole number. -/
  truncate_congr {a b : α} : (a == b) = true → Scalar.truncate a = Scalar.truncate b

/-- The larger one of a number and another is no smaller than the first, unless that one is
undefined. -/
theorem Scalar.le_larger {α : Type} [Scalar α] [Scalar.Lawful α] {a : α} (ha : a ≤ a) (v : α) :
    a ≤ Scalar.larger a v := by
  unfold Scalar.larger
  split
  · exact Lawful.le_of_lt ‹_›
  · exact ha

/-! ## 1. Rational numbers -/

instance : Scalar.Lawful Rat where
  le_of_lt := le_of_lt
  minGridSize_le_self := le_refl _
  pos_of_minGridSize_le h := lt_of_lt_of_le (by norm_num [Defaults.minGridSize, Exact.ofInt_eq]) h
  truncate_gridSize := by decide +kernel
  minGridSize_le_gridSize := by norm_num [Defaults.minGridSize, Exact.ofInt_eq]
  opacities := by decide +kernel
  isFinite_of_opacity _ _ := rfl
  beq_self_of_le _ := beq_self_eq_true _
  beq_trans hab hbc := beq_iff_eq.mpr ((beq_iff_eq.mp hab).trans (beq_iff_eq.mp hbc))
  truncate_congr h := congrArg Scalar.truncate (beq_iff_eq.mp h)

/-! ## 2. Doubles -/

namespace Binary

open Float.Model

/-- To be at most is to compare as less or equal. -/
theorem le_iff {a b : Float} :
    a ≤ b ↔ (a.toModel.unpack.compare b.toModel.unpack).any (·.isLE) = true :=
  decide_eq_true_iff

/-- To be less is to compare as less. -/
theorem lt_iff {a b : Float} : a < b ↔ a.toModel.unpack.compare b.toModel.unpack = some .lt :=
  decide_eq_true_iff.trans beq_iff_eq

/-- A double that is less than another one is at most that one. -/
theorem le_of_lt {a b : Float} (h : a < b) : a ≤ b := by
  rw [le_iff, lt_iff.mp h]
  rfl

/-- Zero has no digits. -/
theorem unpack_zero : (ofInt 0).toModel.unpack = .zero .positive := rfl

/-- One is positive. -/
theorem unpack_one : ∃ m e h, (ofInt 1).toModel.unpack = .finite .positive m e h := ⟨_, _, _, rfl⟩

/-- Five is positive. -/
theorem unpack_five : ∃ m e h, (ofInt 5).toModel.unpack = .finite .positive m e h :=
  ⟨_, _, _, rfl⟩

/-- A double that is at least five is positive. -/
theorem pos_of_five_le {v : Float} (h : ofInt 5 ≤ v) : ofInt 0 < v := by
  obtain ⟨m, e, hm, hfive⟩ := unpack_five
  rw [le_iff, hfive] at h
  rw [lt_iff, unpack_zero]
  cases hv : v.toModel.unpack with
  | notANumber =>
    rw [hv] at h
    exact nomatch h
  | zero s =>
    rw [hv] at h
    exact nomatch h
  | infinity s =>
    rw [hv] at h
    cases s with
    | positive => rfl
    | negative => exact nomatch h
  | finite s m e hm =>
    rw [hv] at h
    cases s with
    | positive => rfl
    | negative => exact nomatch h

/-- A double between zero and one is neither infinite nor undefined. -/
theorem isFinite_of_opacity {v : Float} (hzero : ofInt 0 ≤ v) (hone : v ≤ ofInt 1) :
    v.isFinite = true := by
  obtain ⟨m, e, hm, h⟩ := unpack_one
  rw [le_iff, unpack_zero] at hzero
  rw [le_iff, h] at hone
  change v.toModel.unpack.isFinite = true
  cases hv : v.toModel.unpack with
  | notANumber =>
    rw [hv] at hone
    exact nomatch hone
  | infinity s =>
    rw [hv] at hzero hone
    cases s with
    | positive => exact nomatch hone
    | negative => exact nomatch hzero
  | zero s => rfl
  | finite s m e hm => rfl

/-- A double that another one is at most is not undefined. -/
theorem beq_self_of_le {a v : Float} (h : a ≤ v) : (v == v) = true := by
  rw [Float.beq_self_iff]
  rintro rfl
  rw [le_iff] at h
  cases ha : a.toModel.unpack <;> rw [ha] at h <;> exact nomatch h

/-- Equality of doubles is that of values, but for the two zeros. -/
theorem beq_trans {a b c : Float} (hab : (a == b) = true) (hbc : (b == c) = true) :
    (a == c) = true := by
  rw [Float.beq_iff_ne_nan_and_eq] at hab hbc ⊢
  obtain ⟨ha, -, hab⟩ := hab
  obtain ⟨-, hc, hbc⟩ := hbc
  refine ⟨ha, hc, ?_⟩
  rcases hab with rfl | ⟨rfl, rfl⟩ | ⟨rfl, rfl⟩
  · exact hbc
  · rcases hbc with rfl | ⟨-, rfl⟩ | ⟨-, rfl⟩ <;> simp
  · rcases hbc with rfl | ⟨-, rfl⟩ | ⟨-, rfl⟩ <;> simp

/-- The two zeros are cut to one whole number. -/
theorem truncate_congr {a b : Float} (h : (a == b) = true) :
    Scalar.truncate a = Scalar.truncate b := by
  obtain ⟨-, -, rfl | ⟨rfl, rfl⟩ | ⟨rfl, rfl⟩⟩ := Float.beq_iff_ne_nan_and_eq.mp h <;> rfl

end Binary

instance : Scalar.Lawful Float where
  le_of_lt := Binary.le_of_lt
  minGridSize_le_self := by decide
  pos_of_minGridSize_le := Binary.pos_of_five_le
  truncate_gridSize := rfl
  minGridSize_le_gridSize := by decide
  opacities := by decide +kernel
  isFinite_of_opacity := Binary.isFinite_of_opacity
  beq_self_of_le := Binary.beq_self_of_le
  beq_trans := Binary.beq_trans
  truncate_congr := Binary.truncate_congr

end Compositor
