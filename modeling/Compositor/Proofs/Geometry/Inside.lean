import Compositor.Proofs.Geometry.Exact
import Compositor.Resize

/-!
# Boxes that stay on the canvas

A box is put inside the canvas, snapped, and put inside once more.  Only the last step counts for
where it ends: whatever comes before, a span that is put inside its side lies there, or it is longer
than the side and starts at zero (`within_clamp`).  For a resize the size is brought into its bounds
after it was snapped and before that last step, and so fits (`Rect.exists_settled`).

What comes before counts for whether there is a result at all.  A locked size is a quotient by the
ratio, and fitting it to the canvas takes quotients by the size.  These are positive: the lock holds
only with a positive ratio, and the size was floored before (`Extent.exists_locked`).
-/

namespace Compositor

namespace Exact

/-! ## 1. A span on one axis -/

/-- The span of a length from `start` on lies in `0 … side`, or it is longer and starts at zero. -/
def Within (side start length : Rat) : Prop :=
  (0 ≤ start ∧ start + length ≤ side) ∨ (side < length ∧ start = 0)

/-- **A span that is put inside is within its side.** -/
theorem within_clamp (v side length : Rat) :
    Within side (Scalar.clamp v (Scalar.ofInt 0) (side - length)) length := by
  rw [clamp_eq, ofInt_eq, Int.cast_zero]
  rcases le_or_gt length side with hfits | hlong
  · have hroom : 0 ≤ side - length := sub_nonneg.mpr hfits
    have hhigh : max 0 (min (side - length) v) ≤ side - length := max_le hroom (min_le_left ..)
    exact .inl ⟨le_max_left .., le_sub_iff_add_le.mp hhigh⟩
  · have hroom : side - length ≤ 0 := (sub_neg.mpr hlong).le
    exact .inr ⟨hlong, max_eq_left ((min_le_left ..).trans hroom)⟩

/-- A span that is not too long lies in its side. -/
theorem Within.of_le {side start length : Rat} (h : Within side start length)
    (hle : length ≤ side) : 0 ≤ start ∧ start + length ≤ side := by
  rcases h with h | ⟨hlong, -⟩
  · exact h
  · exact absurd hle hlong.not_ge

/-- A length that is brought into its bounds is at most the side, and no shorter than the smallest
one unless the side is. -/
theorem bounded_clamp (v side : Rat) :
    let length := Scalar.clamp v (Scalar.smaller Defaults.minSide side) side
    min 50 side ≤ length ∧ length ≤ side := by
  dsimp only
  rw [clamp_eq, smaller_eq_min, minSide_eq]
  exact ⟨le_max_left .., max_le (min_le_right ..) (min_le_left ..)⟩

end Exact

/-! ## 2. Sizes -/

namespace Extent

/-- **A locked size is positive**, and there is one for every positive ratio. -/
theorem exists_locked (e : Extent Rat) (byHeight : Bool) {ratio : Rat} (hratio : 0 < ratio) :
    ∃ size, e.locked byHeight ratio = .ok size ∧ 0 < size.width ∧ 0 < size.height := by
  unfold locked
  simp only [Exact.larger_eq_max, Exact.minSide_eq, Exact.quotient_eq hratio.ne']
  have hwidth : 0 < max 50 e.width := lt_max_of_lt_left (by norm_num)
  have hheight : 0 < max 50 e.height := lt_max_of_lt_left (by norm_num)
  cases byHeight with
  | true =>
    rw [if_pos rfl]
    split
    · exact ⟨_, rfl, by norm_num, by positivity⟩
    · exact ⟨_, rfl, by positivity, hheight⟩
  | false =>
    rw [if_neg Bool.false_ne_true]
    by_cases hlow : max 50 e.width / ratio < 50
    · exact ⟨⟨50 * ratio, 50⟩, if_pos hlow, by positivity, by norm_num⟩
    · exact ⟨⟨max 50 e.width, max 50 e.width / ratio⟩, if_neg hlow, hwidth, by positivity⟩

/-- A floored size is positive. -/
theorem floored_pos (e : Extent Rat) : 0 < e.floored.width ∧ 0 < e.floored.height := by
  unfold floored
  simp only [Exact.larger_eq_max, Exact.minSide_eq]
  exact ⟨lt_max_of_lt_left (by norm_num), lt_max_of_lt_left (by norm_num)⟩

/-- Every positive size can be fitted to every canvas. -/
theorem exists_fitted {e : Extent Rat} (hwidth : 0 < e.width) (hheight : 0 < e.height)
    (canvas : Extent Rat) (keepRatio : Bool) : ∃ size, e.fitted canvas keepRatio = .ok size := by
  unfold fitted
  rw [Exact.quotient_eq hwidth.ne', Exact.quotient_eq hheight.ne']
  cases keepRatio <;> exact ⟨_, rfl⟩

/-- **A drag always has a result**, on each axis within the canvas. -/
theorem exists_dragged (size canvas : Extent Rat) (pointer grab : Point Rat) (grid : Grid Rat) :
    ∃ q, size.dragged canvas pointer grab grid = .ok q ∧
      Exact.Within canvas.width q.x size.width ∧ Exact.Within canvas.height q.y size.height := by
  unfold dragged
  simp only [Grid.snap_eq]
  exact ⟨_, rfl, Exact.within_clamp .., Exact.within_clamp ..⟩

end Extent

/-! ## 3. Boxes -/

namespace Rect

/-- The box lies on the canvas, and no side of it is shorter than the smallest one unless the canvas
is. -/
structure OnCanvas (canvas : Extent Rat) (r : Rect Rat) : Prop where
  left : 0 ≤ r.x
  top : 0 ≤ r.y
  right : r.right ≤ canvas.width
  bottom : r.bottom ≤ canvas.height
  wide : min 50 canvas.width ≤ r.width
  high : min 50 canvas.height ≤ r.height

/-- **A box that is settled lies on the canvas.** -/
theorem exists_settled (r : Rect Rat) (canvas : Extent Rat) (grid : Grid Rat) :
    ∃ r', r.settled canvas grid = .ok r' ∧ r'.OnCanvas canvas := by
  unfold settled
  simp only [Grid.snap_eq]
  obtain ⟨hwide, hwidth⟩ := Exact.bounded_clamp (grid.nearest r.width) canvas.width
  obtain ⟨hhigh, hheight⟩ := Exact.bounded_clamp (grid.nearest r.height) canvas.height
  obtain ⟨hleft, hright⟩ := (Exact.within_clamp _ canvas.width _).of_le hwidth
  obtain ⟨htop, hbottom⟩ := (Exact.within_clamp _ canvas.height _).of_le hheight
  exact ⟨_, rfl, hleft, htop, hright, hbottom, hwide, hhigh⟩

/-- Whether a resize keeps the ratio. -/
def keepsRatio {α : Type} [Scalar α] (aspectLocked : Bool) (aspectRatio : α) : Bool :=
  aspectLocked && decide (Scalar.ofInt 0 < aspectRatio)

/-- The size that a resize asks for, before it is fitted to the canvas. -/
def sized {α : Type} [Scalar α] (start : Rect α) (g : Grip) (dx dy : α) (aspectLocked : Bool)
    (aspectRatio : α) : Except Fault (Extent α) :=
  if keepsRatio aspectLocked aspectRatio
  then (g.requested start dx dy).locked g.byHeight aspectRatio
  else .ok (g.requested start dx dy).floored

/-- A resize is a size, which is fitted, and then a box of that size, which is settled. -/
theorem resized_eq {α : Type} [Scalar α] (start : Rect α) (g : Grip) (dx dy : α)
    (canvas : Extent α) (aspectLocked : Bool) (aspectRatio : α) (grid : Grid α) :
    start.resized g dx dy canvas aspectLocked aspectRatio grid = (do
      let size ← start.sized g dx dy aspectLocked aspectRatio
      let size ← size.fitted canvas (keepsRatio aspectLocked aspectRatio)
      (start.pinned g size).settled canvas grid) := by
  unfold resized sized keepsRatio
  dsimp only
  split <;> rfl

/-- The size that a resize asks for is positive. -/
theorem exists_sized (start : Rect Rat) (g : Grip) (dx dy : Rat) (aspectLocked : Bool)
    (aspectRatio : Rat) :
    ∃ size, start.sized g dx dy aspectLocked aspectRatio = .ok size ∧
      0 < size.width ∧ 0 < size.height := by
  unfold sized
  split
  · rename_i hkeep
    have hratio : 0 < aspectRatio := of_decide_eq_true (Bool.and_eq_true_iff.mp hkeep).2
    exact Extent.exists_locked _ _ hratio
  · exact ⟨_, rfl, Extent.floored_pos _⟩

/-- A resize settles a box: what goes before, the size and its fitting, has a result. -/
theorem exists_resized_eq_settled (start : Rect Rat) (g : Grip) (dx dy : Rat) (canvas : Extent Rat)
    (aspectLocked : Bool) (aspectRatio : Rat) (grid : Grid Rat) :
    ∃ box : Rect Rat, start.resized g dx dy canvas aspectLocked aspectRatio grid
      = box.settled canvas grid := by
  obtain ⟨size, hsize, hwidth, hheight⟩ := start.exists_sized g dx dy aspectLocked aspectRatio
  obtain ⟨fitted, hfitted⟩ :=
    Extent.exists_fitted hwidth hheight canvas (keepsRatio aspectLocked aspectRatio)
  refine ⟨start.pinned g fitted, ?_⟩
  rw [resized_eq, hsize]
  change (size.fitted canvas _ >>= _) = _
  rw [hfitted]
  rfl

/-- **A resize always has a result**, and it lies on the canvas. -/
theorem exists_resized (start : Rect Rat) (g : Grip) (dx dy : Rat) (canvas : Extent Rat)
    (aspectLocked : Bool) (aspectRatio : Rat) (grid : Grid Rat) :
    ∃ r, start.resized g dx dy canvas aspectLocked aspectRatio grid = .ok r ∧
      r.OnCanvas canvas := by
  obtain ⟨box, hbox⟩ :=
    start.exists_resized_eq_settled g dx dy canvas aspectLocked aspectRatio grid
  obtain ⟨r, hr, hon⟩ := box.exists_settled canvas grid
  exact ⟨r, hbox.trans hr, hon⟩

end Rect

end Compositor
