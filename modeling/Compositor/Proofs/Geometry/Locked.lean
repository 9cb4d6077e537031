import Compositor.Proofs.Geometry.Span

/-!
# Sizes that keep their ratio

A locked resize corrects the size four times: the side that is driven is brought up to the smallest
one; the other side follows, and where it is too short now, it is brought up and the driven one
follows; the whole is shrunk to the canvas; and each side is brought into its bounds once more.  None
of these undoes what another one has done, and the reason is that in a ratio a size is no more than
its height (`Extent.ofHeight`).  In terms of the height, the first two corrections are one maximum
(`Extent.locked_eq`), the third is a minimum (`Extent.fitted_ofHeight`), and with room for the
smallest size on the canvas the last has nothing to do.
-/

namespace Compositor

/-- The handles above and below drive the height. -/
theorem Handle.byHeight_grip (h : Handle) : h.grip.byHeight = decide (h = .n ∨ h = .s) := by
  cases h <;> rfl

namespace Extent

/-- The size of a height in a ratio of width to height. -/
def ofHeight (ratio height : Rat) : Extent Rat := ⟨ratio * height, height⟩

/-- The height for which a size asks, when the one side or the other drives the ratio. -/
def drivenHeight (e : Extent Rat) (byHeight : Bool) (ratio : Rat) : Rat :=
  if byHeight then e.height else e.width / ratio

/-- The smallest height for which in a ratio no side is shorter than the smallest one. -/
def leastHeight (ratio : Rat) : Rat := max 50 (50 / ratio)

/-- The largest height that in a ratio has room on a canvas. -/
def greatestHeight (canvas : Extent Rat) (ratio : Rat) : Rat :=
  min canvas.height (canvas.width / ratio)

variable {ratio : Rat}

/-! ## 1. The corrections of the size, in terms of the height -/

/-- The width that goes with the smallest height. -/
theorem mul_leastHeight (hratio : 0 < ratio) : ratio * leastHeight ratio = max 50 (50 * ratio) := by
  rw [leastHeight, mul_max_of_nonneg _ _ hratio.le, mul_div_cancel₀ _ hratio.ne', max_comm,
    mul_comm]

/-- The width that goes with the largest height. -/
theorem mul_greatestHeight (canvas : Extent Rat) (hratio : 0 < ratio) :
    ratio * greatestHeight canvas ratio = min canvas.width (ratio * canvas.height) := by
  rw [greatestHeight, mul_min_of_nonneg _ _ hratio.le, mul_div_cancel₀ _ hratio.ne', min_comm]

/-- **A locked size is the one of the height asked for**, or of the smallest height. -/
theorem locked_eq (e : Extent Rat) (byHeight : Bool) (hratio : 0 < ratio) :
    e.locked byHeight ratio
      = .ok (ofHeight ratio (max (leastHeight ratio) (e.drivenHeight byHeight ratio))) := by
  unfold locked drivenHeight leastHeight
  simp only [Exact.larger_eq_max, Exact.minSide_eq, Exact.quotient_eq hratio.ne']
  cases byHeight with
  | true =>
    have hmax : max (max 50 (50 / ratio)) e.height = max (50 / ratio) (max 50 e.height) := by
      rw [max_assoc, max_left_comm]
    rw [if_pos rfl, if_pos rfl, hmax]
    by_cases hnarrow : max 50 e.height * ratio < 50
    · have hlow : max 50 e.height ≤ 50 / ratio := ((lt_div_iff₀ hratio).mpr hnarrow).le
      rw [if_pos hnarrow, max_eq_left hlow, ofHeight, mul_div_cancel₀ _ hratio.ne']
      rfl
    · have hhigh : 50 / ratio ≤ max 50 e.height := (div_le_iff₀ hratio).mpr (not_lt.mp hnarrow)
      rw [if_neg hnarrow, max_eq_right hhigh, ofHeight, mul_comm]
  | false =>
    have hmax : max (max 50 (50 / ratio)) (e.width / ratio) = max 50 (max 50 e.width / ratio) := by
      rw [max_assoc, max_div_div_right hratio.le]
    rw [if_neg Bool.false_ne_true, if_neg Bool.false_ne_true, hmax]
    by_cases hlow : max 50 e.width / ratio < 50
    · rw [max_eq_left hlow.le, ofHeight, mul_comm]
      exact if_pos hlow
    · rw [max_eq_right (not_lt.mp hlow), ofHeight, mul_div_cancel₀ _ hratio.ne']
      exact if_neg hlow

/-- **Shrinking a size to the canvas cuts its height down.** -/
theorem fitted_ofHeight (hratio : 0 < ratio) {height : Rat} (hheight : 0 < height)
    (canvas : Extent Rat) :
    (ofHeight ratio height).fitted canvas true
      = .ok (ofHeight ratio (min height (greatestHeight canvas ratio))) := by
  have hwidth : 0 < ratio * height := mul_pos hratio hheight
  have hscaled : height * min (min 1 (canvas.width / (ratio * height))) (canvas.height / height)
      = min height (greatestHeight canvas ratio) := by
    have hacross : height * (canvas.width / (ratio * height)) = canvas.width / ratio := by
      field_simp
    have hdown : height * (canvas.height / height) = canvas.height :=
      mul_div_cancel₀ _ hheight.ne'
    rw [mul_min_of_nonneg _ _ hheight.le, mul_min_of_nonneg _ _ hheight.le, mul_one, hacross,
      hdown, min_assoc, min_comm (canvas.width / ratio), greatestHeight]
  unfold fitted ofHeight
  rw [if_pos rfl, Exact.quotient_eq hwidth.ne', Exact.quotient_eq hheight.ne']
  simp only [Exact.smaller_eq_min, Exact.ofInt_eq, Int.cast_one]
  change Except.ok (Extent.mk (ratio * height * _) (height * _)) = _
  rw [mul_assoc, hscaled]

/-- The smallest height is positive. -/
theorem leastHeight_pos (ratio : Rat) : 0 < leastHeight ratio := lt_max_of_lt_left (by norm_num)

/-- A size of the smallest height or more has no side that is too short. -/
theorem fifty_le_ofHeight (hratio : 0 < ratio) {height : Rat} (h : leastHeight ratio ≤ height) :
    50 ≤ (ofHeight ratio height).width ∧ 50 ≤ (ofHeight ratio height).height := by
  have hwidth := mul_le_mul_of_nonneg_left h hratio.le
  rw [mul_leastHeight hratio] at hwidth
  exact ⟨(le_max_left ..).trans hwidth, (le_max_left ..).trans h⟩

/-- The sizes up to the largest height are those for which the canvas has room. -/
theorem le_greatestHeight_iff (canvas : Extent Rat) (hratio : 0 < ratio) (height : Rat) :
    height ≤ greatestHeight canvas ratio ↔
      (ofHeight ratio height).width ≤ canvas.width ∧
        (ofHeight ratio height).height ≤ canvas.height := by
  rw [greatestHeight, le_min_iff, le_div_iff₀' hratio, and_comm, ofHeight]

/-- A canvas that has room for the smallest size on each axis has room for it in the ratio. -/
theorem leastHeight_le_greatestHeight {canvas : Extent Rat} (hratio : 0 < ratio)
    (hwide : max 50 (50 * ratio) ≤ canvas.width) (hhigh : max 50 (50 / ratio) ≤ canvas.height) :
    leastHeight ratio ≤ greatestHeight canvas ratio :=
  (le_greatestHeight_iff canvas hratio _).mpr ⟨(mul_leastHeight hratio).trans_le hwide, hhigh⟩

end Extent

/-! ## 2. Locked resizes -/

namespace Rect

open Extent

/-- **A locked resize is settled in the height asked for**, brought up to the smallest height and
cut down to the largest. -/
theorem resized_locked_eq (start : Rect Rat) (g : Grip) (dx dy : Rat) (canvas : Extent Rat)
    {ratio : Rat} (hratio : 0 < ratio) (grid : Grid Rat) :
    start.resized g dx dy canvas true ratio grid =
      (start.pinned g (ofHeight ratio
        (min (max (leastHeight ratio) ((g.requested start dx dy).drivenHeight g.byHeight ratio))
          (greatestHeight canvas ratio)))).settled canvas grid := by
  have hkeep : keepsRatio true ratio = true := decide_eq_true hratio
  have hheight : 0 < max (leastHeight ratio)
      ((g.requested start dx dy).drivenHeight g.byHeight ratio) :=
    lt_max_of_lt_left (leastHeight_pos ratio)
  rw [resized_eq, sized, hkeep, if_pos rfl, locked_eq _ _ hratio]
  change (fitted _ canvas true >>= _) = _
  rw [fitted_ofHeight hratio hheight]
  rfl

/-- Without a grid, a box that is neither too small nor too large keeps its size when it is
settled. -/
theorem exists_settled_of_fits {r : Rect Rat} {canvas : Extent Rat} {grid : Grid Rat}
    (hgrid : grid.enabled = false) (hwide : 50 ≤ r.width) (hwidth : r.width ≤ canvas.width)
    (hhigh : 50 ≤ r.height) (hheight : r.height ≤ canvas.height) :
    ∃ r', r.settled canvas grid = .ok r' ∧ r'.OnCanvas canvas ∧
      r'.width = r.width ∧ r'.height = r.height := by
  obtain ⟨r', hr, hon⟩ := r.exists_settled canvas grid
  have hr' := hr
  rw [settled_eq] at hr'
  cases hr'
  exact ⟨_, hr, hon,
    Span.settledLength_eq (s := r.across) (Grid.nearest_of_not_enabled hgrid _) hwide hwidth,
    Span.settledLength_eq (s := r.down) (Grid.nearest_of_not_enabled hgrid _) hhigh hheight⟩

/-- **A locked resize keeps the ratio, and stays large enough and on the canvas**, if the canvas has
room for the smallest size in the ratio.  The side that drives the ratio is the one asked for,
brought between what is smallest and what the canvas has room for. -/
theorem resized_in_ratio (start : Rect Rat) (h : Handle) (dx dy : Rat) (canvas : Extent Rat)
    {ratio : Rat} (hratio : 0 < ratio) (hwide : max 50 (50 * ratio) ≤ canvas.width)
    (hhigh : max 50 (50 / ratio) ≤ canvas.height) (grid : Grid Rat)
    (hgrid : grid.enabled = false) :
    ∃ r, start.resized h.grip dx dy canvas true ratio grid = .ok r ∧
      r.width = ratio * r.height ∧ 50 ≤ r.width ∧ 50 ≤ r.height ∧
      0 ≤ r.x ∧ r.right ≤ canvas.width ∧ 0 ≤ r.y ∧ r.bottom ≤ canvas.height ∧
      if h = .n ∨ h = .s then
        r.height = max (max 50 (50 / ratio))
          (min (min canvas.height (canvas.width / ratio)) (start.down.requested h.down dy))
      else
        r.width = max (max 50 (50 * ratio))
          (min (min canvas.width (ratio * canvas.height))
            (start.across.requested h.across dx)) := by
  have hroom := leastHeight_le_greatestHeight hratio hwide hhigh
  have hresized := resized_locked_eq start h.grip dx dy canvas hratio grid
  rw [requested_grip, h.byHeight_grip] at hresized
  generalize hasked : drivenHeight _ _ ratio = asked at hresized
  -- The two bounds do not cross, so it makes no difference which of them is applied first.
  have hbounds : min (max (leastHeight ratio) asked) (greatestHeight canvas ratio)
      = max (leastHeight ratio) (min (greatestHeight canvas ratio) asked) := by
    rw [min_comm, max_min_distrib_left, max_eq_right hroom]
  obtain ⟨hwide', hhigh'⟩ := fifty_le_ofHeight hratio
    (le_max_left (leastHeight ratio) (min (greatestHeight canvas ratio) asked))
  obtain ⟨hwidth', hheight'⟩ := (le_greatestHeight_iff canvas hratio _).mp
    (max_le hroom (min_le_left (greatestHeight canvas ratio) asked))
  rw [hbounds] at hresized
  obtain ⟨r, hr, hon, hrw, hrh⟩ := exists_settled_of_fits
    (r := start.pinned h.grip (ofHeight ratio _)) hgrid hwide' hwidth' hhigh' hheight'
  refine ⟨r, hresized.trans hr, ?_, ?_, ?_, hon.left, hon.right, hon.top, hon.bottom, ?_⟩
  · rw [hrw, hrh]
    rfl
  · rwa [hrw]
  · rwa [hrh]
  · by_cases hdown : h = .n ∨ h = .s
    · have hheight : start.down.requested h.down dy = asked :=
        (if_pos (decide_eq_true hdown)).symm.trans hasked
      rw [if_pos hdown, hrh, hheight]
      rfl
    · have hwidth : start.across.requested h.across dx / ratio = asked :=
        (if_neg (by simpa using hdown)).symm.trans hasked
      rw [if_neg hdown, hrw, ← mul_leastHeight hratio, ← mul_greatestHeight canvas hratio,
        ← mul_div_cancel₀ (start.across.requested h.across dx) hratio.ne', hwidth,
        ← mul_min_of_nonneg _ _ hratio.le, ← mul_max_of_nonneg _ _ hratio.le]
      rfl

/-- A wide video is pulled up far beyond the canvas: it is as wide as that, and no wider. -/
theorem resized_in_ratio_overshoot :
    let start : Rect Rat := ⟨100, 100, 320, 180⟩
    let canvas : Extent Rat := ⟨504, 846⟩
    (0 < (16 / 9 : Rat) ∧ max 50 (50 * (16 / 9)) ≤ canvas.width ∧
      max 50 (50 / (16 / 9)) ≤ canvas.height) ∧
    ∃ r, start.resized Handle.n.grip 7 (-2000) canvas true (16 / 9) .none = .ok r ∧
      r.width = 16 / 9 * r.height ∧ r.height = 567 / 2 ∧ 0 ≤ r.y ∧ r.bottom ≤ canvas.height := by
  intro start canvas
  have hratio : 0 < (16 / 9 : Rat) := by norm_num
  have hwide : max 50 (50 * (16 / 9)) ≤ canvas.width := by norm_num [canvas]
  have hhigh : max 50 (50 / (16 / 9)) ≤ canvas.height := by norm_num [canvas]
  obtain ⟨r, hr, hkept, -, -, -, -, htop, hbottom, hside⟩ :=
    resized_in_ratio start .n 7 (-2000) canvas hratio hwide hhigh .none rfl
  rw [if_pos (.inl rfl)] at hside
  refine ⟨⟨hratio, hwide, hhigh⟩, r, hr, hkept, hside.trans ?_, htop, hbottom⟩
  norm_num [start, canvas, down, Handle.down, Span.requested]

end Rect

end Compositor
