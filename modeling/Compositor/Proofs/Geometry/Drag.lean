import Compositor.Proofs.Geometry.Nearest
import Compositor.Resize

/-!
# Where a dragged box is put down

A drag asks for a place: the pointer less the point of the box at which it was grabbed.  What it gets
is settled on each axis by itself, in three steps.  The coordinate is brought between zero and the
farthest one for which the box lies on the canvas, it is snapped, and it is brought there once more
(`Grid.placed`).

The first step is the nearest point at which the box may lie.  The other two move it by half a cell
at most, and off the grid lines only onto the farthest coordinate (`Grid.placed_cases`).  There lies
the one question that is not plain: a box that rests at the border, off the grid, is snapped again
when it is grabbed the next time, and might snap away from the border.  It does not.  It came to the
border because a coordinate before it snapped beyond it, and snapping keeps the order; so the border
snaps beyond itself, too, and is cut back to where it was (`Grid.placed_placed`).
-/

namespace Compositor

/-! ## 1. The nearest point of an interval -/

namespace Exact

/-- Of the points from zero to a limit, `x` is the one nearest to `v`, and no other is as near.  With
a limit below zero there is the point zero alone. -/
structure NearestIn (limit v x : Rat) : Prop where
  low : 0 ≤ x
  high : x ≤ max 0 limit
  nearest : ∀ y, 0 ≤ y → y ≤ max 0 limit → y ≠ x → |x - v| < |y - v|

/-- **What is brought between zero and a limit is brought to the nearest point.** -/
theorem nearestIn_clamp (limit v : Rat) : NearestIn limit v (max 0 (min limit v)) := by
  refine ⟨le_max_left .., max_le_max_left 0 (min_le_left limit v), ?_⟩
  intro y hlow hhigh hne
  rcases lt_or_ge limit 0 with hneg | hroom
  · -- there is one point only
    rw [max_eq_left hneg.le] at hhigh
    rw [max_eq_left ((min_le_left limit v).trans hneg.le)] at hne
    exact absurd (le_antisymm hhigh hlow) hne
  · rw [max_eq_right hroom] at hhigh
    rcases le_total v limit with hv | hv
    · rw [min_eq_right hv] at hne ⊢
      rcases le_total 0 v with hpos | hneg
      · rw [max_eq_right hpos] at hne ⊢
        rw [sub_self, abs_zero]
        exact abs_pos.mpr (sub_ne_zero.mpr hne)
      · rw [max_eq_left hneg] at hne ⊢
        have hy : 0 < y := lt_of_le_of_ne hlow hne.symm
        rw [abs_of_nonneg (by linarith), abs_of_nonneg (by linarith)]
        linarith
    · rw [min_eq_left hv, max_eq_right hroom] at hne ⊢
      have hy : y < limit := lt_of_le_of_ne hhigh hne
      rw [abs_of_nonpos (by linarith), abs_of_nonpos (by linarith)]
      linarith

/-- A point that is between zero and the limit already stays where it is. -/
theorem clamp_of_between {limit x : Rat} (hlow : 0 ≤ x) (hhigh : x ≤ max 0 limit) :
    max 0 (min limit x) = x := by
  rcases le_total limit 0 with hneg | hroom
  · rw [max_eq_left hneg] at hhigh
    have hx : x = 0 := le_antisymm hhigh hlow
    rw [hx, min_eq_left hneg, max_eq_left hneg]
  · rw [max_eq_right hroom] at hhigh
    rw [min_eq_right hhigh, max_eq_right hlow]

end Exact

/-! ## 2. Along one axis -/

namespace Grid

/-- Where a coordinate is put down that may be as large as `limit`: brought into its bounds, snapped,
and brought into its bounds once more. -/
def placed (g : Grid Rat) (limit v : Rat) : Rat :=
  max 0 (min limit (g.nearest (max 0 (min limit v))))

variable {g : Grid Rat}

/-- A coordinate that is in its bounds and on the grid is put down where it is. -/
theorem placed_of_nearest_eq {limit v : Rat} (hlow : 0 ≤ v) (hhigh : v ≤ max 0 limit)
    (hsnap : g.nearest v = v) : g.placed limit v = v := by
  have hinside := Exact.clamp_of_between hlow hhigh
  rw [placed, hinside, hsnap, hinside]

/-- Where nothing snaps, a coordinate is brought into its bounds. -/
theorem placed_of_not_snaps (hg : ¬ g.Snaps) (limit v : Rat) :
    g.placed limit v = max 0 (min limit v) := by
  have hin := Exact.nearestIn_clamp limit v
  rw [placed, nearest_of_not_snaps hg, Exact.clamp_of_between hin.low hin.high]

/-- **The two ways to be put down on a grid**: on the grid line to which the coordinate in its bounds
snaps, or at the limit, because that line lies beyond it. -/
theorem placed_cases (hg : g.Snaps) (limit v : Rat) :
    g.placed limit v = g.nearest (max 0 (min limit v)) ∨
    (g.placed limit v = limit ∧ max 0 (min limit v) ≤ limit ∧
      limit < g.nearest (max 0 (min limit v))) := by
  obtain ⟨hlow, hhigh, -⟩ := Exact.nearestIn_clamp limit v
  unfold placed
  generalize max 0 (min limit v) = p at hlow hhigh ⊢
  have hsnapped : 0 ≤ g.nearest p := nearest_nonneg hg hlow
  rcases lt_or_ge limit 0 with hneg | hroom
  · -- without room the coordinate is zero, which is a grid line
    rw [max_eq_left hneg.le] at hhigh
    have hp : p = 0 := le_antisymm hhigh hlow
    rw [hp, line_zero.nearest_eq hg, min_eq_left hneg.le, max_eq_left hneg.le]
    exact .inl rfl
  · rw [max_eq_right hroom] at hhigh
    rcases le_or_gt (g.nearest p) limit with hin | hbeyond
    · rw [min_eq_right hin, max_eq_right hsnapped]
      exact .inl rfl
    · rw [min_eq_left hbeyond.le, max_eq_right hroom]
      exact .inr ⟨rfl, hhigh, hbeyond⟩

/-- A coordinate is put down in its bounds. -/
theorem placed_between (limit v : Rat) : 0 ≤ g.placed limit v ∧ g.placed limit v ≤ max 0 limit := by
  have hin := Exact.nearestIn_clamp limit (g.nearest (max 0 (min limit v)))
  exact ⟨hin.low, hin.high⟩

/-- **A coordinate that was put down is put down where it is.** -/
theorem placed_placed (limit v : Rat) : g.placed limit (g.placed limit v) = g.placed limit v := by
  obtain ⟨hlow, hhigh⟩ := placed_between (g := g) limit v
  by_cases hg : g.Snaps
  · rcases placed_cases hg limit v with hline | ⟨hborder, hbefore, hbeyond⟩
    · apply placed_of_nearest_eq hlow hhigh
      rw [hline]
      exact (line_nearest hg _).nearest_eq hg
    · -- what lay before the limit snapped beyond it, so the limit does as well
      rw [hborder] at hlow hhigh ⊢
      have hagain : limit < g.nearest limit := hbeyond.trans_le (nearest_mono hg hbefore)
      rw [placed, Exact.clamp_of_between hlow hhigh, min_eq_left hagain.le, max_eq_right hlow]
  · exact placed_of_nearest_eq hlow hhigh (nearest_of_not_snaps hg _)

/-- Where a coordinate may come to rest that is asked for at `asked` and may be as large as `limit`:
at the nearest point in its bounds, or on a grid within half a cell of that point and on a grid line,
unless it is at the limit. -/
def RestsAt (g : Grid Rat) (limit asked x : Rat) : Prop :=
  ∃ point, Exact.NearestIn limit asked point ∧
    (¬ g.Snaps → x = point) ∧
    (g.Snaps → |x - point| ≤ g.size / 2 ∧ (x ≠ limit → g.Line x))

/-- **A coordinate is put down where it may come to rest.** -/
theorem restsAt_placed (limit v : Rat) : g.RestsAt limit v (g.placed limit v) := by
  refine ⟨max 0 (min limit v), Exact.nearestIn_clamp limit v, ?_, ?_⟩
  · intro hg
    exact placed_of_not_snaps hg limit v
  · intro hg
    have hhalf := abs_nearest_sub_le hg (max 0 (min limit v))
    rcases placed_cases hg limit v with hline | ⟨hborder, hbefore, hbeyond⟩
    · rw [hline]
      exact ⟨hhalf, fun _ => line_nearest hg _⟩
    · rw [abs_le] at hhalf
      rw [hborder, abs_of_nonneg (sub_nonneg.mpr hbefore)]
      exact ⟨by linarith, fun hne => absurd rfl hne⟩

end Grid

/-! ## 3. Boxes -/

namespace Extent

/-- A box is dragged on each axis by itself. -/
theorem dragged_eq (size canvas : Extent Rat) (pointer grab : Point Rat) (grid : Grid Rat) :
    size.dragged canvas pointer grab grid
      = .ok ⟨grid.placed (canvas.width - size.width) (pointer.x - grab.x),
          grid.placed (canvas.height - size.height) (pointer.y - grab.y)⟩ := by
  simp only [dragged, keepInside, Grid.snap_eq, Exact.clamp_eq, Exact.ofInt_eq, Int.cast_zero]
  rfl

/-- A box on the canvas, on the grid if there is one, that is grabbed and not moved stays where it
is. -/
theorem dragged_still {size canvas : Extent Rat} {grid : Grid Rat} (place : Point Rat)
    (hleft : 0 ≤ place.x) (hright : place.x + size.width ≤ canvas.width)
    (htop : 0 ≤ place.y) (hbottom : place.y + size.height ≤ canvas.height)
    (hx : grid.nearest place.x = place.x) (hy : grid.nearest place.y = place.y) (q : Point Rat) :
    size.dragged canvas q ⟨q.x - place.x, q.y - place.y⟩ grid = .ok place := by
  have hwide : place.x ≤ max 0 (canvas.width - size.width) :=
    le_max_of_le_right (le_sub_iff_add_le.mpr hright)
  have hhigh : place.y ≤ max 0 (canvas.height - size.height) :=
    le_max_of_le_right (le_sub_iff_add_le.mpr hbottom)
  rw [dragged_eq]
  simp only [sub_sub_cancel]
  rw [Grid.placed_of_nearest_eq hleft hwide hx, Grid.placed_of_nearest_eq htop hhigh hy]

/-- **Where a drag puts a box, and that it stays there.**  On each axis the box comes to rest at the
place asked for, as near to it as the canvas allows; on a grid, within half a cell of there and on a
grid line, unless it is at the far border.  And there is no creep: whoever grabs the box again,
wherever the pointer is, and does not move, leaves it where it is. -/
theorem dragged_rests (size canvas : Extent Rat) (pointer grab : Point Rat) (grid : Grid Rat) :
    ∃ place, size.dragged canvas pointer grab grid = .ok place ∧
      grid.RestsAt (canvas.width - size.width) (pointer.x - grab.x) place.x ∧
      grid.RestsAt (canvas.height - size.height) (pointer.y - grab.y) place.y ∧
      ∀ q : Point Rat,
        size.dragged canvas q ⟨q.x - place.x, q.y - place.y⟩ grid = .ok place := by
  refine ⟨_, dragged_eq .., Grid.restsAt_placed .., Grid.restsAt_placed .., ?_⟩
  intro q
  rw [dragged_eq]
  simp only [sub_sub_cancel, Grid.placed_placed]

/-- A box is dragged beyond the right border, where it rests off the grid, and is grabbed again. -/
theorem dragged_rests_border :
    let size : Extent Rat := ⟨169, 100⟩
    let canvas : Extent Rat := ⟨504, 846⟩
    let grid : Grid Rat := ⟨true, 20⟩
    size.dragged canvas ⟨900, 33⟩ ⟨7, 5⟩ grid = .ok ⟨335, 20⟩ ∧
    (grid.Snaps ∧ ¬ grid.Line 335 ∧ grid.RestsAt (canvas.width - size.width) (900 - 7) 335) ∧
    ∀ q : Point Rat, size.dragged canvas q ⟨q.x - 335, q.y - 20⟩ grid = .ok ⟨335, 20⟩ := by
  intro size canvas grid
  have hplace : size.dragged canvas ⟨900, 33⟩ ⟨7, 5⟩ grid = .ok ⟨335, 20⟩ := by
    rw [dragged_eq]
    exact congrArg Except.ok (by decide +kernel)
  have hsnaps : grid.Snaps := ⟨rfl, by norm_num [grid]⟩
  have hoff : ¬ grid.Line 335 := by
    rintro ⟨k, hk⟩
    change (335 : Rat) = k * 20 at hk
    have hwhole : (335 : ℤ) = k * 20 := by exact_mod_cast hk
    omega
  obtain ⟨place, hdragged, hacross, -, hstays⟩ :=
    dragged_rests size canvas ⟨900, 33⟩ ⟨7, 5⟩ grid
  rw [hplace] at hdragged
  cases hdragged
  exact ⟨hplace, ⟨hsnaps, hoff, hacross⟩, hstays⟩

end Extent

end Compositor
