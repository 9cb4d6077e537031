import Compositor.Proofs.Geometry.Nearest
import Compositor.Proofs.Geometry.Pull

/-!
# Pulling a handle on a grid

The edge opposite a handle is meant to stay where it is.  On a grid it need not, although the box
that was pulled lay on grid lines and the one asked for lies on the canvas: where a span begins and
how long it is are snapped each by itself, and the edge opposite is the sum of both.

An upper end that is meant to stay is off for two reasons (`Span.pinned_settled_low_iff`).  In the
middle of a cell start and length both go up, and the end goes up by a cell; and a length that snaps
to less than the smallest one is brought up again when the start is settled already.  Only at the
border of the canvas neither shows, because the span is put inside once more.  A lower end starts on
its line and snaps to it; it is off when the snapped length has no room behind it
(`Span.pinned_settled_high_iff`).  These are all the ways: elsewhere the edge stays
(`Rect.opposite_edges_stay_iff`).
-/

namespace Compositor

/-! ## 1. Along one axis -/

/-- What is cut off at a bound it does not exceed by itself is unchanged if nothing was added, or at
the bound. -/
theorem Exact.min_add_eq_iff {bound v more : Rat} (hv : v ≤ bound) (hmore : 0 ≤ more) :
    min bound (v + more) = v ↔ v = bound ∨ more = 0 := by
  constructor
  · intro h
    rcases min_choice bound (v + more) with hbound | hsum
    · exact .inl (h.symm.trans hbound)
    · exact .inr (left_eq_add.mp (h.symm.trans hsum))
  · rintro (rfl | rfl)
    · exact min_eq_left (le_add_of_nonneg_right hmore)
    · rw [add_zero, min_eq_right hv]

namespace Span

variable {s : Span} {side length : Rat} {grid : Grid Rat}

/-- When the end that is not pulled stays where it is, for the length that a pull asks for: an upper
one at the border of its side, or if the length is not in the middle of a cell and snaps to no less
than the smallest one; a lower one at the border, or if there is room for the snapped length. -/
def StaysPinned (s : Span) (p : Pull) (length side : Rat) (grid : Grid Rat) : Prop :=
  match p with
  | .low =>
    s.stop = side ∨ (50 ≤ grid.nearest length ∧ grid.nearest length < length + grid.size / 2)
  | .high => s.start = 0 ∨ s.start + grid.nearest length ≤ side
  | .neither => True

/-- A length for which the side has room is settled between the smallest length and the side. -/
theorem settledLength_of_le {t : Span} (hlong : 50 ≤ t.length) (hfits : t.length ≤ side) :
    t.settledLength side grid = max 50 (min side (grid.nearest t.length)) := by
  rw [settledLength, min_eq_left (hlong.trans hfits)]

/-- Where the upper end comes to lie when the lower one is pulled. -/
theorem stop_settled_low (hgrid : grid.Snaps) (hline : grid.Line s.stop) (hlong : 50 ≤ length)
    (hinside : (s.pinned .low length).Inside side) :
    ((s.pinned .low length).settled side grid).stop
      = min side (grid.nearest (s.stop - length) + max 50 (grid.nearest length)) := by
  have hstart : 0 ≤ grid.nearest (s.stop - length) := Grid.nearest_nonneg hgrid hinside.1
  have hstop : s.stop ≤ side := (sub_add_cancel s.stop length).symm.trans_le hinside.2
  have hlength : length ≤ s.stop := sub_nonneg.mp hinside.1
  have hsnapped : grid.nearest length ≤ side := (hline.nearest_le hgrid hlength).trans hstop
  have hsettled : (s.pinned .low length).settledLength side grid = max 50 (grid.nearest length) :=
    (settledLength_of_le hlong (hlength.trans hstop)).trans
      (congrArg (max 50) (min_eq_right hsnapped))
  have hroom : 0 ≤ side - max 50 (grid.nearest length) :=
    sub_nonneg.mpr (max_le (hlong.trans (hlength.trans hstop)) hsnapped)
  rw [stop, settled, hinside.clamp_eq, hsettled]
  change max 0 (min _ (grid.nearest (s.stop - length))) + _ = _
  rw [max_eq_right (le_min hroom hstart), min_add, sub_add_cancel]

/-- **When the upper end stays if the lower one is pulled.** -/
theorem pinned_settled_low_iff (hgrid : grid.Snaps) (hline : grid.Line s.stop)
    (hlong : 50 ≤ length) (hinside : (s.pinned .low length).Inside side) :
    s.Pinned .low ((s.pinned .low length).settled side grid)
      ↔ s.StaysPinned .low length side grid := by
  have hstop : s.stop ≤ side := (sub_add_cancel s.stop length).symm.trans_le hinside.2
  have hraised := le_max_right 50 (grid.nearest length)
  have hsize := hgrid.2
  unfold Pinned StaysPinned
  dsimp only
  rw [stop_settled_low hgrid hline hlong hinside]
  rcases Grid.nearest_line_sub hgrid hline length with ⟨hhalf, hstart⟩ | ⟨hhalf, hstart⟩
  · have hsum : s.stop - grid.nearest length + max 50 (grid.nearest length)
        = s.stop + (max 50 (grid.nearest length) - grid.nearest length) := by ring
    rw [hstart, hsum, Exact.min_add_eq_iff hstop (sub_nonneg.mpr hraised), sub_eq_zero,
      max_eq_right_iff]
    exact or_congr_right (and_iff_left hhalf).symm
  · have hsum : s.stop - grid.nearest length + grid.size + max 50 (grid.nearest length)
        = s.stop + (max 50 (grid.nearest length) - grid.nearest length + grid.size) := by ring
    have hmore : 0 < max 50 (grid.nearest length) - grid.nearest length + grid.size :=
      add_pos_of_nonneg_of_pos (sub_nonneg.mpr hraised) hsize
    rw [hstart, hsum, Exact.min_add_eq_iff hstop hmore.le]
    exact or_congr_right ⟨fun h => absurd h hmore.ne', fun h => absurd hhalf h.2.ne⟩

/-- **When the lower end stays if the upper one is pulled.** -/
theorem pinned_settled_high_iff (hgrid : grid.Snaps) (hline : grid.Line s.start)
    (hlong : 50 ≤ length) (hinside : (s.pinned .high length).Inside side) :
    s.Pinned .high ((s.pinned .high length).settled side grid)
      ↔ s.StaysPinned .high length side grid := by
  have hstart : 0 ≤ s.start := hinside.1
  have hlength : length ≤ side - s.start := le_sub_iff_add_le'.mpr hinside.2
  have hside : length ≤ side := hlength.trans (sub_le_self _ hstart)
  have hsettled : (s.pinned .high length).settledLength side grid
      = max 50 (min side (grid.nearest length)) := settledLength_of_le hlong hside
  have hroom : 0 ≤ side - max 50 (min side (grid.nearest length)) :=
    sub_nonneg.mpr (max_le (hlong.trans hside) (min_le_left ..))
  unfold Pinned StaysPinned
  dsimp only
  rw [settled, hinside.clamp_eq, hsettled]
  change max 0 (min _ (grid.nearest s.start)) = s.start ↔ _
  rw [hline.nearest_eq hgrid, max_eq_right (le_min hroom hstart), min_eq_right_iff,
    le_sub_comm, max_le_iff, min_le_iff, and_iff_right (hlong.trans hlength), le_sub_self_iff,
    le_sub_iff_add_le']
  exact or_congr_left hstart.ge_iff_eq'

/-- On an axis that is not pulled a span on grid lines stays as it is. -/
theorem settled_of_lines (hgrid : grid.Snaps) (hstart : grid.Line s.start)
    (hstop : grid.Line s.stop) (hlong : 50 ≤ s.length) (hinside : s.Inside side) :
    s.settled side grid = s := by
  have hlength : grid.Line s.length := add_sub_cancel_left s.start s.length ▸ hstop.sub hstart
  exact hinside.settled_eq hlong (hstart.nearest_eq hgrid) (hlength.nearest_eq hgrid)

/-- **When the end that is not pulled stays.** -/
theorem pinned_settled_iff (hgrid : grid.Snaps) (hstart : grid.Line s.start)
    (hstop : grid.Line s.stop) (hs : 50 ≤ s.length) (hin : s.Inside side) (p : Pull) {d : Rat}
    (hinside : (s.pinned p (max 50 (s.requested p d))).Inside side) :
    s.Pinned p ((s.pinned p (max 50 (s.requested p d))).settled side grid)
      ↔ s.StaysPinned p (max 50 (s.requested p d)) side grid := by
  cases p with
  | low => exact pinned_settled_low_iff hgrid hstop (le_max_left ..) hinside
  | high => exact pinned_settled_high_iff hgrid hstart (le_max_left ..) hinside
  | neither =>
    have hsame : s.pinned .neither (max 50 (s.requested .neither d)) = s :=
      follows_pinned hs .neither d
    rw [hsame, settled_of_lines hgrid hstart hstop hs hin]
    exact iff_of_true rfl trivial

end Span

/-! ## 2. Boxes -/

namespace Rect

/-- A free video on grid lines on the canvas, and a pull that asks for a box on the canvas. -/
structure PullOnGrid (start : Rect Rat) (h : Handle) (dx dy : Rat) (canvas : Extent Rat)
    (ratio : Rat) (grid : Grid Rat) : Prop where
  snaps : grid.Snaps
  wide : 50 ≤ start.width
  high : 50 ≤ start.height
  inside : start.Inside canvas
  left : grid.Line start.x
  right : grid.Line start.right
  top : grid.Line start.y
  bottom : grid.Line start.bottom
  asked : (start.asked h dx dy false ratio).Inside canvas

/-- **When the edges opposite a handle stay where they are**, for a free video on grid lines on the
canvas and a pull that asks for a box on the canvas. -/
theorem opposite_edges_stay_iff {start : Rect Rat} {h : Handle} {dx dy : Rat} {canvas : Extent Rat}
    {ratio : Rat} {grid : Grid Rat} (hpull : start.PullOnGrid h dx dy canvas ratio grid) :
    ∃ r, start.resized h.grip dx dy canvas false ratio grid = .ok r ∧
      (start.across.Pinned h.across r.across ↔
        start.across.StaysPinned h.across (max 50 (start.across.requested h.across dx))
          canvas.width grid) ∧
      (start.down.Pinned h.down r.down ↔
        start.down.StaysPinned h.down (max 50 (start.down.requested h.down dy))
          canvas.height grid) := by
  refine ⟨_, (resized_eq_settled hpull.asked).trans (settled_eq ..), ?_, ?_⟩
  · exact Span.pinned_settled_iff (s := start.across) hpull.snaps hpull.left hpull.right hpull.wide
      hpull.inside.across h.across hpull.asked.across
  · exact Span.pinned_settled_iff (s := start.down) hpull.snaps hpull.top hpull.bottom hpull.high
      hpull.inside.down h.down hpull.asked.down

/-- A square video on the lines of a grid may be pulled wherever the box asked for lies on the
canvas. -/
theorem pullOnGrid_square {h : Handle} {dx dy : Rat}
    (hasked : (asked ⟨100, 100, 200, 200⟩ h dx dy false 1).Inside ⟨504, 846⟩) :
    PullOnGrid ⟨100, 100, 200, 200⟩ h dx dy ⟨504, 846⟩ 1 ⟨true, 20⟩ := by
  refine ⟨⟨rfl, ?_⟩, ?_, ?_, ?_, ⟨5, ?_⟩, ⟨15, ?_⟩, ⟨5, ?_⟩, ⟨15, ?_⟩, hasked⟩
  case refine_4 => constructor <;> norm_num [Rect.right, Rect.bottom]
  all_goals norm_num [Rect.right, Rect.bottom]

/-- The upper left corner is pulled out by whole cells across and in by a part of a cell
downwards. -/
theorem opposite_edges_stay_iff_corner :
    let start : Rect Rat := ⟨100, 100, 200, 200⟩
    start.PullOnGrid .nw (-60) 13 ⟨504, 846⟩ 1 ⟨true, 20⟩ ∧
    ∃ r, start.resized Handle.nw.grip (-60) 13 ⟨504, 846⟩ false 1 ⟨true, 20⟩ = .ok r ∧
      start.across.Pinned .low r.across ∧ start.down.Pinned .low r.down := by
  intro start
  have hasked : start.asked .nw (-60) 13 false 1 = ⟨40, 113, 260, 187⟩ := by decide +kernel
  have hpull : start.PullOnGrid .nw (-60) 13 ⟨504, 846⟩ 1 ⟨true, 20⟩ :=
    pullOnGrid_square (hasked ▸ by constructor <;> decide +kernel)
  obtain ⟨r, hr, hleft, htop⟩ := opposite_edges_stay_iff hpull
  refine ⟨hpull, r, hr, hleft.mpr (.inr ?_), htop.mpr (.inr ?_)⟩
  · decide +kernel
  · decide +kernel

/-- The left edge is pulled in by half a cell: it goes in by a whole one, the width stays, and so the
right edge goes out by a cell. -/
theorem opposite_edge_leaves :
    let start : Rect Rat := ⟨100, 100, 200, 200⟩
    start.PullOnGrid .w 10 0 ⟨504, 846⟩ 1 ⟨true, 20⟩ ∧
    start.resized Handle.w.grip 10 0 ⟨504, 846⟩ false 1 ⟨true, 20⟩ = .ok ⟨120, 100, 200, 200⟩ ∧
    ¬ start.across.Pinned .low (across ⟨120, 100, 200, 200⟩) := by
  intro start
  have hasked : start.asked .w 10 0 false 1 = ⟨110, 100, 190, 200⟩ := by decide +kernel
  have hpull : start.PullOnGrid .w 10 0 ⟨504, 846⟩ 1 ⟨true, 20⟩ :=
    pullOnGrid_square (hasked ▸ by constructor <;> decide +kernel)
  refine ⟨hpull, ?_, ?_⟩
  · rw [resized_eq_settled hpull.asked, settled_eq, hasked]
    exact congrArg Except.ok (by decide +kernel)
  · norm_num [Span.Pinned, Span.stop, across, start]

end Rect

end Compositor
