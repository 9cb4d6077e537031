import Compositor.Proofs.Geometry.Nearest
import Compositor.Proofs.Geometry.Span

/-!
# What a resize leaves off the grid

When a box is settled, start and length are snapped, and then each is corrected once more: the length
is brought between the smallest one and the side, and the start to where there is room for the length
that came of it.  The second correction depends on the first, so one might fear that it takes the
start anywhere.  It does not.  A number that is brought into bounds either stays where it is or comes
to a bound; the lower bound of a start is zero, which is a grid line; and so what is off the grid is
at a limit (`Span.onGrid_settled`).  Where the limits themselves are grid lines, nothing is
(`Span.OnGrid.lines`).

It makes no difference from which box the resize came, by which handle, or whether the ratio was
kept: all of that was decided before the box is settled (`Rect.resized_onGrid`).
-/

namespace Compositor

/-- What is brought into bounds stays where it is, or comes to one of them. -/
theorem Exact.clamp_cases (lo hi v : Rat) :
    max lo (min hi v) = v ∨ max lo (min hi v) = lo ∨ max lo (min hi v) = hi := by
  rcases max_choice lo (min hi v) with hlow | hrest
  · exact .inr (.inl hlow)
  · rw [hrest]
    rcases min_choice hi v with hhigh | hsame
    · exact .inr (.inr hhigh)
    · exact .inl hsame

namespace Span

/-- A span with its numbers on grid lines, except at a limit: a length may be the smallest one, as
far as the side has room for it, or the whole side, and a span may start where it ends with its
side. -/
structure OnGrid (s : Span) (side : Rat) (grid : Grid Rat) : Prop where
  length : grid.Line s.length ∨ s.length = min 50 side ∨ s.length = side
  start : grid.Line s.start ∨ s.start = side - s.length

variable {side : Rat} {grid : Grid Rat}

/-- **What is settled is on the grid, except at a limit.** -/
theorem onGrid_settled (hgrid : grid.Snaps) (s : Span) : (s.settled side grid).OnGrid side grid where
  length := by
    change grid.Line (s.settledLength side grid) ∨ s.settledLength side grid = _ ∨
      s.settledLength side grid = _
    rcases Exact.clamp_cases (min 50 side) side (grid.nearest s.length) with hline | hbound
    · rw [settledLength, hline]
      exact .inl (Grid.line_nearest hgrid s.length)
    · exact .inr hbound
  start := by
    unfold settled
    dsimp only
    generalize max 0 (min (side - s.length) s.start) = inside
    rcases Exact.clamp_cases 0 (side - s.settledLength side grid) (grid.nearest inside) with
      hline | hzero | hroom
    · rw [hline]
      exact .inl (Grid.line_nearest hgrid inside)
    · rw [hzero]
      exact .inl Grid.line_zero
    · exact .inr hroom

/-- Where the limits are grid lines, there are no exceptions. -/
theorem OnGrid.lines {s : Span} (h : s.OnGrid side grid) (hleast : grid.Line 50)
    (hside : grid.Line side) : grid.Line s.start ∧ grid.Line s.length := by
  have hlimit : grid.Line (min 50 side) := by
    rcases min_choice 50 side with heq | heq
    · rwa [heq]
    · rwa [heq]
  have hlength : grid.Line s.length := by
    rcases h.length with hline | heq | heq
    · exact hline
    · rwa [heq]
    · rwa [heq]
  refine ⟨?_, hlength⟩
  rcases h.start with hline | heq
  · exact hline
  · rw [heq]
    exact hside.sub hlength

end Span

namespace Rect

/-- **A resize on a grid gives a box on the grid, except at its limits**, whatever box it starts
from, whichever handle is pulled how far, and whether the ratio is kept or not.  On each axis the
length is that between two grid lines, or the smallest one, or that of the canvas; and the box starts
at a grid line or ends at the border.  With the smallest length and both borders of the canvas on
grid lines, all four numbers are. -/
theorem resized_onGrid {grid : Grid Rat} (hgrid : grid.Snaps) (start : Rect Rat) (h : Handle)
    (dx dy : Rat) (canvas : Extent Rat) (aspectLocked : Bool) (ratio : Rat) :
    ∃ r, start.resized h.grip dx dy canvas aspectLocked ratio grid = .ok r ∧
      r.across.OnGrid canvas.width grid ∧ r.down.OnGrid canvas.height grid ∧
      (grid.Line 50 → grid.Line canvas.width → grid.Line canvas.height →
        (grid.Line r.x ∧ grid.Line r.width) ∧ (grid.Line r.y ∧ grid.Line r.height)) := by
  obtain ⟨box, hbox⟩ :=
    start.exists_resized_eq_settled h.grip dx dy canvas aspectLocked ratio grid
  have hacross : (box.across.settled canvas.width grid).OnGrid canvas.width grid :=
    Span.onGrid_settled hgrid box.across
  have hdown : (box.down.settled canvas.height grid).OnGrid canvas.height grid :=
    Span.onGrid_settled hgrid box.down
  exact ⟨_, hbox.trans (settled_eq ..), hacross, hdown,
    fun hleast hwidth hheight => ⟨hacross.lines hleast hwidth, hdown.lines hleast hheight⟩⟩

/-- A box near the right border, off the grid, is pulled out at its right edge.  Its width snaps to
more than there is room for behind it, and so it ends at the border and starts off the grid. -/
theorem resized_onGrid_border :
    let start : Rect Rat := ⟨440, 27, 50, 187⟩
    let canvas : Extent Rat := ⟨504, 846⟩
    let grid : Grid Rat := ⟨true, 40⟩
    grid.Snaps ∧
    start.resized Handle.e.grip 10 0 canvas false 1 grid = .ok ⟨424, 40, 80, 200⟩ ∧
    ¬ grid.Line 424 ∧ Span.OnGrid ⟨424, 80⟩ 504 grid ∧ Span.OnGrid ⟨40, 200⟩ 846 grid := by
  intro start canvas grid
  have hgrid : grid.Snaps := ⟨rfl, by norm_num [grid]⟩
  have hbox : (start.resized Handle.e.grip 10 0 canvas false 1 grid).toOption
      = some ⟨424, 40, 80, 200⟩ := by decide +kernel
  have hoff : ¬ grid.Line 424 := by
    rintro ⟨k, hk⟩
    change (424 : Rat) = k * 40 at hk
    have hwhole : (424 : ℤ) = k * 40 := by exact_mod_cast hk
    omega
  obtain ⟨r, hr, hacross, hdown, -⟩ := resized_onGrid hgrid start .e 10 0 canvas false 1
  rw [hr] at hbox
  cases hbox
  exact ⟨hgrid, hr, hoff, hacross, hdown⟩

end Rect

end Compositor
