import Compositor.Proofs.Geometry.Inside

/-!
# One axis of a resize

A resize treats the two axes alike, and after the size is known it treats them apart: where the box
ends across does not depend on where it ends downwards.  So what is said of its edges is said of a
*span*, the box as seen along one axis, which a handle pulls at its low end, at its high end or not
at all (`Pull`).

Three corrections come after the size: the span is put inside its side, start and length are snapped
each by itself, and what came of it is put inside once more (`Span.settled`).  On a span that lies
inside, and is no shorter than the smallest one, without a grid, none of them does anything
(`Span.settled_of_inside`).
-/

namespace Compositor

/-- What a handle pulls of a span: its low end, its high end, or neither. -/
inductive Pull where
  | low
  | high
  | neither
deriving DecidableEq, Repr

/-- A box along one axis. -/
@[ext]
structure Span where
  start : Rat
  length : Rat

namespace Span

/-- The high end of a span. -/
def stop (s : Span) : Rat := s.start + s.length

/-- The length that a pull by `d` asks for. -/
def requested (s : Span) (p : Pull) (d : Rat) : Rat :=
  match p with
  | .low => s.length - d
  | .high => s.length + d
  | .neither => s.length

/-- The span of another length, pinned at the end that is not pulled. -/
def pinned (s : Span) (p : Pull) (length : Rat) : Span :=
  match p with
  | .low => ⟨s.stop - length, length⟩
  | .high | .neither => ⟨s.start, length⟩

/-- A span is pinned in the length that it is given. -/
@[simp] theorem length_pinned (s : Span) (p : Pull) (length : Rat) :
    (s.pinned p length).length = length := by
  cases p <;> rfl

/-- The span lies in a side. -/
def Inside (s : Span) (side : Rat) : Prop := 0 ≤ s.start ∧ s.stop ≤ side

/-- The length that is left after snapping and cutting down to the side. -/
def settledLength (s : Span) (side : Rat) (grid : Grid Rat) : Rat :=
  max (min 50 side) (min side (grid.nearest s.length))

/-- The span put inside its side, snapped, and put inside once more. -/
def settled (s : Span) (side : Rat) (grid : Grid Rat) : Span where
  start :=
    max 0 (min (side - s.settledLength side grid)
      (grid.nearest (max 0 (min (side - s.length) s.start))))
  length := s.settledLength side grid

/-! ## 1. Spans that need no correction -/

/-- A span that lies inside is not moved when it is put inside. -/
theorem Inside.clamp_eq {s : Span} {side : Rat} (h : s.Inside side) :
    max 0 (min (side - s.length) s.start) = s.start := by
  obtain ⟨hlow, hhigh⟩ := h
  have hroom : s.start ≤ side - s.length := le_sub_iff_add_le.mpr hhigh
  rw [min_eq_right hroom, max_eq_right hlow]

/-- A span that lies inside is no longer than its side. -/
theorem Inside.length_le {s : Span} {side : Rat} (h : s.Inside side) : s.length ≤ side :=
  (le_add_of_nonneg_left h.1).trans h.2

/-- A length that snapping leaves alone, between the smallest one and the side, is kept. -/
theorem settledLength_eq {s : Span} {side : Rat} {grid : Grid Rat}
    (hsnap : grid.nearest s.length = s.length) (hlong : 50 ≤ s.length) (hfits : s.length ≤ side) :
    s.settledLength side grid = s.length := by
  rw [settledLength, hsnap, min_eq_right hfits, max_eq_right ((min_le_left ..).trans hlong)]

/-- **A span inside its side, of which snapping leaves start and length alone, is settled.** -/
theorem Inside.settled_eq {s : Span} {side : Rat} (h : s.Inside side) (hlong : 50 ≤ s.length)
    {grid : Grid Rat} (hstart : grid.nearest s.start = s.start)
    (hlength : grid.nearest s.length = s.length) : s.settled side grid = s := by
  have hkept := settledLength_eq hlength hlong h.length_le
  ext
  · rw [settled, hkept, h.clamp_eq, hstart, h.clamp_eq]
  · exact hkept

end Span

/-- A grid that is switched off leaves every coordinate where it is. -/
theorem Grid.nearest_of_not_enabled {grid : Grid Rat} (h : grid.enabled = false) (v : Rat) :
    grid.nearest v = v := if_neg fun hon => Bool.false_ne_true (h.symm.trans hon.1)

/-! ## 2. Boxes as two spans -/

namespace Handle

/-- What a handle pulls across. -/
def across : Handle → Pull
  | .w | .nw | .sw => .low
  | .e | .ne | .se => .high
  | .n | .s => .neither

/-- What a handle pulls downwards. -/
def down : Handle → Pull
  | .n | .nw | .ne => .low
  | .s | .se | .sw => .high
  | .e | .w => .neither

end Handle

namespace Rect

/-- A box across. -/
def across (r : Rect Rat) : Span := ⟨r.x, r.width⟩

/-- A box downwards. -/
def down (r : Rect Rat) : Span := ⟨r.y, r.height⟩

/-- The box with these two spans. -/
def ofSpans (across down : Span) : Rect Rat := ⟨across.start, down.start, across.length, down.length⟩

/-- The size that a handle asks for is asked for on each axis by itself. -/
theorem requested_grip (start : Rect Rat) (h : Handle) (dx dy : Rat) :
    h.grip.requested start dx dy
      = ⟨start.across.requested h.across dx, start.down.requested h.down dy⟩ := by
  cases h <;> rfl

/-- A box is pinned on each axis by itself. -/
theorem pinned_grip (start : Rect Rat) (h : Handle) (size : Extent Rat) :
    start.pinned h.grip size
      = ofSpans (start.across.pinned h.across size.width)
          (start.down.pinned h.down size.height) := by
  cases h <;> rfl

/-- A box is settled on each axis by itself. -/
theorem settled_eq (r : Rect Rat) (canvas : Extent Rat) (grid : Grid Rat) :
    r.settled canvas grid
      = .ok (ofSpans (r.across.settled canvas.width grid)
          (r.down.settled canvas.height grid)) := by
  simp only [settled, Extent.keepInside, Grid.snap_eq, Exact.clamp_eq, Exact.smaller_eq_min,
    Exact.minSide_eq, Exact.ofInt_eq, Int.cast_zero]
  rfl

end Rect

end Compositor
