import Compositor.Proofs.Geometry.Locked

/-!
# The box that a handle asks for

A pull of a handle asks for a box: the size that follows the pull, brought up to the smallest size,
pinned at the edges opposite the handle (`Rect.asked`).  What comes after that, fitting and settling,
is there for boxes that reach out of the canvas and for the grid.  A box that lies on the canvas and
is asked for without a grid comes out as it was asked for (`Rect.resized_as_asked`).

On each axis the end that is pulled then follows the pull, as far as the smallest length allows, and
the other end stays where it is (`Span.Follows`).  A locked resize moves the end that is not pinned
as the ratio demands; that the pinned one stays holds of it as well (`Span.Pinned`).
-/

namespace Compositor

/-! ## 1. Along one axis -/

namespace Span

/-- The end opposite the one that is pulled, the low one if none is, is the same in both spans. -/
def Pinned (s : Span) (p : Pull) (t : Span) : Prop :=
  match p with
  | .low => t.stop = s.stop
  | .high | .neither => t.start = s.start

/-- The end that is pulled follows, but keeps the smallest length from the other end; that one stays,
and without a pull both do. -/
def Follows (s : Span) (p : Pull) (d : Rat) (t : Span) : Prop :=
  match p with
  | .low => t.start = min (s.start + d) (s.stop - 50) ∧ t.stop = s.stop
  | .high => t.start = s.start ∧ t.stop = max (s.stop + d) (s.start + 50)
  | .neither => t = s

/-- A span that is pinned is pinned. -/
theorem pinned_pinned (s : Span) (p : Pull) (length : Rat) : s.Pinned p (s.pinned p length) := by
  cases p with
  | low => exact sub_add_cancel s.stop length
  | high => rfl
  | neither => rfl

/-- **A span that is pulled follows the pull.** -/
theorem follows_pinned {s : Span} (hs : 50 ≤ s.length) (p : Pull) (d : Rat) :
    s.Follows p d (s.pinned p (max 50 (s.requested p d))) := by
  cases p with
  | low =>
    have hrest : s.stop - (s.length - d) = s.start + d := by
      rw [stop]
      ring
    refine ⟨?_, sub_add_cancel ..⟩
    change s.stop - max 50 (s.length - d) = _
    rw [← min_sub_sub_left, hrest, min_comm]
  | high =>
    have hrest : s.start + (s.length + d) = s.stop + d := (add_assoc ..).symm
    refine ⟨rfl, ?_⟩
    change s.start + max 50 (s.length + d) = _
    rw [← max_add_add_left, hrest, max_comm]
  | neither => exact congrArg (Span.mk s.start) (max_eq_right hs)

/-- A pull by nothing asks for the length that is there. -/
theorem requested_zero (s : Span) (p : Pull) : s.requested p 0 = s.length := by
  cases p with
  | low => exact sub_zero s.length
  | high => exact add_zero s.length
  | neither => rfl

/-- A span is pinned in its own length where it is. -/
theorem pinned_self (s : Span) (p : Pull) : s.pinned p s.length = s := by
  cases p with
  | low => exact Span.ext (add_sub_cancel_right ..) rfl
  | high => rfl
  | neither => rfl

end Span

/-! ## 2. Boxes -/

namespace Extent

/-- The size brought up to the smallest one, in the ratio or each side by itself. -/
def raised (e : Extent Rat) (keepRatio byHeight : Bool) (ratio : Rat) : Extent Rat :=
  if keepRatio then ofHeight ratio (max (leastHeight ratio) (e.drivenHeight byHeight ratio))
  else ⟨max 50 e.width, max 50 e.height⟩

variable {e : Extent Rat} {keepRatio byHeight : Bool} {ratio : Rat}

/-- No side is shorter than the smallest one afterwards. -/
theorem fifty_le_raised (hratio : keepRatio = true → 0 < ratio) :
    50 ≤ (e.raised keepRatio byHeight ratio).width ∧
      50 ≤ (e.raised keepRatio byHeight ratio).height := by
  cases keepRatio with
  | true => exact fifty_le_ofHeight (hratio rfl) (le_max_left ..)
  | false => exact ⟨le_max_left .., le_max_left ..⟩

/-- A size that is large enough and has the ratio, if that is kept, is not brought up. -/
theorem raised_of_fifty_le (hwide : 50 ≤ e.width) (hhigh : 50 ≤ e.height)
    (hratio : keepRatio = true → 0 < ratio ∧ e.width = ratio * e.height) :
    e.raised keepRatio byHeight ratio = e := by
  unfold raised
  cases keepRatio with
  | true =>
    obtain ⟨hpos, hkept⟩ := hratio rfl
    have hdriven : e.drivenHeight byHeight ratio = e.height := by
      unfold drivenHeight
      split
      · rfl
      · rw [hkept, mul_div_cancel_left₀ _ hpos.ne']
    have hleast : leastHeight ratio ≤ e.height := by
      refine max_le hhigh ((div_le_iff₀' hpos).mpr ?_)
      rw [← hkept]
      exact hwide
    rw [if_pos rfl, hdriven, max_eq_right hleast, ofHeight, ← hkept]
  | false => rw [if_neg Bool.false_ne_true, max_eq_right hwide, max_eq_right hhigh]

/-- A size for which the canvas has room is not cut down. -/
theorem fitted_raised (hratio : keepRatio = true → 0 < ratio) {canvas : Extent Rat}
    (hwidth : (e.raised keepRatio byHeight ratio).width ≤ canvas.width)
    (hheight : (e.raised keepRatio byHeight ratio).height ≤ canvas.height) :
    (e.raised keepRatio byHeight ratio).fitted canvas keepRatio
      = .ok (e.raised keepRatio byHeight ratio) := by
  cases keepRatio with
  | true =>
    have hpos : 0 < max (leastHeight ratio) (e.drivenHeight byHeight ratio) :=
      lt_max_of_lt_left (leastHeight_pos ratio)
    have hroom : max (leastHeight ratio) (e.drivenHeight byHeight ratio)
        ≤ greatestHeight canvas ratio :=
      (le_greatestHeight_iff canvas (hratio rfl) _).mpr ⟨hwidth, hheight⟩
    have hfitted := fitted_ofHeight (hratio rfl) hpos canvas
    rwa [min_eq_left hroom] at hfitted
  | false =>
    unfold fitted
    rw [if_neg Bool.false_ne_true, Exact.smaller_eq_min, Exact.smaller_eq_min,
      min_eq_left hwidth, min_eq_left hheight]

end Extent

namespace Rect

open Extent

/-- The ratio of a resize that keeps it is positive. -/
theorem ratio_pos_of_keepsRatio {aspectLocked : Bool} {ratio : Rat}
    (h : keepsRatio aspectLocked ratio = true) : 0 < ratio :=
  of_decide_eq_true (Bool.and_eq_true_iff.mp h).2

/-- The size for which a pull of a handle asks, brought up to the smallest one.  The handles above
and below drive the height of a locked video, the others its width. -/
def askedSize (start : Rect Rat) (h : Handle) (dx dy : Rat) (aspectLocked : Bool) (ratio : Rat) :
    Extent Rat :=
  raised ⟨start.across.requested h.across dx, start.down.requested h.down dy⟩
    (keepsRatio aspectLocked ratio) (decide (h = .n ∨ h = .s)) ratio

/-- The box for which a pull of a handle asks. -/
def asked (start : Rect Rat) (h : Handle) (dx dy : Rat) (aspectLocked : Bool) (ratio : Rat) :
    Rect Rat :=
  ofSpans
    (start.across.pinned h.across (start.askedSize h dx dy aspectLocked ratio).width)
    (start.down.pinned h.down (start.askedSize h dx dy aspectLocked ratio).height)

/-- The box lies on the canvas. -/
structure Inside (canvas : Extent Rat) (r : Rect Rat) : Prop where
  left : 0 ≤ r.x
  top : 0 ≤ r.y
  right : r.right ≤ canvas.width
  bottom : r.bottom ≤ canvas.height

/-- The box lies on the canvas across. -/
theorem Inside.across {canvas : Extent Rat} {r : Rect Rat} (h : r.Inside canvas) :
    r.across.Inside canvas.width := ⟨h.left, h.right⟩

/-- The box lies on the canvas downwards. -/
theorem Inside.down {canvas : Extent Rat} {r : Rect Rat} (h : r.Inside canvas) :
    r.down.Inside canvas.height := ⟨h.top, h.bottom⟩

variable {start : Rect Rat} {h : Handle} {dx dy : Rat} {canvas : Extent Rat} {aspectLocked : Bool}
  {ratio : Rat} {grid : Grid Rat}

/-- The box that is asked for is as wide as is asked for. -/
theorem width_asked : (start.asked h dx dy aspectLocked ratio).width
    = (start.askedSize h dx dy aspectLocked ratio).width := Span.length_pinned ..

/-- The box that is asked for is as high as is asked for. -/
theorem height_asked : (start.asked h dx dy aspectLocked ratio).height
    = (start.askedSize h dx dy aspectLocked ratio).height := Span.length_pinned ..

/-- No side that is asked for is shorter than the smallest one. -/
theorem fifty_le_asked : 50 ≤ (start.asked h dx dy aspectLocked ratio).width ∧
    50 ≤ (start.asked h dx dy aspectLocked ratio).height := by
  rw [width_asked, height_asked]
  exact fifty_le_raised ratio_pos_of_keepsRatio

/-- The size that is asked for in a ratio has the ratio. -/
theorem askedSize_of_keepsRatio (hkeep : keepsRatio aspectLocked ratio = true) :
    (start.askedSize h dx dy aspectLocked ratio).width
      = ratio * (start.askedSize h dx dy aspectLocked ratio).height := by
  rw [askedSize, raised, if_pos hkeep]
  rfl

/-- The size that is asked for of a free video is asked for on each axis by itself. -/
theorem askedSize_of_not_keepsRatio (hfree : keepsRatio aspectLocked ratio = false) :
    start.askedSize h dx dy aspectLocked ratio
      = ⟨max 50 (start.across.requested h.across dx),
          max 50 (start.down.requested h.down dy)⟩ := by
  rw [askedSize, raised, if_neg (Bool.eq_false_iff.mp hfree)]

/-- A resize takes the size that is asked for. -/
theorem sized_grip :
    start.sized h.grip dx dy aspectLocked ratio
      = .ok (start.askedSize h dx dy aspectLocked ratio) := by
  unfold sized askedSize raised
  rw [requested_grip, h.byHeight_grip]
  split
  · rename_i hkeep
    exact locked_eq _ _ (ratio_pos_of_keepsRatio hkeep)
  · simp only [floored, Exact.larger_eq_max, Exact.minSide_eq]

/-- **A box that lies on the canvas is settled as it was asked for.** -/
theorem resized_eq_settled (hinside : (start.asked h dx dy aspectLocked ratio).Inside canvas) :
    start.resized h.grip dx dy canvas aspectLocked ratio grid
      = (start.asked h dx dy aspectLocked ratio).settled canvas grid := by
  have hwidth := width_asked.symm.trans_le hinside.across.length_le
  have hheight := height_asked.symm.trans_le hinside.down.length_le
  rw [resized_eq, sized_grip]
  change (fitted _ canvas _ >>= _) = _
  rw [askedSize, fitted_raised ratio_pos_of_keepsRatio hwidth hheight, asked, ← pinned_grip]
  rfl

/-- Without a grid, a box on the canvas that is not too small is settled. -/
theorem Inside.settled_eq {r : Rect Rat} (hr : r.Inside canvas) (hgrid : grid.enabled = false)
    (hwide : 50 ≤ r.width) (hhigh : 50 ≤ r.height) : r.settled canvas grid = .ok r := by
  have hsnap := Grid.nearest_of_not_enabled hgrid
  rw [Rect.settled_eq, hr.across.settled_eq hwide (hsnap _) (hsnap _),
    hr.down.settled_eq hhigh (hsnap _) (hsnap _)]
  rfl

/-- A pull by nothing asks for the box that is there, if that is large enough and has the ratio that
is kept. -/
theorem asked_zero (hwide : 50 ≤ start.width) (hhigh : 50 ≤ start.height)
    (hratio : keepsRatio aspectLocked ratio = true → start.width = ratio * start.height) :
    start.asked h 0 0 aspectLocked ratio = start := by
  have hsize : start.askedSize h 0 0 aspectLocked ratio = ⟨start.width, start.height⟩ := by
    unfold askedSize
    rw [Span.requested_zero, Span.requested_zero]
    exact raised_of_fifty_le hwide hhigh fun hkeep => ⟨ratio_pos_of_keepsRatio hkeep, hratio hkeep⟩
  rw [asked, hsize]
  change ofSpans (start.across.pinned h.across start.across.length)
    (start.down.pinned h.down start.down.length) = start
  rw [Span.pinned_self, Span.pinned_self]
  rfl

/-- **A pull by nothing changes nothing**, if the box lies on the canvas, is large enough, has the
ratio that is kept, and is where it would snap to. -/
theorem resized_zero (hinside : start.Inside canvas) (hwide : 50 ≤ start.width)
    (hhigh : 50 ≤ start.height)
    (hratio : keepsRatio aspectLocked ratio = true → start.width = ratio * start.height)
    (hx : grid.nearest start.x = start.x) (hy : grid.nearest start.y = start.y)
    (hwidth : grid.nearest start.width = start.width)
    (hheight : grid.nearest start.height = start.height) :
    start.resized h.grip 0 0 canvas aspectLocked ratio grid = .ok start := by
  have hasked : start.asked h 0 0 aspectLocked ratio = start := asked_zero hwide hhigh hratio
  have hsettled : start.resized h.grip 0 0 canvas aspectLocked ratio grid
      = (start.asked h 0 0 aspectLocked ratio).settled canvas grid :=
    resized_eq_settled (hasked.symm ▸ hinside)
  rw [hasked, Rect.settled_eq, hinside.across.settled_eq hwide hx hwidth,
    hinside.down.settled_eq hhigh hy hheight] at hsettled
  exact hsettled

/-- **A pull without a grid gives the box that it asks for**, if that lies on the canvas.  The edges
opposite the handle stay where they are.  Of a free video every edge that is pulled follows the
pull, as far as the smallest side allows, and on an axis that is not pulled nothing changes; a locked
video has its ratio. -/
theorem resized_as_asked (grid : Grid Rat) (hgrid : grid.enabled = false) (hwide : 50 ≤ start.width)
    (hhigh : 50 ≤ start.height)
    (hinside : (start.asked h dx dy aspectLocked ratio).Inside canvas) :
    let box := start.asked h dx dy aspectLocked ratio
    start.resized h.grip dx dy canvas aspectLocked ratio grid = .ok box ∧
    (start.across.Pinned h.across box.across ∧ start.down.Pinned h.down box.down) ∧
    (keepsRatio aspectLocked ratio = true →
      box.width = ratio * box.height ∧ 50 ≤ box.width ∧ 50 ≤ box.height) ∧
    (keepsRatio aspectLocked ratio = false →
      start.across.Follows h.across dx box.across ∧
      start.down.Follows h.down dy box.down) := by
  intro box
  refine ⟨?_, ⟨Span.pinned_pinned .., Span.pinned_pinned ..⟩, fun hkeep => ?_, fun hfree => ?_⟩
  · rw [resized_eq_settled hinside]
    exact hinside.settled_eq hgrid fifty_le_asked.1 fifty_le_asked.2
  · refine ⟨?_, fifty_le_asked⟩
    rw [width_asked, height_asked, askedSize_of_keepsRatio hkeep]
  · have hbox : box = ofSpans
        (start.across.pinned h.across (max 50 (start.across.requested h.across dx)))
        (start.down.pinned h.down (max 50 (start.down.requested h.down dy))) := by
      simp only [box, asked, askedSize_of_not_keepsRatio hfree]
    rw [hbox]
    exact ⟨Span.follows_pinned hwide h.across dx, Span.follows_pinned hhigh h.down dy⟩

/-- A free video is pulled together at its upper left corner beyond the smallest width, and a locked
one is pulled out at its lower left corner. -/
theorem resized_as_asked_corners :
    let start : Rect Rat := ⟨100, 100, 200, 100⟩
    let canvas : Extent Rat := ⟨504, 846⟩
    (50 ≤ start.width ∧ 50 ≤ start.height) ∧
    ((start.asked .nw 190 20 false 1).Inside canvas ∧
      start.resized Handle.nw.grip 190 20 canvas false 1 .none = .ok ⟨250, 120, 50, 80⟩ ∧
      start.across.Follows .low 190 ⟨250, 50⟩) ∧
    ((start.asked .sw (-20) 7 true 2).Inside canvas ∧
      start.resized Handle.sw.grip (-20) 7 canvas true 2 .none = .ok ⟨80, 100, 220, 110⟩ ∧
      start.down.Pinned .high ⟨100, 110⟩) := by
  intro start canvas
  have hwide : 50 ≤ start.width := by norm_num [start]
  have hhigh : 50 ≤ start.height := by norm_num [start]
  have hfree : start.asked .nw 190 20 false 1 = ⟨250, 120, 50, 80⟩ := by decide +kernel
  have hlocked : start.asked .sw (-20) 7 true 2 = ⟨80, 100, 220, 110⟩ := by decide +kernel
  have hfreeInside : (start.asked .nw 190 20 false 1).Inside canvas := by
    rw [hfree]
    constructor <;> norm_num [right, bottom, canvas]
  have hlockedInside : (start.asked .sw (-20) 7 true 2).Inside canvas := by
    rw [hlocked]
    constructor <;> norm_num [right, bottom, canvas]
  obtain ⟨hfirst, -, -, hfollows⟩ :=
    resized_as_asked .none rfl hwide hhigh hfreeInside
  obtain ⟨hsecond, ⟨-, hpinned⟩, -⟩ :=
    resized_as_asked .none rfl hwide hhigh hlockedInside
  rw [hfree] at hfirst hfollows
  rw [hlocked] at hsecond hpinned
  exact ⟨⟨hwide, hhigh⟩, ⟨hfreeInside, hfirst, (hfollows rfl).1⟩,
    ⟨hlockedInside, hsecond, hpinned⟩⟩

end Rect

end Compositor
