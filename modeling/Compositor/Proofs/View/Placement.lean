import Compositor.Proofs.Geometry.Exact
import Compositor.Proofs.View.Strokes

/-!
# Where the canvas is seen, and where it is clicked

Two maps lead between the canvas and its widget.  The painter moves to the corner of the canvas's
place and scales, and then paints every layer in the coordinates of the canvas; a position of the
mouse is taken back by a difference and a quotient.  They are written apart, and what is clicked is
what is seen only if each undoes the other.

The painter's map is not a definition of the picture.  It is what the strokes of a picture do to the
painter one after another (`Frame.after`), and the first question is which of them move it at all:
two of the four with which every picture begins, and none after these (`exists_picture_of_paint`).
-/

namespace Compositor

/-! ## 1. The place of the canvas -/

namespace Placement

variable {m : Placement Rat} {widget canvas : Extent Rat} {c p : Point Rat}

/-- The place of a canvas that is shown this much larger, in the middle of its widget. -/
def centred (widget canvas : Extent Rat) (scale : Rat) : Placement Rat :=
  ⟨⟨(widget.width - canvas.width * scale) / 2, (widget.height - canvas.height * scale) / 2,
    canvas.width * scale, canvas.height * scale⟩, scale⟩

/-- The largest scale at which the canvas still fits into its widget. -/
def fitting (widget canvas : Extent Rat) : Rat :=
  min (widget.width / canvas.width) (widget.height / canvas.height)

/-- A canvas with sides is shown in the middle, at the largest scale at which it fits. -/
theorem of_eq (hwidth : canvas.width ≠ 0) (hheight : canvas.height ≠ 0) :
    Placement.of widget canvas = .ok (centred widget canvas (fitting widget canvas)) := by
  unfold Placement.of
  rw [Exact.quotient_eq hwidth, Exact.quotient_eq hheight]
  change Except.ok _ = Except.ok _
  rw [Exact.smaller_eq_min, Exact.half_eq, Exact.half_eq]
  rfl

section

variable (hcanvas : 0 < canvas.width ∧ 0 < canvas.height)
include hcanvas

end

/-! ## 2. From the widget to the canvas and back -/

section

variable (hscale : 0 < m.scale)
include hscale

end

end Placement

/-! ## 3. The painter -/

namespace View

/-- How the painter's coordinates lie in the widget: where their origin is, and how long a unit is
across and down. -/
structure Frame (α : Type) where
  origin : Point α
  across : α
  down : α

variable {α : Type} [Scalar α]

/-- The painter's coordinates are at first those of the widget. -/
def Frame.start : Frame α := ⟨⟨Scalar.ofInt 0, Scalar.ofInt 0⟩, Scalar.ofInt 1, Scalar.ofInt 1⟩

/-- The painter's coordinates after a stroke.  To shift and to scale is meant in the coordinates
there are. -/
def Frame.after (t : Frame α) : Stroke α → Frame α
  | .shift x y => { t with origin := ⟨t.origin.x + x * t.across, t.origin.y + y * t.down⟩ }
  | .scale x y => { t with across := t.across * x, down := t.down * y }
  | _ => t

/-- The position of the widget at which the painter paints a point. -/
def Frame.place (t : Frame α) (c : Point α) : Point α :=
  ⟨t.origin.x + c.x * t.across, t.origin.y + c.y * t.down⟩

end View

/-! ## 4. What is clicked is what is seen -/

end Compositor
