import Compositor.Document.Pointer

/-!
# The canvas in its widget

The canvas is shown as large as its widget allows, in the middle, with the canvas's own proportions.
Painting moves to the corner of that place and scales; a mouse position is taken back by the same
corner and scale.  A widget without room maps every position to the canvas's corner.
-/

namespace Compositor

variable {α : Type} [Scalar α]

/-- Where the canvas is shown in its widget, and how much larger. -/
structure Placement (α : Type) where
  rect : Rect α
  scale : α
deriving Repr

namespace Placement

/-- The place of a canvas in a widget. -/
def of (widget canvas : Extent α) : Except Fault (Placement α) := do
  let across ← Scalar.quotient widget.width canvas.width
  let down ← Scalar.quotient widget.height canvas.height
  let scale := Scalar.smaller across down
  let width := canvas.width * scale
  let height := canvas.height * scale
  return ⟨⟨Scalar.half (widget.width - width), Scalar.half (widget.height - height),
    width, height⟩, scale⟩

/-- The point of the canvas that is shown at a position of the widget. -/
def toCanvas (m : Placement α) (p : Point α) : Except Fault (Point α) :=
  if m.scale ≤ Scalar.ofInt 0 then .ok ⟨Scalar.ofInt 0, Scalar.ofInt 0⟩
  else do
    let x ← Scalar.quotient (p.x - m.rect.x) m.scale
    let y ← Scalar.quotient (p.y - m.rect.y) m.scale
    return ⟨x, y⟩

end Placement

namespace Document

/-- The point of the document's canvas at a position of a widget. -/
def canvasPoint (d : Document α) (widget : Extent α) (p : Point α) : Except Fault (Point α) := do
  let m ← Placement.of widget d.canvas
  m.toCanvas p

end Document

end Compositor
