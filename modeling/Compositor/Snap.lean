import Compositor.Geometry

/-!
# Snapping and keeping inside

A coordinate snaps to the nearest multiple of the grid, halves going up.  Snapping is switched off
with the grid's flag, and a grid without a positive size snaps nothing.

A box is kept inside the canvas by moving its top left corner; a box larger than the canvas is put
at zero.
-/

namespace Compositor

/-- The grid to which coordinates snap, and whether they do. -/
structure Grid (α : Type) where
  enabled : Bool
  size : α
deriving Repr

variable {α : Type} [Scalar α]

namespace Grid

/-- No grid: every coordinate stays where it is. -/
def none : Grid α := ⟨false, Scalar.ofInt 0⟩

/-- The coordinate on the grid. -/
def snap (g : Grid α) (v : α) : Except Fault α :=
  if !g.enabled || g.size ≤ Scalar.ofInt 0 then .ok v
  else do
    let q ← Scalar.quotient v g.size
    let n ← Scalar.roundHalfUp q
    return Scalar.ofInt n * g.size

end Grid

namespace Extent

/-- The place nearest to `p` at which a box of size `size` lies inside the canvas. -/
def keepInside (canvas size : Extent α) (p : Point α) : Point α where
  x := Scalar.clamp p.x (Scalar.ofInt 0) (canvas.width - size.width)
  y := Scalar.clamp p.y (Scalar.ofInt 0) (canvas.height - size.height)

end Extent

end Compositor
