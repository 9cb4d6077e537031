import Compositor.Scalar

/-!
# Boxes on the canvas

Coordinates grow to the right and downwards, and a box is its top left corner with a width and a
height.  A box contains its left and top edge but not its right and bottom edge, so that boxes side
by side share no point; *closed* containment takes all four edges in.
-/

namespace Compositor

/-- A box: its top left corner and its size. -/
structure Rect (α : Type) where
  x : α
  y : α
  width : α
  height : α
deriving DecidableEq, Repr

/-- A size without a place. -/
structure Extent (α : Type) where
  width : α
  height : α
deriving DecidableEq, Repr

/-- A place. -/
structure Point (α : Type) where
  x : α
  y : α
deriving DecidableEq, Repr

namespace Rect

variable {α : Type} [Scalar α]

/-- The right edge. -/
def right (r : Rect α) : α := r.x + r.width

/-- The bottom edge. -/
def bottom (r : Rect α) : α := r.y + r.height

/-- Whether a point lies in the box, the right and the bottom edge left out. -/
def contains (r : Rect α) (p : Point α) : Bool :=
  r.x ≤ p.x && p.x < r.right && r.y ≤ p.y && p.y < r.bottom

/-- Whether a point lies in the box or on one of its four edges. -/
def containsClosed (r : Rect α) (p : Point α) : Bool :=
  r.x ≤ p.x && p.x ≤ r.right && r.y ≤ p.y && p.y ≤ r.bottom

end Rect

namespace Scalar

variable {α : Type} [Scalar α]

/-- One half of a number. -/
def half (v : α) : α := v * ofDecimal 5 1

/-- The value moved into `lo … hi`; when the range is inverted, `lo` wins. -/
def clamp (value lo hi : α) : α := larger lo (smaller hi value)

end Scalar

end Compositor
