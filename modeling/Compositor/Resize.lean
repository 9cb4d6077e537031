import Compositor.Handle
import Compositor.Snap

/-!
# Dragging a handle, dragging a box

The result of a gesture depends on where it started and where the pointer is now, and on nothing in
between.  A handle drag takes the box at the start and the pointer's displacement since; a box drag
takes the pointer and the point of the box at which it was grabbed.

A handle drag goes through four steps.  The side that the handle moves follows the displacement
(`Grip.requested`); the size is brought up to the smallest one, and into the ratio if the video
is locked (`floored`, `locked`); it is cut down to the canvas (`fitted`); and the box, pinned at the
edges opposite the handle, is settled.  Settling puts the box inside the canvas, snaps its four
numbers, and puts it inside once more, so that snapping never leads out of the canvas; at the border
a box may therefore lie off the grid.
-/

namespace Compositor

variable {α : Type} [Scalar α]

/-- What a drag takes hold of: the sides of the box that it moves, and whether it is the height that
it drives when the ratio is kept. -/
structure Grip where
  left : Bool
  top : Bool
  right : Bool
  bottom : Bool
  byHeight : Bool
deriving DecidableEq, Repr

namespace Grip

/-- A drag that takes hold of no side. -/
def none : Grip := ⟨false, false, false, false, false⟩

/-- The size that a drag asks for. -/
def requested (g : Grip) (start : Rect α) (dx dy : α) : Extent α where
  width :=
    if g.right then start.width + dx
    else if g.left then start.width - dx
    else start.width
  height :=
    if g.bottom then start.height + dy
    else if g.top then start.height - dy
    else start.height

end Grip

namespace Handle

/-- What a handle takes hold of.  The handles above and below drive the height of a locked video, and
every other one drives the width. -/
def grip (h : Handle) : Grip where
  left := h.movesLeft
  top := h.movesTop
  right := h.movesRight
  bottom := h.movesBottom
  byHeight := h == .n || h == .s

/-- What the handle of this name takes hold of; a name that is no handle's takes hold of nothing. -/
def gripOfWord (s : String) : Grip :=
  match ofWord s with
  | .ok h => h.grip
  | .error _ => .none

end Handle

namespace Extent

/-- The size with both sides at least the smallest one. -/
def floored (e : Extent α) : Extent α :=
  ⟨Scalar.larger Defaults.minSide e.width, Scalar.larger Defaults.minSide e.height⟩

/-- The size in a ratio of width to height, both sides at least the smallest one: the side that the
drag drives is taken, and the other one follows. -/
def locked (e : Extent α) (byHeight : Bool) (ratio : α) : Except Fault (Extent α) :=
  if byHeight then
    let height := Scalar.larger Defaults.minSide e.height
    let width := height * ratio
    if width < Defaults.minSide then do
      let height ← Scalar.quotient Defaults.minSide ratio
      return ⟨Defaults.minSide, height⟩
    else .ok ⟨width, height⟩
  else do
    let width := Scalar.larger Defaults.minSide e.width
    let height ← Scalar.quotient width ratio
    if height < Defaults.minSide then return ⟨Defaults.minSide * ratio, Defaults.minSide⟩
    else return ⟨width, height⟩

/-- The size cut down to the canvas: as a whole if the ratio is kept, else each side by itself. -/
def fitted (e canvas : Extent α) (keepRatio : Bool) : Except Fault (Extent α) :=
  if keepRatio then do
    let across ← Scalar.quotient canvas.width e.width
    let down ← Scalar.quotient canvas.height e.height
    let scale := Scalar.smaller (Scalar.smaller (Scalar.ofInt 1) across) down
    return ⟨e.width * scale, e.height * scale⟩
  else .ok ⟨Scalar.smaller e.width canvas.width, Scalar.smaller e.height canvas.height⟩

end Extent

namespace Rect

/-- Where the box of a new size lies when the edges opposite the moved ones stay where they are. -/
def pinned (start : Rect α) (g : Grip) (size : Extent α) : Rect α where
  x := if g.left then start.x + start.width - size.width else start.x
  y := if g.top then start.y + start.height - size.height else start.y
  width := size.width
  height := size.height

/-- The box inside the canvas and, as far as that allows, on the grid. -/
def settled (r : Rect α) (canvas : Extent α) (grid : Grid α) : Except Fault (Rect α) := do
  let p := canvas.keepInside ⟨r.width, r.height⟩ ⟨r.x, r.y⟩
  let x ← grid.snap p.x
  let y ← grid.snap p.y
  let width ← grid.snap r.width
  let height ← grid.snap r.height
  let width :=
    Scalar.clamp width (Scalar.smaller Defaults.minSide canvas.width) canvas.width
  let height :=
    Scalar.clamp height (Scalar.smaller Defaults.minSide canvas.height) canvas.height
  let p := canvas.keepInside ⟨width, height⟩ ⟨x, y⟩
  return ⟨p.x, p.y, width, height⟩

/-- The box after a drag by `(dx, dy)` from the box `start`.  The lock holds only with a positive
ratio. -/
def resized (start : Rect α) (g : Grip) (dx dy : α) (canvas : Extent α) (aspectLocked : Bool)
    (aspectRatio : α) (grid : Grid α) : Except Fault (Rect α) := do
  let request := g.requested start dx dy
  let keepRatio := aspectLocked && decide (Scalar.ofInt 0 < aspectRatio)
  let size ← if keepRatio then request.locked g.byHeight aspectRatio else .ok request.floored
  let size ← size.fitted canvas keepRatio
  (start.pinned g size).settled canvas grid

end Rect

namespace Extent

/-- Where a dragged box of this size lies when the pointer, which grabbed it at `grab` from its
corner, is at `pointer`. -/
def dragged (size canvas : Extent α) (pointer grab : Point α) (grid : Grid α) :
    Except Fault (Point α) := do
  let p := canvas.keepInside size ⟨pointer.x - grab.x, pointer.y - grab.y⟩
  let x ← grid.snap p.x
  let y ← grid.snap p.y
  return canvas.keepInside size ⟨x, y⟩

end Extent

end Compositor
