import Compositor.Document.Layers
import Compositor.Resize

/-!
# The pointer

A press on a handle of the selected video starts a resize; a press elsewhere on a visible layer
selects the topmost one there and starts to drag it; a press on nothing ends the selection.  Moves
then change the layer that the gesture names, and a release, or the pointer's leaving, ends it.

Points are points of the canvas.  Each move computes the layer's geometry from what was noted at the
press and from where the pointer is now, so a gesture has no memory of its path.
-/

namespace Compositor.Document

variable {α : Type} [Scalar α]

/-- The video that would be resized by a press at a point: the selected one, at the handle there. -/
def grabbedHandle? (d : Document α) (p : Point α) : Option (Layer α × Clip α × Handle) := do
  let l ← d.selected?
  let clip ← l.clip?
  let h ← Layer.selectedHandleAt? d.layers (some l.id) p
  return (l, clip, h)

/-- The pointer is pressed. -/
def press (measure : Measurer α) (d : Document α) (p : Point α) : Except Fault (Document α) :=
  match d.grabbedHandle? p with
  | some (l, clip, h) =>
    .ok { d with interaction := .resizing l.id h ⟨l.x, l.y, clip.width, clip.height⟩ p }
  | none => do
    match ← Stacking.layerAt measure d.layers p with
    | none => return { d with selectedId := none, interaction := .idle }
    | some l =>
      return { d with
        selectedId := some l.id
        interaction := .dragging l.id ⟨p.x - l.x, p.y - l.y⟩ }

/-- A video after a move of a resize. -/
def resizedLayer (d : Document α) (l : Layer α) (h : Handle) (start : Rect α) (from_ p : Point α) :
    Except Fault (Layer α) :=
  match l.content with
  | .text _ => .ok l
  | .video clip => do
    let r ← start.resized h.grip (p.x - from_.x) (p.y - from_.y) d.canvas clip.aspectLocked.isOn
      clip.aspectRatio d.grid
    return { l with
      x := r.x
      y := r.y
      content := .video { clip with width := r.width, height := r.height } }

/-- A layer after a move of a drag. -/
def draggedLayer (measure : Measurer α) (d : Document α) (l : Layer α) (grab p : Point α) :
    Except Fault (Layer α) := do
  let size ← l.extent measure
  let q ← size.dragged d.canvas p grab d.grid
  return { l with x := q.x, y := q.y }

/-- The pointer moves.  A gesture on a layer that is gone, and a resize of what is no video, change
nothing. -/
def move (measure : Measurer α) (d : Document α) (p : Point α) : Except Fault (Document α) :=
  match d.interaction with
  | .idle => .ok d
  | .dragging id grab =>
    match d.layer? id with
    | none => .ok d
    | some l => do
      let l ← d.draggedLayer measure l grab p
      return d.replace l
  | .resizing id h start from_ =>
    match d.layer? id with
    | none => .ok d
    | some l =>
      if l.isVideo then do
        let l ← d.resizedLayer l h start from_ p
        return d.replace l
      else .ok d

/-- The pointer is released, or leaves the canvas. -/
def release {α : Type} (d : Document α) : Document α := { d with interaction := .idle }

/-- The cursor that tells what a press at a point would do, or what the gesture is doing. -/
def cursorAt (d : Document α) (p : Point α) : Cursor :=
  match d.interaction with
  | .resizing _ h _ _ => .ofHandle h
  | .dragging _ _ => .move
  | .idle => Layer.hoverCursor d.layers d.selectedId p

end Compositor.Document
