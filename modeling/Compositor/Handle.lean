import Compositor.Layer

/-!
# Resize handles

A video has eight handles: one at each corner and one at the middle of each edge.  A handle is a
small square around its point, closed on all sides, so that a pointer exactly on its outer edge
still grabs it.  Where squares overlap, which only happens on videos smaller than any the editor
makes, the handle that comes first in `Handle.all` is grabbed.

Only the selected layer offers its handles, and only while it is visible.
-/

namespace Compositor

/-- A resize handle, named for the compass. -/
inductive Handle where
  | nw | n | ne | e | se | s | sw | w
deriving DecidableEq, Repr

namespace Handle

/-- The handles, clockwise from the top left corner. -/
def all : List Handle := [.nw, .n, .ne, .e, .se, .s, .sw, .w]

/-- Every handle is listed. -/
theorem mem_all (h : Handle) : h ∈ all := by cases h <;> decide

/-- The handle as text. -/
def word : Handle → String
  | .nw => "nw"
  | .n => "n"
  | .ne => "ne"
  | .e => "e"
  | .se => "se"
  | .s => "s"
  | .sw => "sw"
  | .w => "w"

/-- The handle that a text names. -/
def ofWord (s : String) : Except Fault Handle :=
  match all.find? (·.word == s) with
  | some h => .ok h
  | none => .error .unknownName

/-- Handles whose drag moves the left edge. -/
def movesLeft : Handle → Bool
  | .w | .nw | .sw => true
  | _ => false

/-- Handles whose drag moves the top edge. -/
def movesTop : Handle → Bool
  | .n | .nw | .ne => true
  | _ => false

/-- Handles whose drag moves the right edge. -/
def movesRight : Handle → Bool
  | .e | .ne | .se => true
  | _ => false

/-- Handles whose drag moves the bottom edge. -/
def movesBottom : Handle → Bool
  | .s | .se | .sw => true
  | _ => false

end Handle

/-- The look of the pointer. -/
inductive Cursor where
  | resizeNwSe
  | resizeNeSw
  | resizeVertical
  | resizeHorizontal
  | move
deriving DecidableEq, Repr

namespace Cursor

/-- The cursor as text. -/
def word : Cursor → String
  | .resizeNwSe => "nwse-resize"
  | .resizeNeSw => "nesw-resize"
  | .resizeVertical => "ns-resize"
  | .resizeHorizontal => "ew-resize"
  | .move => "move"

/-- The cursor over a handle. -/
def ofHandle : Handle → Cursor
  | .nw | .se => .resizeNwSe
  | .ne | .sw => .resizeNeSw
  | .n | .s => .resizeVertical
  | .e | .w => .resizeHorizontal

end Cursor

variable {α : Type} [Scalar α]

namespace Rect

/-- The point of a box around which a handle lies. -/
def anchor (r : Rect α) (h : Handle) : Point α :=
  let centreX := r.x + Scalar.half r.width
  let centreY := r.y + Scalar.half r.height
  match h with
  | .nw => ⟨r.x, r.y⟩
  | .n => ⟨centreX, r.y⟩
  | .ne => ⟨r.right, r.y⟩
  | .e => ⟨r.right, centreY⟩
  | .se => ⟨r.right, r.bottom⟩
  | .s => ⟨centreX, r.bottom⟩
  | .sw => ⟨r.x, r.bottom⟩
  | .w => ⟨r.x, centreY⟩

/-- The square of a handle. -/
def handleSquare (r : Rect α) (h : Handle) : Rect α :=
  let p := r.anchor h
  let reach := Scalar.half Defaults.handleSide
  ⟨p.x - reach, p.y - reach, Defaults.handleSide, Defaults.handleSide⟩

end Rect

namespace Layer

/-- The handles of a layer with their squares; a text has none. -/
def handles (l : Layer α) : List (Handle × Rect α) :=
  match l.content with
  | .video c => Handle.all.map fun h => (h, (Rect.mk l.x l.y c.width c.height).handleSquare h)
  | .text _ => []

/-- The first handle whose square holds the point. -/
def handleAt? (l : Layer α) (p : Point α) : Option Handle :=
  (l.handles.find? fun hr => hr.2.containsClosed p).map (·.1)

/-- The handle of the selected layer at a point, while that layer is visible. -/
def selectedHandleAt? (layers : List (Layer α)) (selected : Option String) (p : Point α) :
    Option Handle :=
  match find? layers selected with
  | some l => if l.visible.isOn then l.handleAt? p else none
  | none => none

/-- The cursor at a point while no button is down. -/
def hoverCursor (layers : List (Layer α)) (selected : Option String) (p : Point α) : Cursor :=
  match selectedHandleAt? layers selected p with
  | some h => .ofHandle h
  | none => .move

/-- The handle at a point of what may be no layer; such a thing has none. -/
def handleAtOf? (l? : Option (Layer α)) (p : Point α) : Option Handle :=
  l?.bind fun l => l.handleAt? p

end Layer

end Compositor
