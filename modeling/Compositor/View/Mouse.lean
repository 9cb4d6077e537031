import Compositor.Session

/-!
# The mouse over the canvas

A mouse event becomes a pointer action at the point of the canvas that is shown there, and the
pointer takes the look that fits what it would do next.  Only the left button is the canvas's
business; presses of others are passed on to the widget underneath, and so is every leaving.
-/

namespace Compositor

/-- What the mouse does over the canvas. -/
inductive MouseEvent (α : Type) where
  | press (left : Bool) (p : Point α)
  | move (p : Point α)
  | release
  | leave

/-- The pointer's look as the window system names it. -/
def Cursor.shape : Cursor → String
  | .resizeNwSe => "SizeFDiagCursor"
  | .resizeNeSw => "SizeBDiagCursor"
  | .resizeVertical => "SizeVerCursor"
  | .resizeHorizontal => "SizeHorCursor"
  | .move => "SizeAllCursor"

namespace MouseEvent

variable {α : Type}

/-- Whether the event is passed on. -/
def passedOn : MouseEvent α → Bool
  | .press left _ => !left
  | .leave => true
  | _ => false

/-- The pointer action of a mouse event on a document, if it is the canvas's business. -/
def action? [Scalar α] (widget : Extent α) (d : Document α) :
    MouseEvent α → Except Fault (Option (Action α))
  | .press false _ => .ok none
  | .press true p => do
    let q ← d.canvasPoint widget p
    return some (.press q)
  | .move p => do
    let q ← d.canvasPoint widget p
    return some (.move q)
  | .release | .leave => .ok (some .release)

/-- What becomes of the pointer's look afterwards: nothing, the usual look, or a look of its own. -/
def cursorAfter [Scalar α] (a : Option (Action α)) (d : Document α) :
    MouseEvent α → Option (Option Cursor)
  | .leave => some none
  | _ =>
    match a with
    | some (.press q) | some (.move q) => some (some (d.cursorAt q))
    | _ => none

/-- Follows the mouse in a session: the session afterwards, its events, and what becomes of the
pointer's look. -/
def follow [Scalar α] (measure : Measurer α) (widget : Extent α) (s : Session α)
    (e : MouseEvent α) :
    Except Fault (Session α × List (Event α) × Option (Option Cursor)) := do
  let a ← e.action? widget s.document
  let (s, events) ← (a.map (s.perform measure)).getD (.ok (s, []))
  return (s, events, e.cursorAfter a s.document)

end MouseEvent

end Compositor
