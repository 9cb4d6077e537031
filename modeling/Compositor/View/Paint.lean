import Compositor.Panel.Form
import Compositor.Stacking
import Compositor.Theme
import Compositor.View.Mapping

/-!
# Painting the canvas

A picture of the document is a list of strokes (`Stroke`), in the order in which they are painted:
the widget's ground, the canvas, the grid if it is shown, each visible layer from the bottom up, and
the template over everything.

The grid's lines lie at `0, step, 2 * step, …` up to the canvas's side, found by adding `step` again
and again (`gridPositions`).  With a step that is not positive the lines would never end; that is a
fault, and not a picture.
-/

namespace Compositor

/-- A colour: a name, or black with an opacity. -/
inductive Color where
  | named (name : String)
  | blackened (alpha : Nat)
deriving DecidableEq, Repr

/-- How lines are drawn. -/
inductive LineStyle where
  | solid
  | dashed
deriving DecidableEq, Repr

/-- The look of letters on the picture, in whole pixels. -/
structure PixelFont where
  family : String
  pixels : Int
  bold : Bool
  italic : Bool
deriving DecidableEq, Repr

/-- What a surface is filled with. -/
inductive Fill (α : Type) where
  | color (name : String)
  | gradient (start stop : Point α) (first last : String)

/-- One stroke of a picture. -/
inductive Stroke (α : Type) where
  | smooth
  | fill (r : Rect α) (fill : Fill α)
  | shift (x y : α)
  | scale (x y : α)
  | clip (r : Rect α)
  | pen (color : Color) (width : Int) (style : LineStyle)
  | penColor (name : String)
  | noPen
  | noBrush
  | line (a b : Point α)
  | outline (r : Rect α)
  | font (f : PixelFont)
  | centredText (r : Rect α) (text : String)
  | textAt (p : Point α) (text : String)
  | opacity (v : α)
  | image (r : Rect α) (image : String)
  | done

variable {α : Type} [Scalar α]

namespace View

/-! ## 1. The grid -/

/-- The positions from `x` in steps up to the limit, at most `fuel` of them; a fault if there are
more. -/
def positionsFrom (step limit : α) : Nat → α → Except Fault (List α)
  | 0, x => if x ≤ limit then .error .endless else .ok []
  | fuel + 1, x =>
    if x ≤ limit then do
      let rest ← positionsFrom step limit fuel (x + step)
      return x :: rest
    else .ok []

/-- How many positions there can be at most: twice as many as the quotient says, to leave room for
rounding.  Where there is no quotient there is either one position or no end. -/
def positionsBound (step limit : α) : Nat :=
  match (Scalar.quotient limit step).bind Scalar.floor with
  | .ok n => 2 * n.toNat + 2
  | .error _ => 2

/-- The positions of the grid's lines along one side of the canvas. -/
def gridPositions (step limit : α) : Except Fault (List α) :=
  if !decide (Scalar.ofInt 0 ≤ limit) then .ok []
  else if step ≤ Scalar.ofInt 0 then .error .endless
  else positionsFrom step limit (positionsBound step limit) (Scalar.ofInt 0)

/-- The grid's strokes: the upright lines, then the level ones. -/
def paintGrid (step : α) (canvas : Extent α) : Except Fault (List (Stroke α)) := do
  let xs ← gridPositions step canvas.width
  let ys ← gridPositions step canvas.height
  let upright := xs.map fun x => Stroke.line ⟨x, Scalar.ofInt 0⟩ ⟨x, canvas.height⟩
  let level := ys.map fun y => Stroke.line ⟨Scalar.ofInt 0, y⟩ ⟨canvas.width, y⟩
  return .pen (.blackened 20) 0 .solid :: upright ++ level

/-! ## 2. Layers -/

/-- A box with its edges moved: the left, the top, the right and the bottom one. -/
def adjusted (r : Rect α) (left top right bottom : Int) : Rect α :=
  ⟨r.x + Scalar.ofInt left, r.y + Scalar.ofInt top,
    r.width - Scalar.ofInt left + Scalar.ofInt right,
    r.height - Scalar.ofInt top + Scalar.ofInt bottom⟩

/-- The size of a video as it is written on it. -/
def videoLabel (clip : Clip α) : Except Fault String := do
  let w ← Panel.shownNumber clip.width
  let h ← Panel.shownNumber clip.height
  return w ++ "×" ++ h ++ if clip.aspectLocked.isOn then "  (locked)" else ""

/-- The strokes of a video: a coloured box with its edge, its handles if it is selected, its name and
its size. -/
def paintVideo (l : Layer α) (clip : Clip α) (selected : Bool) :
    Except Fault (List (Stroke α)) := do
  let r : Rect α := ⟨l.x, l.y, clip.width, clip.height⟩
  let label ← videoLabel clip
  let frame :=
    if selected then
      [.pen (.named Theme.selection) 3 .solid, .outline r, .noPen]
        ++ l.handles.map fun h => Stroke.fill h.2 (.color Theme.selection)
    else [.pen (.named Theme.layerEdge) 1 .solid, .outline r]
  return [.fill r (.gradient ⟨r.x, r.y⟩ ⟨r.x, r.bottom⟩ Theme.videoTop Theme.videoBottom)]
    ++ frame ++ [
    .penColor Theme.white,
    .font ⟨"", 14, true, false⟩,
    .centredText (adjusted r 0 0 0 (-24)) l.name,
    .font ⟨"", 12, false, false⟩,
    .centredText (adjusted r 0 16 0 0) label]

/-- The strokes of a text: its letters, and its box dashed.  `ascent` is how high the letters of a
font reach above their line. -/
def paintText (measure : Measurer α) (ascent : α) (l : Layer α) (c : Caption α)
    (selected : Bool) : Except Fault (List (Stroke α)) := do
  let box ← l.box measure
  let pixels ← Measurer.pixelSize c.font.size
  let baseline := l.y + Scalar.half (box.height - c.font.size) + ascent
  let edge := if selected then Theme.selection else Theme.layerEdge
  return [
    .font ⟨c.font.family, pixels, c.font.bold.isOn, c.font.italic.isOn⟩,
    .penColor c.color,
    .textAt ⟨l.x + Scalar.half Caption.padding, baseline⟩ c.shown,
    .pen (.named edge) (if selected then 2 else 1) .dashed,
    .noBrush,
    .outline box]

/-- The strokes of a layer. -/
def paintLayer (measure : Measurer α) (ascent : α) (selected : Option String) (l : Layer α) :
    Except Fault (List (Stroke α)) :=
  let chosen := selected == some l.id
  match l.content with
  | .video clip => paintVideo l clip chosen
  | .text c => paintText measure ascent l c chosen

/-- The layers that are painted, in the order in which they are. -/
def paintedLayers (layers : List (Layer α)) : List (Layer α) :=
  (Stacking.bottomUp layers).filter (·.visible.isOn)

/-! ## 3. The picture -/

/-- The strokes of the template, if there is one and its image is at hand. -/
def paintTemplate (d : Document α) (image : Option String) (whole : Rect α) : List (Stroke α) :=
  match image with
  | some name =>
    if d.hasTemplate then
      [.opacity d.templateOpacity, .image whole name, .opacity (Scalar.ofInt 1)]
    else []
  | none => []

/-- The picture of a document in a widget. -/
def paint (measure : Measurer α) (ascent : α) (widget : Extent α) (image : Option String)
    (d : Document α) : Except Fault (List (Stroke α)) := do
  let origin := Scalar.ofInt 0
  let place ← Placement.of widget d.canvas
  let whole : Rect α := ⟨origin, origin, d.canvas.width, d.canvas.height⟩
  let grid ← if d.showGrid then paintGrid d.gridSize d.canvas else .ok []
  let layers ← (paintedLayers d.layers).mapM (paintLayer measure ascent d.selectedId)
  return [
    .smooth,
    .fill ⟨origin, origin, widget.width, widget.height⟩ (.color Theme.background),
    .shift place.rect.x place.rect.y,
    .scale place.scale place.scale,
    .fill whole (.color Theme.canvas),
    .clip whole]
    ++ grid ++ layers.flatten ++ paintTemplate d image whole ++ [.done]

end View

end Compositor
