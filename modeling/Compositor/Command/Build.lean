import Compositor.Command.Graph
import Compositor.Stacking
import Compositor.Text.Blank
import Compositor.Text.LowerCase

/-!
# From a layout to its filter graph

Only visible layers take part, from the bottom up, and videos always come before texts.  The inputs
are the videos in this order and then the template, so the video at position `k` is input `k`.

The label of each intermediate picture depends on what is still to come: the last layer's picture is
`final`, and the last video's is `videos` when texts follow.
-/

namespace Compositor.Command

variable {α : Type}

/-- The name of the template among the inputs. -/
def templateInput : String := "template.png"

/-- The file that stands for a video: its name in small letters, blanks turned to underscores. -/
def inputFile (name : String) : String :=
  String.ofList (Text.squeeze Text.isBlank '_' (Text.lower name).toList) ++ ".mp4"

/-- The name of a font's cut, for fonts that are not upright and regular. -/
def fontVariant [Scalar α] (font : Font α) : Option String :=
  match font.bold.isOn, font.italic.isOn with
  | true, true => some (font.family ++ " Bold Italic")
  | true, false => some (font.family ++ " Bold")
  | false, true => some (font.family ++ " Italic")
  | false, false => none

/-- The visible videos, from the bottom up. -/
def visibleVideos [Scalar α] (layers : List (Layer α)) : List (Layer α × Clip α) :=
  (Stacking.bottomUp (layers.filter (·.visible.isOn))).filterMap fun l => l.clip?.map (l, ·)

/-- The visible texts, from the bottom up. -/
def visibleTexts [Scalar α] (layers : List (Layer α)) : List (Layer α × Caption α) :=
  (Stacking.bottomUp (layers.filter (·.visible.isOn))).filterMap fun l => l.caption?.map (l, ·)

/-! ## The labels of the picture -/

/-- The label after the video at a position. -/
def labelAfterVideo (videos texts index : Nat) : Label :=
  if index + 1 = videos then (if texts = 0 then .final else .videos) else .merged index

/-- The label before the video at a position. -/
def labelBeforeVideo (videos texts : Nat) : Nat → Label
  | 0 => .base
  | index + 1 => labelAfterVideo videos texts index

/-- The label after the text at a position. -/
def labelAfterText (texts index : Nat) : Label :=
  if index + 1 = texts then .final else .captioned index

/-- The label before the text at a position. -/
def labelBeforeText (videos texts : Nat) : Nat → Label
  | 0 => labelBeforeVideo videos texts videos
  | index + 1 => labelAfterText texts index

/-! ## The stages -/

variable [Scalar α]

/-- The stage that makes the canvas. -/
def canvasStage (canvas : Extent α) : Except Fault Stage := do
  let w ← Scalar.roundHalfUp canvas.width
  let h ← Scalar.roundHalfUp canvas.height
  return .canvas w h

/-- The stage that scales the video at a position. -/
def scaleStage (index : Nat) (clip : Clip α) : Except Fault Stage := do
  let w ← Scalar.roundHalfUp clip.width
  let h ← Scalar.roundHalfUp clip.height
  return .scale index w h

/-- The stage that lays the video at a position over the picture. -/
def overlayStage (videos texts index : Nat) (l : Layer α) : Except Fault Stage := do
  let x ← Scalar.roundHalfUp l.x
  let y ← Scalar.roundHalfUp l.y
  return .overlay (labelBeforeVideo videos texts index) index x y
    (labelAfterVideo videos texts index)

/-- A text in whole pixels. -/
def drawing (l : Layer α) (c : Caption α) : Except Fault Drawing := do
  let size ← Scalar.roundHalfUp c.font.size
  let x ← Scalar.roundHalfUp l.x
  let y ← Scalar.roundHalfUp l.y
  return ⟨c.text, c.font.family, fontVariant c.font, c.color, size, x, y⟩

/-- The stage that draws the text at a position. -/
def captionStage (videos texts index : Nat) (l : Layer α) (c : Caption α) :
    Except Fault Stage := do
  let d ← drawing l c
  return .caption (labelBeforeText videos texts index) d (labelAfterText texts index)

/-- The graph of a list of videos and a list of texts, each from the bottom up. -/
def graphOf (videos : List (Layer α × Clip α)) (texts : List (Layer α × Caption α))
    (canvas : Extent α) (template : Bool) : Except Fault Graph := do
  let n := videos.length
  let m := texts.length
  let base ← canvasStage canvas
  let scales ← videos.zipIdx.mapM fun v => scaleStage v.2 v.1.2
  let overlays ← videos.zipIdx.mapM fun v => overlayStage n m v.2 v.1.1
  let captions ← texts.zipIdx.mapM fun t => captionStage n m t.2 t.1.1 t.1.2
  let picture := labelBeforeText n m m
  return {
    inputs := videos.map (fun v => inputFile v.1.name) ++ if template then [templateInput] else []
    stages := base :: scales ++ overlays ++ captions ++
      if template then [.template picture n] else []
    result := if template then .output else picture }

/-- The graph of a layout; a layout without a visible layer has none. -/
def Graph.ofLayers? (layers : List (Layer α)) (canvas : Extent α) (template : Bool) :
    Except Fault (Option Graph) :=
  if layers.any (·.visible.isOn) then do
    let g ← graphOf (visibleVideos layers) (visibleTexts layers) canvas template
    return some g
  else .ok none

end Compositor.Command
