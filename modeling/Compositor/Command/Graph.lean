import Compositor.Layer

/-!
# The filter graph of a layout

The command that draws a layout feeds its inputs through a graph of filter stages.  A stage consumes
inputs and labels, and produces one label.  The labels form one running picture: it starts as a
black canvas, each video is laid over it, then each text is drawn on it, and at last the template is
laid over everything.

`Graph` is that structure, before it is written as text (`Compositor.Command.Text`).
-/

namespace Compositor.Command

/-- A label of the filter graph. -/
inductive Label where
  /-- The black canvas. -/
  | base
  /-- A video scaled and padded to its box. -/
  | scaled (index : Nat)
  /-- The picture with a video that is not the last one. -/
  | merged (index : Nat)
  /-- The picture with all videos, when texts follow. -/
  | videos
  /-- The picture with a text that is not the last one. -/
  | captioned (index : Nat)
  /-- The picture with all layers. -/
  | final
  /-- The picture with the template. -/
  | output
deriving DecidableEq, Repr

namespace Label

/-- The label's name in the graph. -/
def word : Label → String
  | .base => "base"
  | .scaled i => "v" ++ toString i
  | .merged i => "tmp" ++ toString i
  | .videos => "videos"
  | .captioned i => "txt" ++ toString i
  | .final => "final"
  | .output => "output"

end Label

/-- How a text is drawn: everything in whole pixels. -/
structure Drawing where
  text : String
  family : String
  variant : Option String
  color : String
  size : Int
  x : Int
  y : Int
deriving DecidableEq, Repr

/-- One stage of the filter graph. -/
inductive Stage where
  /-- Makes the black canvas. -/
  | canvas (width height : Int)
  /-- Scales and pads the video of an input to a box. -/
  | scale (input : Nat) (width height : Int)
  /-- Lays a scaled video over the picture. -/
  | overlay (under : Label) (index : Nat) (x y : Int) (produces : Label)
  /-- Draws a text on the picture. -/
  | caption (under : Label) (drawing : Drawing) (produces : Label)
  /-- Lays the template, an input, over the picture. -/
  | template (under : Label) (input : Nat)
deriving DecidableEq, Repr

namespace Stage

/-- The label that a stage produces. -/
def produced : Stage → Label
  | .canvas _ _ => .base
  | .scale i _ _ => .scaled i
  | .overlay _ _ _ _ l => l
  | .caption _ _ l => l
  | .template _ _ => .output

/-- The labels that a stage consumes. -/
def consumed : Stage → List Label
  | .canvas _ _ => []
  | .scale _ _ _ => []
  | .overlay u i _ _ _ => [u, .scaled i]
  | .caption u _ _ => [u]
  | .template u _ => [u]

/-- The inputs that a stage reads. -/
def reads : Stage → List Nat
  | .scale i _ _ => [i]
  | .template _ i => [i]
  | _ => []

end Stage

/-- The command for a layout: its input files, its stages in order, and the label of the result. -/
structure Graph where
  inputs : List String
  stages : List Stage
  result : Label
deriving DecidableEq, Repr

end Compositor.Command
