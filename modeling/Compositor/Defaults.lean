import Compositor.Scalar

/-!
# The constants of the editor

Sizes a new layer, a new canvas and a new grid have, and the limits below which none of them goes.
-/

namespace Compositor.Defaults

variable {α : Type} [Scalar α]

/-- A canvas is upright, 504 by 846, until a template says otherwise. -/
def canvasWidth : α := Scalar.ofInt 504

@[inherit_doc canvasWidth]
def canvasHeight : α := Scalar.ofInt 846

/-- No side of a video is made shorter than this. -/
def minSide : α := Scalar.ofInt 50

/-- The side of the square with which a resize handle is grabbed. -/
def handleSide : α := Scalar.ofInt 10

/-- The distance of the grid lines, until it is set. -/
def gridSize : α := Scalar.ofInt 20

/-- The grid is never set finer than this. -/
def minGridSize : α := Scalar.ofInt 5

/-- How opaque a template is drawn, until it is set. -/
def templateOpacity : α := Scalar.ofDecimal 6 1

/-- The size of letters, until it is set. -/
def fontSize : α := Scalar.ofInt 48

/-- Letters are never set smaller than this. -/
def minFontSize : α := Scalar.ofInt 12

/-- How far a copy lies from its source, to the right and downwards. -/
def duplicateOffset : α := Scalar.ofInt 30

/-- The room that a copy is given at the right and at the bottom, whatever its own size. -/
def duplicateBound : α := Scalar.ofInt 100

/-- Width and height of a new video. -/
def videoSide : α := Scalar.ofInt 340

/-- Where the first video is put, on both axes. -/
def videoOrigin : Int := 20

/-- How far each of three videos in a row is put from the one before, on both axes. -/
def videoStagger : Int := 30

/-- Where the first text is put, on both axes. -/
def textOrigin : Int := 50

/-- How far below the text before it a text is put. -/
def textRowSpacing : Int := 80

/-- What a new text says. -/
def sampleText : String := "Sample Text"

/-- The colour of a new text. -/
def textColor : String := "#ffffff"

/-- What is drawn and measured in place of an empty text. -/
def textPlaceholder : String := "Text"

/-- The family of a new text, and of one whose family is not known. -/
def fontFamily : String := "Arial"

/-- The font families that a text can have. -/
def fontFamilies : List String :=
  [fontFamily, "Helvetica", "Times New Roman", "Courier New", "Georgia", "Verdana", "Impact",
    "Comic Sans MS", "Trebuchet MS", "Palatino"]

/-- A family that a text can have: the given one if it is known. -/
def knownFamily (name : String) : String :=
  if fontFamilies.contains name then name else fontFamily

/-- The family is known afterwards. -/
theorem knownFamily_mem (name : String) : knownFamily name ∈ fontFamilies := by
  unfold knownFamily
  split
  · rename_i h
    exact List.contains_iff_mem.mp h
  · simp [fontFamilies]

end Compositor.Defaults
