import Compositor.Document
import Compositor.Raw

/-!
# Canvas, template and grid

A template gives the canvas its own size; a template without a size is ignored.  The settings of the
grid and of the template's opacity take whatever comes from outside and stay within their limits.
-/

namespace Compositor.Document

variable {α : Type} [Scalar α]

/-- Puts a template over the canvas, which takes its size. -/
def loadTemplate (d : Document α) (path : String) (width height : Int) : Document α :=
  if width ≤ 0 || height ≤ 0 then d
  else
    { d with
      templatePath := some path
      canvas := ⟨Scalar.ofInt width, Scalar.ofInt height⟩ }

/-- Takes the template away; the canvas keeps its size. -/
def clearTemplate {α : Type} (d : Document α) : Document α := { d with templatePath := none }

/-- Gives the canvas its first size. -/
def resetCanvas (d : Document α) : Document α := { d with canvas := .standard }

/-- Sets the template's opacity, between zero and one. -/
def setTemplateOpacity (d : Document α) (raw : Raw α) : Except Fault (Document α) := do
  let v ← raw.finiteOr Defaults.templateOpacity
  return { d with templateOpacity := Scalar.clamp v (Scalar.ofInt 0) (Scalar.ofInt 1) }

/-- Shows or hides the grid. -/
def setShowGrid (d : Document α) (raw : Raw α) : Document α := { d with showGrid := raw.truthy }

/-- Switches snapping on or off. -/
def setSnapToGrid (d : Document α) (raw : Raw α) : Document α :=
  { d with snapToGrid := raw.truthy }

/-- Sets the distance of the grid lines, never below the smallest one. -/
def setGridSize (d : Document α) (raw : Raw α) : Except Fault (Document α) := do
  let v ← raw.finiteOr Defaults.gridSize
  return { d with gridSize := Scalar.larger Defaults.minGridSize v }

end Compositor.Document
