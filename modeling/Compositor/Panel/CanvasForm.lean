import Compositor.Panel.Form

/-!
# The form of the canvas

The form shows the canvas's size, whether there is a template to clear, the template's opacity as a
slider from 0 to 100, the two switches of the grid, and the distance of its lines.
-/

namespace Compositor.Panel

/-- The form of the canvas, as far as it can be seen. -/
structure CanvasForm where
  size : String
  clearEnabled : Bool
  opacity : Int
  showGrid : Bool
  snap : Bool
  gridSize : String
  /-- The keys of the widgets that tell nothing. -/
  blocked : List String
deriving DecidableEq, Repr

namespace CanvasForm

/-- The form before it has shown anything. -/
def fresh : CanvasForm where
  size := ""
  clearEnabled := true
  opacity := 0
  showGrid := false
  snap := false
  gridSize := ""
  blocked := []

/-- The ends of the slider. -/
def sliderRange : Int × Int := (0, 100)

/-- The place of the slider for a value. -/
def sliderPlace (n : Int) : Int :=
  if n < sliderRange.1 then sliderRange.1 else if sliderRange.2 < n then sliderRange.2 else n

/-- The form with a value in a widget. -/
def receive (f : CanvasForm) (key : String) (s : Setting) : CanvasForm :=
  match key, s with
  | "size_label", .text s => { f with size := s }
  | "clear_btn", .enabled b => { f with clearEnabled := b }
  | "opacity", .value n => { f with opacity := sliderPlace n }
  | "show_grid", .checked b => { f with showGrid := b }
  | "snap", .checked b => { f with snap := b }
  | "grid_size", .text s => { f with gridSize := s }
  | _, _ => f

/-- What the widget tells when a value is put in: nothing unless its content changes. -/
def signal? (f : CanvasForm) (key : String) (s : Setting) : Option Signal :=
  match key, s with
  | "opacity", .value n =>
    if f.opacity == sliderPlace n then none else some (.opacity (sliderPlace n))
  | "show_grid", .checked b => if f.showGrid == b then none else some (.showGrid b)
  | "snap", .checked b => if f.snap == b then none else some (.snapToGrid b)
  | _, _ => none

/-- Puts a value into a widget: the form afterwards, and what is told. -/
def put (f : CanvasForm) (key : String) (s : Setting) : CanvasForm × List Signal :=
  (f.receive key s, heardOf f.blocked key (f.signal? key s))

/-- What the line for the distance of the grid lines tells when it is left with a text in it. -/
def leave (f : CanvasForm) (text : String) : List Signal :=
  heardOf f.blocked "grid_size" (some (.entered gridSizeKey text))

/-- The widgets that are blocked while a document is shown. -/
def silenced : List String := ["opacity", "show_grid", "snap", "grid_size"]

/-- What is put into a widget leaves the form blocked or not, as it was. -/
theorem blocked_receive (f : CanvasForm) (key : String) (s : Setting) :
    (f.receive key s).blocked = f.blocked := by
  unfold receive
  split <;> rfl

/-- A widget that is not blocked while a document is shown never tells anything. -/
theorem signal?_eq_none {key : String} (h : key ∉ silenced) (f : CanvasForm) (s : Setting) :
    f.signal? key s = none := by
  unfold signal?
  split <;> first | rfl | exact absurd (by decide) h

/-- Shows a document.  The widgets stay blocked when the document cannot be shown. -/
def present {α : Type} [Scalar α] (f : CanvasForm) (focused : String → Bool) (d : Document α) :
    Filled CanvasForm :=
  let filled := fill put { f with blocked := silenced } (canvasFilling focused d)
  { filled with
    form := { filled.form with blocked := if filled.fault.isSome then silenced else [] } }

/-- Whether a document can be shown does not depend on the form. -/
theorem fault_present {α : Type} [Scalar α] (f : CanvasForm) (focused : String → Bool)
    (d : Document α) : (f.present focused d).fault = fault? (canvasFilling focused d) :=
  fault_fill _ _

/-- Showing a document tells nothing. -/
theorem signals_present {α : Type} [Scalar α] (f : CanvasForm) (focused : String → Bool)
    (d : Document α) : (f.present focused d).signals = [] := by
  refine signals_fill (fun g => g.blocked = silenced) ?_ ?_ _ _ rfl
  · intro g key s h
    by_cases hkey : key ∈ silenced
    · exact heardOf_of_mem (by rwa [h]) _
    · simp [put, signal?_eq_none hkey]
  · intro g key s h
    exact (blocked_receive g key s).trans h

end CanvasForm

end Compositor.Panel
