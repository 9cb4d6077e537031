import Compositor.Handle
import Compositor.Snap

/-!
# The document

One editing session works on one document: the layers, which of them is selected, what the pointer
is doing, the canvas with its template and grid, and the counter from which new ids are drawn.  A
document is a plain value; every operation takes one and gives a new one.

An id that belongs to no layer is never an error.  Such ids are common, for instance after the
selected layer was removed, and operations on them give back the document as it was.
-/

namespace Compositor

/-- What the pointer is doing. -/
inductive Interaction (α : Type) where
  | idle
  /-- A layer is dragged; `grab` is where it was grabbed, from its top left corner. -/
  | dragging (layerId : String) (grab : Point α)
  /-- A video is resized; `start` is its box and `pointer` the pointer when the drag began. -/
  | resizing (layerId : String) (handle : Handle) (start : Rect α) (pointer : Point α)
deriving Repr

/-- A document. -/
structure Document (α : Type) where
  layers : List (Layer α)
  selectedId : Option String
  interaction : Interaction α
  canvas : Extent α
  templatePath : Option String
  templateOpacity : α
  showGrid : Bool
  snapToGrid : Bool
  gridSize : α
  idCounter : Int
deriving Repr

namespace Interaction

/-- The layer that a gesture works on. -/
def layerId? {α : Type} : Interaction α → Option String
  | .idle => none
  | .dragging id _ => some id
  | .resizing id _ _ _ => some id

end Interaction

variable {α : Type} [Scalar α]

namespace Extent

/-- The canvas until a template says otherwise. -/
def standard : Extent α := ⟨Defaults.canvasWidth, Defaults.canvasHeight⟩

end Extent

namespace Document

/-- The document with which a session starts. -/
def empty : Document α where
  layers := []
  selectedId := none
  interaction := .idle
  canvas := .standard
  templatePath := none
  templateOpacity := Defaults.templateOpacity
  showGrid := false
  snapToGrid := false
  gridSize := Defaults.gridSize
  idCounter := 0

instance : Inhabited (Document α) := ⟨empty⟩

/-- Whether there is a template. -/
def hasTemplate {α : Type} (d : Document α) : Bool := d.templatePath.isSome

/-- The layer with an id. -/
def layer? {α : Type} (d : Document α) (id : String) : Option (Layer α) :=
  Layer.find? d.layers (some id)

/-- The selected layer. -/
def selected? {α : Type} (d : Document α) : Option (Layer α) := Layer.find? d.layers d.selectedId

/-- The grid, switched on if coordinates snap to it. -/
def grid {α : Type} (d : Document α) : Grid α := ⟨d.snapToGrid, d.gridSize⟩

end Document

/-! ## The same document, as values -/

section

/-- The same point. -/
def Point.same (a b : Point α) : Bool := Scalar.same a.x b.x && Scalar.same a.y b.y

/-- The same size. -/
def Extent.same (a b : Extent α) : Bool :=
  Scalar.same a.width b.width && Scalar.same a.height b.height

/-- The same box. -/
def Rect.same (a b : Rect α) : Bool :=
  Scalar.same a.x b.x && Scalar.same a.y b.y && Scalar.same a.width b.width
    && Scalar.same a.height b.height

/-- The same gesture. -/
def Interaction.same : Interaction α → Interaction α → Bool
  | .idle, .idle => true
  | .dragging i p, .dragging j q => i == j && p.same q
  | .resizing i h r p, .resizing j k s q => i == j && h == k && r.same s && p.same q
  | _, _ => false

/-- The same document. -/
def Document.same (a b : Document α) : Bool :=
  Layer.sameAll a.layers b.layers && a.selectedId == b.selectedId
    && a.interaction.same b.interaction && a.canvas.same b.canvas
    && a.templatePath == b.templatePath && Scalar.same a.templateOpacity b.templateOpacity
    && a.showGrid == b.showGrid && a.snapToGrid == b.snapToGrid
    && Scalar.same a.gridSize b.gridSize && a.idCounter == b.idCounter

end

end Compositor
