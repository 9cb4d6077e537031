import Compositor.Panel.Form
import Compositor.Stacking
import Compositor.Theme

/-!
# The list of layers

The side panel lists the layers, topmost first, one row each.  Making rows is costly, and while a
layer is dragged nothing in its row changes; so the list remembers for which document its rows were
made, as far as rows show it, and keeps them while that stays the same.

The list listens to the button for visibility of each row, but not before the row is made: the
button is set for the layer first (`Row.make`).
-/

namespace Compositor.Panel

/-- A picture on a button: its name, and its colour. -/
structure Icon where
  name : String
  color : String
deriving DecidableEq, Repr

/-- An icon in the usual colour. -/
def Icon.plain (name : String) : Icon := ⟨name, Theme.icon⟩

/-- A row of the list of layers. -/
structure Row where
  id : String
  kind : LayerKind
  title : String
  visible : Bool
  selected : Bool
  /-- Whether the button for visibility is pressed in. -/
  eye : Bool
  /-- Whether the list listens to the button. -/
  heard : Bool
deriving DecidableEq, Repr

namespace Row

/-- The row that shows a layer. -/
def ofLayer {α : Type} [Scalar α] (selected : Option String) (l : Layer α) : Row :=
  ⟨l.id, l.kind, l.name, l.visible.isOn, selected == some l.id, l.visible.isOn, true⟩

/-- Presses the button for visibility in, or lets it come out; who listens is told of a change. -/
def setEye (r : Row) (b : Bool) : Row × List Signal :=
  ({ r with eye := b }, if r.heard && r.eye != b then [.visible r.id b] else [])

/-- Makes the row for a layer: the button, which is out at first, is set for the layer, and then the
list listens to it.  With the row comes what it told meanwhile. -/
def make {α : Type} [Scalar α] (selected : Option String) (l : Layer α) : Row × List Signal :=
  let blank := { ofLayer selected l with eye := false, heard := false }
  let (r, told) := blank.setEye l.visible.isOn
  ({ r with heard := true }, told)

/-- A row that is made shows its layer, and told nothing. -/
theorem make_eq {α : Type} [Scalar α] (selected : Option String) (l : Layer α) :
    make selected l = (ofLayer selected l, []) := rfl

/-- The frame of a row. -/
def style (r : Row) : String :=
  let fill := if r.selected then Theme.panelSelected else Theme.panel
  let edge := if r.selected then Theme.selection else Theme.stroke
  "LayerRow \x7b background:" ++ fill ++ "; border:1px solid " ++ edge
    ++ "; border-radius:4px; \x7d"

/-- The look of a row's title: dim when the layer is hidden. -/
def titleStyle (r : Row) : String :=
  "color:" ++ Theme.text ++ "; font-weight:600; "
    ++ if r.visible then "" else "color:" ++ Theme.textDim ++ ";"

/-- The picture for the layer's kind. -/
def kindIcon (r : Row) : Icon :=
  match r.kind with
  | .video => .plain "fa5s.video"
  | .text => .plain "fa5s.font"

/-- The picture on the button for visibility. -/
def eyeIcon (r : Row) : Icon := .plain (if r.visible then "fa5s.eye" else "fa5s.eye-slash")

end Row

/-- The rows that show a document. -/
def freshRows {α : Type} [Scalar α] (selected : Option String) (layers : List (Layer α)) : List Row :=
  (Stacking.topDown layers).map (Row.ofLayer selected)

/-- Makes the rows for a document; with them comes what they told meanwhile. -/
def makeRows {α : Type} [Scalar α] (selected : Option String) (layers : List (Layer α)) :
    List Row × List Signal :=
  let made := (Stacking.topDown layers).map (Row.make selected)
  (made.map (·.1), made.flatMap (·.2))

/-- The rows that are made show the document, and told nothing. -/
theorem makeRows_eq {α : Type} [Scalar α] (selected : Option String) (layers : List (Layer α)) :
    makeRows selected layers = (freshRows selected layers, []) := by
  simp [makeRows, freshRows, Row.make_eq]

/-- What of a document the rows depend on. -/
structure RowKey where
  selected : Option String
  layers : List (String × String × Bool × Int)
deriving DecidableEq, Repr

/-- What of a document the rows depend on. -/
def RowKey.of {α : Type} [Scalar α] (selected : Option String) (layers : List (Layer α)) :
    RowKey :=
  ⟨selected, layers.map fun l => (l.id, l.name, l.visible.isOn, l.zIndex)⟩

/-- The list of rows with its memory. -/
structure RowList where
  /-- For what the rows were made; nothing before the first time. -/
  madeFor : Option RowKey
  rows : List Row
  /-- How often rows were made. -/
  generation : Nat
deriving DecidableEq, Repr

namespace RowList

/-- A list that has not shown anything. -/
def empty : RowList := ⟨none, [], 0⟩

/-- Shows a document, with the rows that are there if they were made for what is to be shown.  With
the list comes what new rows told. -/
def refresh {α : Type} [Scalar α] (list : RowList) (selected : Option String)
    (layers : List (Layer α)) : RowList × List Signal :=
  let key := RowKey.of selected layers
  if list.madeFor = some key then (list, [])
  else
    let (rows, told) := makeRows selected layers
    (⟨some key, rows, list.generation + 1⟩, told)

/-- Showing a document tells nothing. -/
theorem signals_refresh {α : Type} [Scalar α] (list : RowList) (selected : Option String)
    (layers : List (Layer α)) : (list.refresh selected layers).2 = [] := by
  unfold refresh
  dsimp only
  split
  · rfl
  · rw [makeRows_eq]

/-- Presses the button for visibility in the row of a layer. -/
def flipEye (list : RowList) (id : String) : RowList :=
  { list with
    rows := list.rows.map fun r => if r.id == id then (r.setEye (!r.eye)).1 else r }

/-- Whether rows were made since an earlier time, when the list was `before`; making no rows out of
none does not count. -/
def remadeSince (list before : RowList) : Bool :=
  before.generation != list.generation && !(before.rows.isEmpty && list.rows.isEmpty)

/-- The row of a layer. -/
def find? (list : RowList) (id : String) : Option Row := list.rows.find? (·.id == id)

end RowList

end Compositor.Panel
