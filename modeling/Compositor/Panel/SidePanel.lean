import Compositor.Panel.CanvasForm
import Compositor.Panel.LayerForm
import Compositor.Panel.Rows

/-!
# The side panel

The side panel holds the form of the canvas, the list of layers and the form of the selected layer,
and shows a document in that order: what cannot be shown in one part keeps the later ones from being
brought up to date.

While a document is shown no widget tells anything: those that could are blocked, or are not listened
to yet.  So nothing that is shown comes back as an action (`SidePanel.signals_present`).
-/

namespace Compositor.Panel

/-- The side panel. -/
structure SidePanel where
  canvas : CanvasForm
  rows : RowList
  layer : LayerForm
deriving DecidableEq, Repr

namespace SidePanel

/-- The panel before it has shown anything. -/
def fresh : SidePanel := ⟨.fresh, .empty, .fresh⟩

/-- Shows a document. -/
def present {α : Type} [Scalar α] (p : SidePanel) (focused : String → Bool) (d : Document α) :
    Filled SidePanel :=
  let canvas := p.canvas.present focused d
  match canvas.fault with
  | some fault => ⟨{ p with canvas := canvas.form }, canvas.signals, some fault⟩
  | none =>
    let (rows, told) := p.rows.refresh d.selectedId d.layers
    let layer := p.layer.present focused d.selected?
    ⟨⟨canvas.form, rows, layer.form⟩, canvas.signals ++ told ++ layer.signals, layer.fault⟩

/-- Showing a document tells nothing. -/
theorem signals_present {α : Type} [Scalar α] (p : SidePanel) (focused : String → Bool)
    (d : Document α) : (p.present focused d).signals = [] := by
  have canvas := p.canvas.signals_present focused d
  have rows := p.rows.signals_refresh d.selectedId d.layers
  have layer := p.layer.signals_present focused d.selected?
  cases h : (p.canvas.present focused d).fault <;> simp [present, h, canvas, rows, layer]

end SidePanel

end Compositor.Panel
