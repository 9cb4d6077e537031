import Compositor.Panel.LayerForm
import Compositor.Session

/-!
# From the form to the session

What is put into a line of the layer form is entered for the layer that the form shows.  A form that
shows none enters nothing.
-/

namespace Compositor.Panel.LayerForm

variable {α : Type} [Scalar α]

/-- The action that enters a value of a line, if the form shows a layer. -/
def entry? (f : LayerForm) (key : String) (raw : Raw α) : Option (Action α) :=
  f.shownId.map fun id => .enter id (fieldOfKey key) raw

/-- The action that changes the layer that the form shows, if it shows one. -/
def change? (f : LayerForm) (c : Changes α) : Option (Action α) :=
  f.shownId.map fun id => .update id c

/-- A form that shows the selected layer of a document. -/
def ofDocument (d : Document α) : Filled LayerForm :=
  fresh.present (fun _ => false) d.selected?

/-- Shows the selected layer of a session in a new form, and enters a value there. -/
def commitIn (measure : Measurer α) (s : Session α) (key : String) (raw : Raw α) :
    Except Fault (Session α × List (Event α)) :=
  let shown := ofDocument s.document
  match shown.fault, shown.form.entry? key raw with
  | some fault, _ => .error fault
  | none, some a => s.perform measure a
  | none, none => .ok (s, [])

end Compositor.Panel.LayerForm
