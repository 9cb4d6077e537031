import Compositor.Panel.Form

/-!
# The form of the selected layer

The form has a page for videos, a page for texts and an empty one.  It remembers which layer it
shows: what is typed into a line is entered for that layer, whichever page the line is on.

A line keeps its text until another one is put in.  The lines of a page that is not shown keep what
they had, and so does a focused line when another layer is shown.
-/

namespace Compositor.Panel

/-- The form of the selected layer, as far as it can be seen. -/
structure LayerForm where
  shownId : Option String
  page : Page
  /-- The texts of the lines, by their keys. -/
  lines : List (String × String)
  aspectLocked : Bool
  fontFamily : String
  colorLabel : String
  colorStyle : Option String
  bold : Bool
  italic : Bool
  /-- The keys of the widgets that tell nothing. -/
  blocked : List String
deriving DecidableEq, Repr

namespace LayerForm

/-- The fields that have a line on a page. -/
def lineFields : Page → List String
  | .empty => []
  | .video => ["name", "width", "height", "x", "y"]
  | .text => ["name", "text", "font_size", "x", "y"]

/-- The keys of all lines. -/
def lineKeys : List String :=
  (lineFields .video).map (fieldKey .video) ++ (lineFields .text).map (fieldKey .text)

/-- The keys of all widgets: the lines, and what else is on the pages. -/
def widgetKeys : List String :=
  lineKeys ++ ["video.aspect_locked", "text.font_family", "text.color", "text.bold", "text.italic"]

/-- The form before it has shown anything. -/
def fresh : LayerForm where
  shownId := none
  page := .empty
  lines := lineKeys.map fun key => (key, "")
  aspectLocked := false
  fontFamily := Defaults.fontFamily
  colorLabel := ""
  colorStyle := none
  bold := false
  italic := false
  blocked := []

/-- The text of a line. -/
def line (f : LayerForm) (key : String) : String := (f.lines.lookup key).getD ""

/-- Puts a text into a line. -/
def setLine (f : LayerForm) (key text : String) : LayerForm :=
  { f with lines := f.lines.map fun l => if l.1 == key then (l.1, text) else l }

/-- The form with a value in a widget.  The choice of fonts takes only fonts that it holds. -/
def receive (f : LayerForm) (key : String) (s : Setting) : LayerForm :=
  match key, s with
  | "video.aspect_locked", .checked b => { f with aspectLocked := b }
  | "text.bold", .checked b => { f with bold := b }
  | "text.italic", .checked b => { f with italic := b }
  | "text.font_family", .choice s =>
    if Defaults.fontFamilies.contains s then { f with fontFamily := s } else f
  | "text.color", .text s => { f with colorLabel := s }
  | "text.color", .style s => { f with colorStyle := some s }
  | key, .text s => f.setLine key s
  | _, _ => f

/-- What the widget tells when a value is put in: nothing unless its content changes. -/
def signal? (f : LayerForm) (key : String) (s : Setting) : Option Signal :=
  match key, s with
  | "video.aspect_locked", .checked b =>
    if f.aspectLocked == b then none else some (.aspectLocked b)
  | "text.bold", .checked b => if f.bold == b then none else some (.bold b)
  | "text.italic", .checked b => if f.italic == b then none else some (.italic b)
  | "text.font_family", .choice s =>
    if Defaults.fontFamilies.contains s && f.fontFamily != s then some (.fontFamily s) else none
  | _, _ => none

/-- Puts a value into a widget: the form afterwards, and what is told. -/
def put (f : LayerForm) (key : String) (s : Setting) : LayerForm × List Signal :=
  (f.receive key s, heardOf f.blocked key (f.signal? key s))

/-- What a line tells when it is left with a text in it. -/
def leave (f : LayerForm) (key text : String) : List Signal :=
  heardOf f.blocked key (some (.entered key text))

/-- Turns to a page.  A line in which the user types is left when its page is hidden. -/
def turn (f : LayerForm) (focused : String → Bool) (page : Page) : LayerForm × List Signal :=
  let hidden := if page = f.page then [] else (lineFields f.page).map (fieldKey f.page)
  ({ f with page := page }, (hidden.filter focused).flatMap fun key => f.leave key (f.line key))

/-- What is put into a widget leaves the form blocked or not, as it was. -/
theorem blocked_receive (f : LayerForm) (key : String) (s : Setting) :
    (f.receive key s).blocked = f.blocked := by
  unfold receive
  split <;> try rfl
  split <;> rfl

/-- What is no widget of the form tells nothing. -/
theorem signal?_eq_none {key : String} (h : key ∉ widgetKeys) (f : LayerForm) (s : Setting) :
    f.signal? key s = none := by
  unfold signal?
  split <;> first | rfl | exact absurd (by decide) h

/-- Every line is one of the widgets. -/
theorem lineKey_mem (page : Page) : ∀ field ∈ lineFields page, fieldKey page field ∈ widgetKeys := by
  cases page <;> decide

/-- A form whose widgets are all blocked tells nothing when it turns to a page. -/
theorem signals_turn {f : LayerForm} (h : f.blocked = widgetKeys) (focused : String → Bool)
    (page : Page) : (f.turn focused page).2 = [] := by
  refine List.flatMap_eq_nil_iff.mpr fun key hkey => ?_
  have hhidden := (List.mem_filter.mp hkey).1
  split at hhidden
  · exact nomatch hhidden
  · obtain ⟨field, hfield, rfl⟩ := List.mem_map.mp hhidden
    exact heardOf_of_mem (by rw [h]; exact lineKey_mem f.page field hfield) _

/-- Shows a layer, or none.  The page is turned last, and only then can the widgets tell anything. -/
def present {α : Type} [Scalar α] (f : LayerForm) (focused : String → Bool)
    (l : Option (Layer α)) : Filled LayerForm :=
  let filled :=
    fill put { f with shownId := l.map (·.id), blocked := widgetKeys } (layerFilling focused l)
  let page := if filled.fault.isNone then Page.ofLayer? l else filled.form.page
  let (form, told) := filled.form.turn focused page
  ⟨{ form with blocked := [] }, filled.signals ++ told, filled.fault⟩

/-- Showing a layer tells nothing. -/
theorem signals_present {α : Type} [Scalar α] (f : LayerForm) (focused : String → Bool)
    (l : Option (Layer α)) : (f.present focused l).signals = [] := by
  refine List.append_eq_nil_iff.mpr ⟨?_, signals_turn ?_ focused _⟩
  · refine signals_fill (fun g => g.blocked = widgetKeys) ?_ ?_ _ _ rfl
    · intro g key s h
      by_cases hkey : key ∈ widgetKeys
      · exact heardOf_of_mem (by rwa [h]) _
      · simp [put, signal?_eq_none hkey]
    · intro g key s h
      exact (blocked_receive g key s).trans h
  · exact form_fill LayerForm.blocked (fun g key s => blocked_receive g key s) _ _

/-- A widget that is set at another time does tell. -/
example : (fresh.put "text.bold" (.checked true)).2 = [.bold true] := by decide

/-- What is put into a widget does not change which layer the form shows. -/
theorem shownId_receive (f : LayerForm) (key : String) (s : Setting) :
    (f.receive key s).shownId = f.shownId := by
  unfold receive
  split <;> try rfl
  split <;> rfl

/-- A form that shows a layer, or none, shows that one, even if not all of it can be shown. -/
theorem shownId_present {α : Type} [Scalar α] (f : LayerForm) (focused : String → Bool)
    (l : Option (Layer α)) : (f.present focused l).form.shownId = l.map (·.id) :=
  form_fill LayerForm.shownId (fun g key s => shownId_receive g key s) _ _

end LayerForm

end Compositor.Panel
