import Compositor.Document.Change

/-!
# The forms of the side panel

The side panel has a form for the selected layer, with a page for videos and a page for texts, and a
form for the canvas.  A form shows a document by putting values into its widgets; a `Filling` is the
list of what is put where.  A line in which the user is typing (it has the *focus*) is passed over.

Numbers are shown rounded to whole ones.  What is shown is therefore less than what the document
holds, and typing it in again may change the document.  A number that has no whole one near it
cannot be shown, and the filling ends there (`fill`).

Widgets tell when their content changes, by a `Signal`, and what they tell becomes an action on the
document.  A widget that is *blocked* tells nothing, and a form blocks widgets while it is filled.
-/

namespace Compositor.Panel

/-- What is put into a widget. -/
inductive Setting where
  | text (s : String)
  | checked (b : Bool)
  | choice (s : String)
  | style (s : String)
  | enabled (b : Bool)
  | value (n : Int)
deriving DecidableEq, Repr

/-- What a widget tells when its content changes. -/
inductive Signal where
  | aspectLocked (b : Bool)
  | bold (b : Bool)
  | italic (b : Bool)
  | fontFamily (s : String)
  | opacity (percent : Int)
  | showGrid (b : Bool)
  | snapToGrid (b : Bool)
  /-- The button for visibility in the row of a layer is pressed in, or comes out. -/
  | visible (id : String) (b : Bool)
  /-- The line of a key is left with a text in it. -/
  | entered (key text : String)
deriving DecidableEq, Repr

/-- What reaches those who listen to a widget: what it tells, unless it is blocked. -/
def heardOf (blocked : List String) (key : String) (s : Option Signal) : List Signal :=
  if blocked.contains key then [] else s.toList

/-- A blocked widget is not heard. -/
theorem heardOf_of_mem {blocked : List String} {key : String} (h : key ∈ blocked)
    (s : Option Signal) : heardOf blocked key s = [] := by
  simp [heardOf, h]

/-- A widget that tells nothing is not heard, blocked or not. -/
@[simp] theorem heardOf_none (blocked : List String) (key : String) :
    heardOf blocked key none = [] := by
  simp [heardOf]

/-- A widget is heard at most once. -/
theorem length_heardOf_le (blocked : List String) (key : String) (s : Option Signal) :
    (heardOf blocked key s).length ≤ 1 := by
  unfold heardOf
  split
  · exact Nat.zero_le 1
  · cases s <;> simp

/-! ## 1. Filling -/

/-- What a form puts into its widgets, by the widgets' keys; what cannot be shown is a fault in its
place. -/
abbrev Filling := List (String × Except Fault Setting)

/-- The filling, if all of it can be shown. -/
def settled : Filling → Except Fault (List (String × Setting))
  | [] => .ok []
  | (key, shown) :: rest => do
    let s ← shown
    let settings ← settled rest
    return (key, s) :: settings

/-- A form after it was filled: what its widgets told meanwhile, and why the filling ended early. -/
structure Filled (F : Type) where
  form : F
  signals : List Signal
  fault : Option Fault
deriving Repr

/-- Puts a filling into a form, up to what cannot be shown. -/
def fill {F : Type} (put : F → String → Setting → F × List Signal) (form : F) : Filling → Filled F
  | [] => ⟨form, [], none⟩
  | (_, .error fault) :: _ => ⟨form, [], some fault⟩
  | (key, .ok s) :: rest =>
    let told := put form key s
    let filled := fill put told.1 rest
    { filled with signals := told.2 ++ filled.signals }

/-- A form that is silent under every setting, and stays so, tells nothing while it is filled. -/
theorem signals_fill {F : Type} {put : F → String → Setting → F × List Signal}
    (silent : F → Prop)
    (tells : ∀ form key s, silent form → (put form key s).2 = [])
    (stays : ∀ form key s, silent form → silent (put form key s).1) (filling : Filling) :
    ∀ form, silent form → (fill put form filling).signals = [] := by
  induction filling with
  | nil => intro form _; rfl
  | cons entry rest ih =>
    intro form h
    obtain ⟨key, shown⟩ := entry
    cases shown with
    | error fault => rfl
    | ok s =>
      simp only [fill]
      rw [tells form key s h, ih _ (stays form key s h)]
      rfl

/-- What no setting changes in a form, no filling changes. -/
theorem form_fill {F β : Type} {put : F → String → Setting → F × List Signal} (view : F → β)
    (stays : ∀ form key s, view (put form key s).1 = view form) (filling : Filling) :
    ∀ form, view (fill put form filling).form = view form := by
  induction filling with
  | nil => intro form; rfl
  | cons entry rest ih =>
    intro form
    obtain ⟨key, shown⟩ := entry
    cases shown with
    | error fault => rfl
    | ok s => exact (ih _).trans (stays form key s)

/-- Why a filling ends early: the fault of the first thing in it that cannot be shown. -/
def fault? (filling : Filling) : Option Fault :=
  filling.findSome? fun entry =>
    match entry.2 with
    | .ok _ => none
    | .error fault => some fault

/-- How far a filling gets, and why not further, does not depend on the form. -/
theorem fault_fill {F : Type} {put : F → String → Setting → F × List Signal} (filling : Filling) :
    ∀ form, (fill put form filling).fault = fault? filling := by
  induction filling with
  | nil => intro form; rfl
  | cons entry rest ih =>
    intro form
    obtain ⟨key, shown⟩ := entry
    cases shown with
    | error fault => rfl
    | ok s => exact ih _

/-! ## 2. What is shown of a layer -/

/-- A page of the layer form. -/
inductive Page where
  | empty
  | video
  | text
deriving DecidableEq, Repr

namespace Page

/-- The page as text. -/
def word : Page → String
  | .empty => "empty"
  | .video => "video"
  | .text => "text"

/-- The page for a kind of layer. -/
def ofKind : LayerKind → Page
  | .video => .video
  | .text => .text

/-- The page that shows a layer, or that shows none. -/
def ofLayer? {α : Type} : Option (Layer α) → Page
  | none => .empty
  | some l => ofKind l.kind

end Page

/-- The key of a field on a page. -/
def fieldKey (page : Page) (field : String) : String := page.word ++ "." ++ field

/-- The field that a key names: what follows the first point. -/
def fieldOfKey (key : String) : String :=
  String.ofList ((key.toList.dropWhile (· != '.')).drop 1)

variable {α : Type} [Scalar α]

/-- A number as forms show it. -/
def shownNumber (v : α) : Except Fault String := do
  let n ← Scalar.roundEven v
  return toString n

/-- A number as a setting. -/
def numberSetting (v : α) : Except Fault Setting := (shownNumber v).map .text

/-- The lines of the page for a layer: their fields, and how each is written. -/
def lines (l : Layer α) : Filling :=
  match l.content with
  | .video c => [("name", .ok (.text l.name)), ("width", numberSetting c.width),
      ("height", numberSetting c.height), ("x", numberSetting l.x), ("y", numberSetting l.y)]
  | .text c => [("name", .ok (.text l.name)), ("text", .ok (.text c.text)),
      ("font_size", numberSetting c.font.size), ("x", numberSetting l.x), ("y", numberSetting l.y)]

/-- The lines of a page by their keys, without those that are focused. -/
def unfocusedLines (focused : String → Bool) (page : Page) (fields : Filling) : Filling :=
  (fields.map fun f => (fieldKey page f.1, f.2)).filter fun f => !focused f.1

/-- The style of the button that shows a colour. -/
def colorStyle (color : String) : String :=
  "QToolButton \x7b background:" ++ color
    ++ "; border:1px solid #444; color:#000; padding:4px; \x7d"

/-- The other widgets of the page for a layer. -/
def switches (l : Layer α) : Filling :=
  match l.content with
  | .video c => [("video.aspect_locked", .ok (.checked c.aspectLocked.isOn))]
  | .text c => [("text.font_family", .ok (.choice c.font.family)),
      ("text.bold", .ok (.checked c.font.bold.isOn)), ("text.italic", .ok (.checked c.font.italic.isOn)),
      ("text.color", .ok (.text c.color)), ("text.color", .ok (.style (colorStyle c.color)))]

/-- What the layer form puts into its widgets to show a layer, or none. -/
def layerFilling (focused : String → Bool) : Option (Layer α) → Filling
  | none => []
  | some l => unfocusedLines focused (.ofKind l.kind) (lines l) ++ switches l

/-! ## 3. What is shown of the canvas -/

/-- The percentage of an opacity. -/
def percent (opacity : α) : Except Fault Int := Scalar.roundEven (opacity * Scalar.ofInt 100)

/-- The canvas's size as the form shows it. -/
def sizeLabel (canvas : Extent α) : Except Fault String := do
  let w ← shownNumber canvas.width
  let h ← shownNumber canvas.height
  return w ++ " × " ++ h

/-- The key of the line for the distance of the grid lines. -/
def gridSizeKey : String := "canvas.grid_size"

/-- What the canvas form puts into its widgets to show a document. -/
def canvasFilling (focused : String → Bool) (d : Document α) : Filling :=
  [("size_label", (sizeLabel d.canvas).map .text), ("clear_btn", .ok (.enabled d.hasTemplate)),
    ("opacity", (percent d.templateOpacity).map .value), ("show_grid", .ok (.checked d.showGrid)),
    ("snap", .ok (.checked d.snapToGrid))]
    ++ if focused gridSizeKey then [] else [("grid_size", numberSetting d.gridSize)]

end Compositor.Panel
