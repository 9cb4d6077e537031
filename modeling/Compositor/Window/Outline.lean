import Compositor.App.Identity
import Compositor.Panel.CanvasForm
import Compositor.Panel.CommandPanel
import Compositor.Panel.LayerForm

/-!
# What the window is made of

The buttons, menus, forms and labels of the window, with the words and pictures on them.  Keyboard
shortcuts belong to menus; in the words of a menu the letter after `&` is underlined.
-/

namespace Compositor.Window

/-! ## 1. Buttons -/

/-- A button of the window. -/
inductive Button where
  | openTemplate
  | clearTemplate
  | addVideo
  | addText
  | generate
  | copy
  | download
deriving DecidableEq, Repr

namespace Button

/-- The buttons, from the top of the window down. -/
def all : List Button :=
  [.openTemplate, .clearTemplate, .addVideo, .addText, .generate, .copy, .download]

/-- The word on a button at first. -/
def word : Button → String
  | .openTemplate => "Template…"
  | .clearTemplate => "Clear"
  | .addVideo => "Video"
  | .addText => "Text"
  | .generate => "Generate"
  | .copy => "Copy"
  | .download => "Download"

/-- The button of a word. -/
def ofWord? (s : String) : Option Button := all.find? (·.word == s)

/-- The picture on a button at first. -/
def icon? : Button → Option Panel.Icon
  | .openTemplate => some (.plain "fa5s.image")
  | .clearTemplate => none
  | .addVideo | .addText => some (.plain "fa5s.plus")
  | .generate => some (.plain "fa5s.play")
  | .copy => some (.plain "fa5s.copy")
  | .download => some (.plain "fa5s.download")

/-- The word and the picture on a button now. -/
def face (command : Panel.CommandPanel) : Button → String × Option Panel.Icon
  | .copy => (command.copyLabel, some command.copyIcon)
  | b => (b.word, b.icon?)

end Button

/-- A button in the row of a layer. -/
inductive RowButton where
  | visibility
  | forward
  | backward
  | duplicate
  | reset
  | delete
deriving DecidableEq, Repr

namespace RowButton

/-- The buttons of a row, from left to right. -/
def all : List RowButton := [.visibility, .forward, .backward, .duplicate, .reset, .delete]

/-- The hint on a button. -/
def hint : RowButton → String
  | .visibility => "Toggle visibility"
  | .forward => "Bring forward"
  | .backward => "Send backward"
  | .duplicate => "Duplicate"
  | .reset => "Reset"
  | .delete => "Delete"

/-- The button of a hint. -/
def ofHint? (s : String) : Option RowButton := all.find? (·.hint == s)

/-- The picture on a button of a row. -/
def icon (r : Panel.Row) : RowButton → Panel.Icon
  | .visibility => r.eyeIcon
  | .forward => .plain "fa5s.chevron-up"
  | .backward => .plain "fa5s.chevron-down"
  | .duplicate => .plain "fa5s.copy"
  | .reset => .plain "fa5s.undo"
  | .delete => ⟨"fa5s.trash", Theme.danger⟩

end RowButton

/-! ## 2. Menus -/

/-- An entry of a menu. -/
inductive MenuEntry where
  | openTemplate
  | resetCanvas
  | saveCommand
  | exit
  | addVideo
  | addText
  | duplicate
  | delete
deriving DecidableEq, Repr

namespace MenuEntry

/-- The words of an entry. -/
def word : MenuEntry → String
  | .openTemplate => "Open &Template..."
  | .resetCanvas => "&Reset Canvas Size"
  | .saveCommand => "&Save Command..."
  | .exit => "E&xit"
  | .addVideo => "Add &Video"
  | .addText => "Add &Text"
  | .duplicate => "&Duplicate"
  | .delete => "De&lete"

/-- The keys that do the same. -/
def shortcut? : MenuEntry → Option String
  | .saveCommand => some "Save"
  | .duplicate => some "Ctrl+D"
  | .delete => some "Delete"
  | _ => none

end MenuEntry

/-- The menus with their entries; nothing stands for a line between entries. -/
def menus : List (String × List (Option MenuEntry)) := [
  ("&File", [some .openTemplate, some .resetCanvas, some .saveCommand, none, some .exit]),
  ("&Layer", [some .addVideo, some .addText, some .duplicate, some .delete])]

/-- The entry of some words. -/
def MenuEntry.ofWord? (s : String) : Option MenuEntry :=
  (menus.flatMap fun m => m.2.filterMap id).find? (·.word == s)

/-! ## 3. Forms and labels -/

/-- The window's title. -/
def title : String := App.name

/-- The window's picture. -/
def icon : Panel.Icon := ⟨"fa5s.layer-group", Theme.accent⟩

/-- The window's first size. -/
def firstSize : Nat × Nat := (1280, 860)

/-- The words before the rows of a form; some rows have none. -/
def canvasRows : List (Option String) := [none, some "Size", some "Template opacity", none]

/-- The words before the rows of a page. -/
def pageRows : Panel.Page → List (Option String)
  | .empty => []
  | .video => [some "Name", some "Width", some "Height", some "X", some "Y", none]
  | .text => [some "Name", some "Text", some "Font size", some "Font", some "Color", some "Style",
      some "X", some "Y"]

/-- The words that stand in the window outside of rows and buttons. -/
def labels (canvas : Panel.CanvasForm) : List String :=
  ([canvas.size, "Grid", "Snap", "Layers", "Select a layer to edit its properties",
    "Lock aspect ratio", "Bold", "Italic"]).filter (!·.isEmpty)

end Compositor.Window
