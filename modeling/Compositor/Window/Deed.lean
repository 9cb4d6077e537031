import Compositor.App.Path
import Compositor.Panel.Commit
import Compositor.View.Mouse
import Compositor.Window
import Compositor.Window.Outline

/-!
# What the user does in the window

A `Deed` is one thing that the user does: pressing a button, choosing from a menu, typing, moving the
mouse.  Some deeds open a dialog, and what the user answers there comes with the deed (`Answers`).

A deed works on widgets, and widgets tell what changed; what they tell becomes an action on the
document (`Window.react`).  A widget that keeps its content tells nothing.
-/

namespace Compositor

open Panel

/-- What surrounds the window. -/
structure Desktop (α : Type) where
  /-- The room of the canvas. -/
  canvasSize : Extent α
  /-- How high letters reach above their line. -/
  ascent : α
  /-- The user's home folder. -/
  home : String
  /-- The size of the image at a path, if there is one. -/
  imageSize? : String → Option (Int × Int)

/-- What the user, and the system, answer to the window while a deed is done. -/
structure Answers where
  /-- The file that a dialog was given; an empty one is none. -/
  path : Option String
  /-- Why a file cannot be written. -/
  writeFailure : Option String
  /-- The colour that a dialog was given. -/
  color : Option String
  /-- Whether texts can be copied. -/
  hasClipboard : Bool

/-- What the user does in the window. -/
inductive Deed (α : Type) where
  | click (b : Window.Button)
  | choose (m : Window.MenuEntry)
  | clickRow (id : String) (b : Window.RowButton)
  | clickTitle (id : String) (left : Bool)
  /-- A text is typed into the line of a key, and the line is left, or stays focused. -/
  | type (key text : String) (stay : Bool)
  | check (key : String) (b : Bool)
  | slide (n : Int)
  | chooseFont (family : String)
  | pickColor
  | timerFires
  | close
  | select (id : Option String)
  | mouse (e : MouseEvent α)

namespace Window

variable {α : Type} [Scalar α]

/-! ## 1. Forms -/

/-- Carries an action out, if there is one. -/
def performSome (w : Window α) (a : Option (Action α)) : Progress α :=
  (a.map w.perform).getD w.quiet

/-- Changes the layer that the form shows. -/
def commitChanges (w : Window α) (c : Changes α) : Progress α :=
  w.performSome (w.side.layer.change? c)

/-- Enters a text for the layer that the form shows. -/
def commitText (w : Window α) (key text : String) : Progress α :=
  w.performSome (w.side.layer.entry? key (.text text))

/-- The opacity of a percentage. -/
def opacityOf (percent : Int) : α :=
  ((Scalar.quotient (Scalar.ofInt percent) (Scalar.ofInt 100)).toOption).getD (Scalar.ofInt 0)

/-- What becomes of what a widget tells. -/
def react (w : Window α) : Signal → Progress α
  | .aspectLocked b => w.commitChanges { aspectLocked := some b }
  | .bold b => w.commitChanges { bold := some b }
  | .italic b => w.commitChanges { italic := some b }
  | .fontFamily s => w.commitChanges { fontFamily := some (.text s) }
  | .opacity n => w.perform (.setTemplateOpacity (.real (opacityOf n)))
  | .showGrid b => w.perform (.setShowGrid (.bool b))
  | .snapToGrid b => w.perform (.setSnapToGrid (.bool b))
  | .visible id b => w.perform (.update id { visible := some b })
  | .entered key text =>
    if key == gridSizeKey then w.perform (.setGridSize (.text text)) else w.commitText key text

/-- What becomes of all that widgets tell. -/
def reactAll (w : Window α) (signals : List Signal) : Progress α :=
  signals.foldl (fun p s => p.andThen (·.react s)) w.quiet

/-- Puts a value into a widget of the layer form. -/
def putLayer (w : Window α) (key : String) (s : Setting) : Progress α :=
  let (form, signals) := w.side.layer.put key s
  { w with side := { w.side with layer := form } }.reactAll signals

/-- Puts a value into a widget of the canvas form. -/
def putCanvas (w : Window α) (key : String) (s : Setting) : Progress α :=
  let (form, signals) := w.side.canvas.put key s
  { w with side := { w.side with canvas := form } }.reactAll signals

/-- The keys of switches on the canvas form. -/
def canvasSwitches : List String := ["canvas.show_grid", "canvas.snap"]

/-- Sets a switch of either form. -/
def putSwitch (w : Window α) (key : String) (b : Bool) : Progress α :=
  if canvasSwitches.contains key then w.putCanvas (fieldOfKey key) (.checked b)
  else w.putLayer key (.checked b)

/-- Types a text into a line of either form. -/
def typeText (w : Window α) (key text : String) : Progress α :=
  if key == gridSizeKey then
    (w.putCanvas (fieldOfKey key) (.text text)).andThen fun w =>
      w.reactAll (w.side.canvas.leave text)
  else
    (w.putLayer key (.text text)).andThen fun w => w.reactAll (w.side.layer.leave key text)

/-- Asks for the colour of the selected text. -/
def pickColor (w : Window α) (answers : Answers) : Progress α :=
  match w.document.selected?.bind (·.caption?) with
  | none => w.quiet
  | some c => (w.tell (.colorDialog c.color)).andThen fun w =>
    match answers.color with
    | some color => w.commitChanges { color := some color }
    | none => w.quiet

/-! ## 2. Rows -/

/-- Presses the button for visibility in a row: it stays pressed in or comes out, and the layer is
shown or hidden. -/
def toggleVisibility (w : Window α) (r : Row) : Progress α :=
  { w with side := { w.side with rows := w.side.rows.flipEye r.id } }.reactAll
    (r.setEye (!r.eye)).2

/-- Presses a button of a row. -/
def pressRow (w : Window α) (r : Row) : RowButton → Progress α
  | .visibility => w.toggleVisibility r
  | .forward => w.perform (.raise r.id)
  | .backward => w.perform (.lower r.id)
  | .duplicate => w.perform (.duplicate r.id)
  | .reset => w.perform (.reset r.id)
  | .delete => w.perform (.remove r.id)

/-- Does something in the row of a layer, if there is one. -/
def inRow (w : Window α) (id : String) (f : Row → Progress α) : Progress α :=
  match w.side.rows.find? id with
  | some r => f r
  | none => w.quiet

/-- Does something to the selected layer, if there is one. -/
def toSelected (w : Window α) (a : String → Action α) : Progress α :=
  w.performSome (w.document.selectedId.map a)

/-! ## 3. Files -/

/-- The key under which the folder of the last template is stored. -/
def templateFolderKey : String := "paths/last_template_dir"

/-- The key under which the folder of the last saved command is stored. -/
def exportFolderKey : String := "paths/last_export_dir"

/-- The kinds of images that a template can be, in the order of the alphabet. -/
def imageEndings : List String := [".bmp", ".gif", ".jpeg", ".jpg", ".png", ".webp"]

/-- Which files are offered as templates. -/
def imageFilter : String :=
  "Images (" ++ String.intercalate " " (imageEndings.map ("*" ++ ·)) ++ ")"

/-- Which files are offered to save the command to. -/
def scriptFilter : String := "Shell script (*.sh)"

/-- The path that a dialog was given. -/
def Answers.path? (a : Answers) : Option String :=
  match a.path with
  | none | some "" => none
  | some path => some path

/-- Loads the image at a path as the template. -/
def useTemplate (desk : Desktop α) (path : String) (w : Window α) : Progress α :=
  match desk.imageSize? path with
  | none =>
    ⟨w, [.noted ⟨.warning, .window, "Could not load template image " ++ path⟩,
      .warning title ("Could not load image:\n" ++ path)], none, []⟩
  | some (width, height) =>
    { w with image := some path }.perform (.loadTemplate path width height)

/-- Asks for a template. -/
def openTemplate (desk : Desktop α) (answers : Answers) (w : Window α) : Progress α :=
  let start := w.keeper.store.get templateFolderKey (.text "")
  (w.tell (.openDialog "Open template image" start imageFilter)).andThen fun w =>
    match Answers.path? answers with
    | none => w.quiet
    | some path =>
      (w.store templateFolderKey (.text (App.folderOf path))).andThen (useTemplate desk path)

/-- Writes the command to a file. -/
def writeCommand (answers : Answers) (path : String) (w : Window α) : Progress α :=
  match answers.writeFailure with
  | some failure =>
    ⟨w, [.noted ⟨.error, .window, "Saving command to " ++ path ++ " failed"⟩,
      .warning title ("Could not save:\n" ++ failure)], none, []⟩
  | none =>
    ⟨w, [.saved path w.session.download.text,
      .noted ⟨.info, .window, "Saved command to " ++ path⟩], none, []⟩

/-- The folder in which the last command was saved. -/
def exportFolder (desk : Desktop α) (w : Window α) : String :=
  match w.keeper.store.get exportFolderKey (.text desk.home) with
  | .text s => s
  | _ => desk.home

/-- Asks where to save the command. -/
def askToSave (desk : Desktop α) (answers : Answers) (w : Window α) : Progress α :=
  let start := App.inFolder (exportFolder desk w) w.session.download.filename
  (w.tell (.saveDialog "Save ffmpeg command" start scriptFilter)).andThen fun w =>
    match Answers.path? answers with
    | none => w.quiet
    | some path =>
      (w.store exportFolderKey (.text (App.folderOf path))).andThen (writeCommand answers path)

/-- Saves the command, which is written first if it was not yet. -/
def saveCommand (desk : Desktop α) (answers : Answers) (w : Window α) : Progress α :=
  (if w.session.command.isEmpty then w.generate else w.quiet).andThen (askToSave desk answers)

/-- Copies the command. -/
def copyCommand (answers : Answers) (w : Window α) : Progress α :=
  if answers.hasClipboard then (w.tell (.clipboard w.session.command)).andThen markCopied
  else w.note [⟨.warning, .commandPanel, "No clipboard available"⟩]

/-- Closes the window; its place and size are stored. -/
def close (w : Window α) : Progress α :=
  (w.store geometryKey (geometryValue "saved")).andThen (·.tell .closed)

/-! ## 4. The mouse -/

/-- Follows the mouse over the canvas. -/
def followMouse (desk : Desktop α) (e : MouseEvent α) (w : Window α) : Progress α :=
  match e.action? desk.canvasSize w.document with
  | .error fault => ⟨w, [], some fault, []⟩
  | .ok a =>
    (w.performSome a).andThen fun w =>
      match e.cursorAfter a w.document with
      | some look => w.tell (.cursor look)
      | none => w.quiet

/-! ## 5. Deeds -/

/-- Whether a button is switched on. -/
def enabled (w : Window α) : Button → Bool
  | .clearTemplate => w.side.canvas.clearEnabled
  | .copy | .download => w.command.offered
  | _ => true

/-- Presses a button that is switched on. -/
def press (desk : Desktop α) (answers : Answers) (w : Window α) : Button → Progress α
  | .openTemplate => w.openTemplate desk answers
  | .clearTemplate => w.perform .clearTemplate
  | .addVideo => w.perform .addVideo
  | .addText => w.perform .addText
  | .generate => w.generate
  | .copy => w.copyCommand answers
  | .download => w.saveCommand desk answers

/-- Chooses from a menu. -/
def choose (desk : Desktop α) (answers : Answers) (w : Window α) : MenuEntry → Progress α
  | .openTemplate => w.openTemplate desk answers
  | .resetCanvas => w.perform .resetCanvas
  | .saveCommand => w.saveCommand desk answers
  | .exit => w.close
  | .addVideo => w.perform .addVideo
  | .addText => w.perform .addText
  | .duplicate => w.toSelected .duplicate
  | .delete => w.toSelected .remove

/-- Does a deed. -/
def does (desk : Desktop α) (answers : Answers) (w : Window α) : Deed α → Progress α
  | .click b => if w.enabled b then w.press desk answers b else w.tell .disabled
  | .choose m => w.choose desk answers m
  | .clickRow id b => w.inRow id fun r => w.pressRow r b
  | .clickTitle id left =>
    w.inRow id fun r => if left then w.perform (.select (some r.id)) else w.quiet
  | .type key text stay =>
    { w with focus := if stay then some key else none }.typeText key text
  | .check key b => w.putSwitch key b
  | .slide n => w.putCanvas "opacity" (.value n)
  | .chooseFont family => w.putLayer "text.font_family" (.choice family)
  | .pickColor => w.pickColor answers
  | .timerFires => w.timerFires
  | .close => w.close
  | .select id => w.perform (.select id)
  | .mouse e => w.followMouse desk e

/-- The picture on the canvas. -/
def picture (desk : Desktop α) (w : Window α) : Except Fault (List (Stroke α)) :=
  View.paint Measurer.fontMetrics desk.ascent desk.canvasSize w.image w.document

end Window

end Compositor
