import Compositor.Command.Text
import Compositor.Document.Canvas
import Compositor.Document.Pointer
import Compositor.Notice

/-!
# Everything that can be done to a document

`Action` lists the operations of an editing session, and `Action.apply` carries one out.  A session
is a list of actions, and what is said of all sessions is said of all such lists (`Document.after`).

An action that fails has no effect: it gives a cause and no document.  What an action writes to the
log is a second function, `Action.notices`, so that the documents do not depend on it.
-/

namespace Compositor

/-- An operation on a document. -/
inductive Action (α : Type) where
  | addVideo
  | addText
  | update (id : String) (changes : Changes α)
  | enter (id field : String) (raw : Raw α)
  | duplicate (id : String)
  | remove (id : String)
  | reset (id : String)
  | raise (id : String)
  | lower (id : String)
  | select (id : Option String)
  | loadTemplate (path : String) (width height : Int)
  | clearTemplate
  | resetCanvas
  | setTemplateOpacity (raw : Raw α)
  | setShowGrid (raw : Raw α)
  | setSnapToGrid (raw : Raw α)
  | setGridSize (raw : Raw α)
  | press (p : Point α)
  | move (p : Point α)
  | release

namespace Action

variable {α : Type} [Scalar α]

/-- The document after an action. -/
def apply (measure : Measurer α) (d : Document α) : Action α → Except Fault (Document α)
  | .addVideo => d.addVideo
  | .addText => d.addText
  | .update id c => d.update id c
  | .enter id field raw => d.enter id field raw
  | .duplicate id => d.duplicate id
  | .remove id => .ok (d.remove id)
  | .reset id => .ok (d.reset id)
  | .raise id => .ok (d.raise id)
  | .lower id => .ok (d.lower id)
  | .select id => .ok (d.select id)
  | .loadTemplate path w h => .ok (d.loadTemplate path w h)
  | .clearTemplate => .ok d.clearTemplate
  | .resetCanvas => .ok d.resetCanvas
  | .setTemplateOpacity raw => d.setTemplateOpacity raw
  | .setShowGrid raw => .ok (d.setShowGrid raw)
  | .setSnapToGrid raw => .ok (d.setSnapToGrid raw)
  | .setGridSize raw => d.setGridSize raw
  | .press p => d.press measure p
  | .move p => d.move measure p
  | .release => .ok d.release

/-- What an action changes of which layer, if it is a change of a layer's fields. -/
def change? : Action α → Option (String × Changes α)
  | .update id c => some (id, c)
  | .enter id field raw =>
    (enteredValue field raw).toOption.map fun value => (id, .ofList [(field, value)])
  | _ => none

/-- Whether an action gives a layer an undefined number, when `after` is the document after it. -/
def givesUndefined (after : Document α) (a : Action α) : Bool :=
  a.change?.any fun c => (after.layer? c.1).any c.2.givesUndefined

end Action

namespace Document

variable {α : Type} [Scalar α]

/-- The document after one action; an action that fails leaves it as it was. -/
def step (measure : Measurer α) (d : Document α) (a : Action α) : Document α :=
  (a.apply measure d).toOption.getD d

/-- The document after a session. -/
def after (measure : Measurer α) (d : Document α) (actions : List (Action α)) : Document α :=
  actions.foldl (step measure) d

end Document

/-! ## What is written to the log -/

/-- Whole numbers as they stand in a template's size. -/
def sizeNotice (width height : Int) : String := toString width ++ "x" ++ toString height

/-- The notice of a new layer. -/
def addedNotice {α : Type} (d : Document α) : List Notice :=
  match d.layers.getLast? with
  | some l => [⟨.info, .document, "Added " ++ l.name ++ " (" ++ l.id ++ ")"⟩]
  | none => []

/-- The notice of an action on a layer that is not there. -/
def missingNotice (action id : String) : List Notice :=
  [⟨.debug, .document, action ++ ": no layer " ++ id⟩]

namespace Action

variable {α : Type} [Scalar α]

/-- The notices of an action that succeeds, turning `d` into `after`. -/
def noticesOf (d after : Document α) : Action α → List Notice
  | .addVideo | .addText => addedNotice after
  | .update id _ | .enter id _ _ =>
    if (d.layer? id).isNone then missingNotice "update_layer" id else []
  | .duplicate id =>
    match d.layer? id with
    | none => missingNotice "duplicate_layer" id
    | some l =>
      [⟨.info, .document, "Duplicated " ++ l.id ++ " -> " ++ d.nextId l.kind⟩]
  | .remove id =>
    if (d.layer? id).isNone then missingNotice "remove_layer" id
    else [⟨.info, .document, "Removed " ++ id⟩]
  | .loadTemplate path w h =>
    if w ≤ 0 || h ≤ 0 then
      [⟨.warning, .document, "Ignoring template " ++ path ++ " with size " ++ sizeNotice w h⟩]
    else [⟨.info, .document, "Template " ++ path ++ " (" ++ sizeNotice w h ++ ")"⟩]
  | .move _ =>
    match d.interaction.layerId? with
    | some id =>
      if (d.layer? id).isNone then
        [⟨.debug, .pointer, "pointer_move: layer " ++ id ++ " is gone"⟩]
      else []
    | none => []
  | _ => []

/-- The notices of an action; one that fails writes none. -/
def notices (measure : Measurer α) (d : Document α) (a : Action α) : List Notice :=
  match a.apply measure d with
  | .ok after => a.noticesOf d after
  | .error _ => []

end Action

namespace Document

variable {α : Type} [Scalar α]

/-- The command for the document's layout. -/
def command (d : Document α) : Except Fault String :=
  Command.compile Command.systemFonts d.layers d.canvas d.hasTemplate

/-- The notices of writing the command. -/
def commandNotices (d : Document α) : List Notice :=
  match d.command with
  | .error _ => []
  | .ok _ =>
    if d.layers.any (·.visible.isOn) then
      [⟨.info, .command, "Compiled command: " ++ toString (Command.visibleVideos d.layers).length
        ++ " video, " ++ toString (Command.visibleTexts d.layers).length ++ " text, template="
        ++ if d.hasTemplate then "True" else "False"⟩]
    else []

end Document

end Compositor
