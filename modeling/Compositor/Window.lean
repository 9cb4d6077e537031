import Compositor.App.Identity
import Compositor.Panel.CommandPanel
import Compositor.Panel.SidePanel
import Compositor.Session
import Compositor.View.Paint
import Compositor.Window.Effect

/-!
# The window

The window shows one session.  It has the canvas, the side panel and the panel of the command, and a
keeper for the preferences.  All of them follow the session's events (`Window.deliver`): a new
document is shown in the side panel and then its preferences are stored.

Whatever happens in the window is a `Progress`: the window afterwards, what reached beyond it, and
the fault that ended it early, if one did.  A fault leaves standing what was done before it.
-/

namespace Compositor

open Panel

/-- The window. -/
structure Window (α : Type) where
  session : Session α
  keeper : Keeper α
  side : SidePanel
  command : CommandPanel
  /-- The line in which the user is typing. -/
  focus : Option String
  /-- The image of the template. -/
  image : Option String

/-- What becomes of the window, what reaches beyond it, and what the session told it meanwhile. -/
structure Progress (α : Type) where
  window : Window α
  effects : List (Effect α)
  fault : Option Fault
  told : List (Event α)

namespace Progress

variable {α : Type}

/-- Goes on with the window, unless there was a fault. -/
def andThen (p : Progress α) (next : Window α → Progress α) : Progress α :=
  match p.fault with
  | some _ => p
  | none =>
    let q := next p.window
    { q with effects := p.effects ++ q.effects, told := p.told ++ q.told }

end Progress

namespace Window

variable {α : Type}

/-- Nothing reaches beyond the window. -/
def quiet (w : Window α) : Progress α := ⟨w, [], none, []⟩

/-- One thing reaches beyond the window. -/
def tell (w : Window α) (e : Effect α) : Progress α := ⟨w, [e], none, []⟩

/-- The document that the window shows. -/
def document (w : Window α) : Document α := w.session.document

/-- Whether the user is typing in a line. -/
def focused (w : Window α) (key : String) : Bool := w.focus == some key

/-- Stores a value. -/
def store (w : Window α) (key : String) (value : Raw α) : Progress α :=
  { w with keeper := w.keeper.set key value }.tell (.stored key value)

variable [Scalar α]

/-! ## 1. Following the session -/

/-- Shows a document in the side panel.  Its widgets are blocked meanwhile, and tell nothing. -/
def present (w : Window α) (d : Document α) : Progress α :=
  let filled := w.side.present w.focused d
  ⟨{ w with side := filled.form }, [], filled.fault, []⟩

/-- Stores the preferences of a document, as far as they are new. -/
def keep (w : Window α) (d : Document α) : Progress α :=
  let (keeper, writes) := w.keeper.follow d
  ⟨{ w with keeper := keeper }, writes.map fun v => .stored v.1 v.2, none, []⟩

/-- Brings the window up to date with an event of the session. -/
def heed (w : Window α) : Event α → Progress α
  | .state d => (w.present d).andThen (·.keep d)
  | .selection _ => w.quiet
  | .command text => { w with command := w.command.present text }.quiet
  | .copied yes => { w with command := { w.command with copied := yes } }.quiet

/-- Follows one event of the session. -/
def deliver (w : Window α) (e : Event α) : Progress α :=
  let p := w.heed e
  { p with told := e :: p.told }

/-- Follows events of the session, after it has become `s`. -/
def follow (w : Window α) (s : Session α) (events : List (Event α)) : Progress α :=
  events.foldl (fun p e => p.andThen (·.deliver e)) { w with session := s }.quiet

/-! ## 2. Working on the session -/

/-- Writes notices to the log. -/
def note (w : Window α) (notices : List Notice) : Progress α :=
  ⟨w, notices.map .noted, none, []⟩

/-- Carries an action out. -/
def perform (w : Window α) (a : Action α) : Progress α :=
  match w.session.perform Measurer.fontMetrics a with
  | .error fault => ⟨w, [], some fault, []⟩
  | .ok (s, events) =>
    (w.note (a.notices Measurer.fontMetrics w.document)).andThen (·.follow s events)

/-- Carries several actions out, each chosen for the document as it then is. -/
def performAll (w : Window α) (choices : List (Document α → Action α)) : Progress α :=
  choices.foldl (fun p choose => p.andThen fun w => w.perform (choose w.document)) w.quiet

/-- Writes the command. -/
def generate (w : Window α) : Progress α :=
  match w.session.generate with
  | .error fault => ⟨w, [], some fault, []⟩
  | .ok (s, events) => (w.note w.document.commandNotices).andThen (·.follow s events)

/-- The command was copied. -/
def markCopied (w : Window α) : Progress α :=
  let (s, events) := w.session.markCopied
  w.follow s events

/-- The acknowledgement of a copy ends. -/
def timerFires (w : Window α) : Progress α :=
  let (s, events) := w.session.timerFires
  w.follow s events

/-! ## 3. Opening the window -/

/-- The key under which the window's place and size are stored. -/
def geometryKey : String := "ui/main_geometry"

/-- A place and size as they are stored. -/
def geometryValue (s : String) : Raw α := .object [("bytes", .text s)]

/-- The place and size that were stored, if that is what is stored. -/
def storedGeometry? (s : Store α) : Option String :=
  match s.find? geometryKey with
  | some (.object [("bytes", .text g)]) => some g
  | _ => none

/-- The program gives its maker's name and domain and its own name. -/
def introduction {α : Type} : List (Effect α) :=
  [.organization App.company, .domain App.domain, .application App.name]

/-- The introduction, if there is a window system to which the program can introduce itself. -/
def introductionTo {α : Type} (windowSystem : Bool) : List (Effect α) :=
  if windowSystem then introduction else []

/-- The window over a document, before anything is shown. -/
def blank (s : Store α) (flag : CopyFlag α) (d : Document α) : Window α where
  session := .start d flag
  keeper := .ofStore s
  side := .fresh
  command := .fresh
  focus := none
  image := none

/-- Takes the place and size that were stored. -/
def restore (w : Window α) : Progress α :=
  match storedGeometry? w.keeper.store with
  | some g => w.tell (.restoreGeometry g)
  | none => w.quiet

/-- Opens a window over a store, with the layers of some seeds in it. -/
def start (s : Store α) (seeds : Option (List (Seed α))) :
    Except Fault (Window α × List (Effect α)) := do
  let d ← s.initialDocument?
  let w := blank s ⟨CopyFlag.standardMs, none⟩ d
  let planting := (seeds.map Seed.plantingAll).getD []
  let p := ((w.present d).andThen restore).andThen (·.performAll planting)
  match p.fault with
  | some fault => .error fault
  | none => return (p.window, introduction ++ p.effects)

end Window

end Compositor
