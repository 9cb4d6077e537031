import Compositor.Action
import Compositor.CopyFlag
import Compositor.Export
import Compositor.Settings
import Compositor.View.Mapping

/-!
# The session

A session holds the current document and the command that was last written for it.  Whoever shows
the session follows its events: a *state* event carries the document whenever an action has changed
it, and a *selection* event follows when another layer, or none, is selected.  An action that
changes nothing, or that fails, causes no event; to give a layer an undefined number always is a
change.

So a follower of state events always has the session's document, and a follower of selection events
always knows which layer is selected.
-/

namespace Compositor

variable {α : Type}

/-- What a session tells those who show it. -/
inductive Event (α : Type) where
  | state (d : Document α)
  | selection (id : Option String)
  | command (text : String)
  | copied (yes : Bool)

/-- A session. -/
structure Session (α : Type) where
  document : Document α
  command : String
  /-- The time, in seconds. -/
  clock : α
  copyFlag : CopyFlag α
  /-- How often the timer that ends an acknowledgement was started, and for how many
  milliseconds. -/
  timerStarts : List Int

namespace Session

variable [Scalar α]

/-- A session over a document. -/
def start (d : Document α) (flag : CopyFlag α) : Session α :=
  ⟨d, "", Scalar.ofInt 0, flag, []⟩

/-- The events of a document's becoming another one. -/
def eventsOf {α : Type} (before after : Document α) : List (Event α) :=
  .state after ::
    if after.selectedId == before.selectedId then [] else [.selection after.selectedId]

/-- Puts a document in the place of the current one. -/
def become {α : Type} (s : Session α) (d : Document α) : Session α × List (Event α) :=
  ({ s with document := d }, eventsOf s.document d)

/-- The names that say how a session is changed, so that no field has one. -/
def reservedNames : List String := ["self", "fn"]

/-- Whether an action gives a value to a name that no field has in a session. -/
def refuses (a : Action α) : Bool :=
  a.change?.any fun c => c.2.otherNames.any reservedNames.contains

/-- Whether an action that turns the session's document into `d` changes nothing. -/
def keeps (s : Session α) (a : Action α) (d : Document α) : Bool :=
  d.same s.document && !a.givesUndefined d

/-- Carries an action out. -/
def perform (measure : Measurer α) (s : Session α) (a : Action α) :
    Except Fault (Session α × List (Event α)) :=
  if refuses a then .error .wrongKind
  else do
    let d ← a.apply measure s.document
    return if s.keeps a d then (s, []) else s.become d

/-- Carries several actions out, each chosen for the document as it then is, up to the first one
that fails. -/
def performAll (measure : Measurer α) (s : Session α) :
    List (Document α → Action α) → Session α × List (Event α) × Option Fault
  | [] => (s, [], none)
  | choose :: rest =>
    match s.perform measure (choose s.document) with
    | .error fault => (s, [], some fault)
    | .ok (s, events) =>
      let (s, later, fault) := performAll measure s rest
      (s, events ++ later, fault)

/-- Carries an action on the selected layer out, if there is one. -/
def performOnSelected (measure : Measurer α) (s : Session α) (a : String → Action α) :
    Except Fault (Session α × List (Event α)) :=
  match s.document.selectedId with
  | some id => s.perform measure (a id)
  | none => .ok (s, [])

/-- Writes the command for the document. -/
def generate (s : Session α) : Except Fault (Session α × List (Event α)) := do
  let text ← s.document.command
  return ({ s with command := text }, [.command text])

/-- The command as a file. -/
def download {α : Type} (s : Session α) : Download := ⟨Download.standardName, s.command⟩

/-- The command was copied: the acknowledgement begins, and the timer that ends it is started. -/
def markCopied {α : Type} (s : Session α) : Session α × List (Event α) :=
  ({ s with
      copyFlag := s.copyFlag.mark s.clock
      timerStarts := s.timerStarts ++ [s.copyFlag.resetMs] }, [.copied true])

/-- The timer has run out: the acknowledgement ends. -/
def timerFires {α : Type} (s : Session α) : Session α × List (Event α) :=
  ({ s with copyFlag := s.copyFlag.clear }, [.copied false])

/-- Whether a copy is acknowledged now. -/
def readCopied (s : Session α) : Bool × Session α :=
  let (yes, flag) := s.copyFlag.read s.clock
  (yes, { s with copyFlag := flag })

/-- Time passes. -/
def advance (s : Session α) (seconds : α) : Session α := { s with clock := s.clock + seconds }

end Session

/-! ## Keeping preferences -/

namespace Keeper

/-- Follows the documents of a session's events: the keeper afterwards, and what was stored. -/
def followAll [Scalar α] (k : Keeper α) : List (Event α) → Keeper α × List (String × Raw α)
  | [] => (k, [])
  | .state d :: rest =>
    let (k, writes) := k.follow d
    let (k, more) := followAll k rest
    (k, writes ++ more)
  | _ :: rest => followAll k rest

end Keeper

/-! ## Seeds

A session can be started with layers in it, each given by its kind and by changes of a new layer. -/

/-- A layer with which a session is started. -/
structure Seed (α : Type) where
  kind : LayerKind
  changes : Changes α

namespace Seed

/-- The action that adds the seed's layer. -/
def addition {α : Type} (s : Seed α) : Action α :=
  match s.kind with
  | .video => .addVideo
  | .text => .addText

/-- The actions that add the seed's layer, each for the document as it then is. -/
def planting {α : Type} (s : Seed α) : List (Document α → Action α) :=
  [fun _ => s.addition, fun d => .update (d.selectedId.getD "") s.changes]

/-- The actions that add the layers of all seeds; in the end none is selected. -/
def plantingAll {α : Type} (seeds : List (Seed α)) : List (Document α → Action α) :=
  seeds.flatMap planting ++ [fun _ => .select none]

/-- The layers that show all that a command is made of. -/
def standard [Scalar α] : List (Seed α) := [
  { kind := .video,
    changes := .ofList [("name", .text "Video 1"), ("x", .whole 20), ("y", .whole 20),
      ("width", .whole 540), ("height", .whole 540)] },
  { kind := .video,
    changes := .ofList [("name", .text "Video 2"), ("x", .whole 520), ("y", .whole 20),
      ("width", .whole 540), ("height", .whole 540)] },
  { kind := .text,
    changes := .ofList [("name", .text "Title"), ("text", .text "Sample Text"), ("x", .whole 50),
      ("y", .whole 600)] }]

end Seed

end Compositor
