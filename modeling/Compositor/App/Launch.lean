import Compositor.App.Log
import Compositor.Window

/-!
# Starting the program

The program makes its folders, introduces itself, opens its log and writes who it is there, chooses
its style and colours, and opens its window.  From then on the window works until it is closed, and
what the system answers in the end is the program's result.
-/

namespace Compositor.App

/-- The folders that the program makes. -/
def requiredFolders (folder : Path) : List Path := [folder, logFolder folder]

/-- The paths that there are after some were made: they and all that lie above them, each once and
in the order of their texts. -/
def madePaths (paths : List Path) : List String :=
  ((paths.flatMap Path.chain).map Path.text).eraseDups.mergeSort fun a b => !decide (b < a)

/-- What comes of starting the program. -/
structure Launch (α : Type) where
  /-- The records of the log. -/
  records : List Record
  /-- What reaches beyond the program, without the log. -/
  effects : List (Effect α)

/-- The choice of style and colours. -/
def dressing {α : Type} : List (Effect α) := [.style Theme.style, .palette Theme.palette]

/-- The notices among some effects. -/
def noticesAmong {α : Type} (effects : List (Effect α)) : List Notice :=
  effects.filterMap fun
    | .noted n => some n
    | _ => none

/-- The effects without the notices. -/
def withoutNotices {α : Type} (effects : List (Effect α)) : List (Effect α) :=
  effects.filter fun
    | .noted _ => false
    | _ => true

/-- Starts the program. -/
def launch {α : Type} [Scalar α] (b : Build) (folder : Path) (s : Store α)
    (seeds : Option (List (Seed α))) : Except Fault (Launch α) := do
  let (_, effects) ← Window.start s seeds
  return {
    records := [openingRecord (some (logFile folder).text),
        ⟨.info, Channel.root.word, b.banner folder.text⟩]
      ++ (noticesAmong effects).map .ofNotice
    effects := Window.introduction ++ dressing ++ withoutNotices effects
      ++ [.appear App.name] }

end Compositor.App
