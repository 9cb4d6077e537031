import Compositor.Panel.Rows

/-!
# The panel of the command

The panel shows the command that was written last, and offers to copy it and to save it once there
is one.  For a while after it was copied the button says so.
-/

namespace Compositor.Panel

/-- The panel of the command. -/
structure CommandPanel where
  text : String
  /-- Whether the command can be copied and saved. -/
  offered : Bool
  /-- Whether the button says that the command was copied. -/
  copied : Bool
deriving DecidableEq, Repr

namespace CommandPanel

/-- The panel before there is a command. -/
def fresh : CommandPanel := ⟨"", false, false⟩

/-- What stands in the panel until there is a command. -/
def placeholder : String := "Press Generate to build the ffmpeg command"

/-- Shows a command. -/
def present (p : CommandPanel) (text : String) : CommandPanel :=
  { p with text := text, offered := !text.isEmpty }

/-- The words on the button for copying. -/
def copyLabel (p : CommandPanel) : String := if p.copied then "Copied" else "Copy"

/-- The picture on the button for copying. -/
def copyIcon (p : CommandPanel) : Icon :=
  if p.copied then ⟨"fa5s.check", Theme.success⟩ else .plain "fa5s.copy"

end CommandPanel

end Compositor.Panel
