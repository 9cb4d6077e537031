import Compositor.Notice
import Compositor.Handle
import Compositor.Raw

/-!
# What the window does to the world

Everything that reaches beyond the window: what the window system is told, what dialogs are opened
and what they say, what is stored, what is saved and what is written to the log.
-/

namespace Compositor

/-- Something that reaches beyond the window. -/
inductive Effect (α : Type) where
  /-- The program gives its maker's name. -/
  | organization (name : String)
  /-- The program gives its maker's domain. -/
  | domain (name : String)
  /-- The program gives its own name. -/
  | application (name : String)
  /-- The style of widgets is chosen. -/
  | style (name : String)
  /-- The colours of widgets are chosen, by their roles. -/
  | palette (colors : List (String × String))
  /-- The window takes the place and size that were stored. -/
  | restoreGeometry (stored : String)
  /-- The window appears. -/
  | appear (title : String)
  /-- A dialog asks for a file to open. -/
  | openDialog (title : String) (start : Raw α) (filter : String)
  /-- A dialog asks for a file to save to. -/
  | saveDialog (title start filter : String)
  /-- A dialog asks for a colour. -/
  | colorDialog (initial : String)
  /-- A dialog tells that something went wrong. -/
  | warning (title text : String)
  /-- A text is copied. -/
  | clipboard (text : String)
  /-- A file is written. -/
  | saved (path text : String)
  /-- The pointer takes another look, or its usual one. -/
  | cursor (look : Option Cursor)
  /-- The window closes. -/
  | closed
  /-- A button that is switched off was pressed. -/
  | disabled
  /-- A value is stored. -/
  | stored (key : String) (value : Raw α)
  /-- A notice is written to the log. -/
  | noted (n : Notice)

end Compositor
