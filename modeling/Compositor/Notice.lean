/-!
# Notices

What the program writes to its log while it runs: a level, the part of the program that speaks, and
one line of text.
-/

namespace Compositor

/-- How important a notice is; unnamed levels lie between and around the named ones. -/
structure Level where
  rank : Nat
deriving DecidableEq, Repr

namespace Level

def debug : Level := ⟨10⟩
def info : Level := ⟨20⟩
def warning : Level := ⟨30⟩
def error : Level := ⟨40⟩
def critical : Level := ⟨50⟩

/-- The level as it is written. -/
def word (l : Level) : String :=
  match l.rank with
  | 0 => "NOTSET"
  | 10 => "DEBUG"
  | 20 => "INFO"
  | 30 => "WARNING"
  | 40 => "ERROR"
  | 50 => "CRITICAL"
  | n => "Level " ++ toString n

end Level

/-- The parts of the program that write notices. -/
inductive Channel where
  | document
  | pointer
  | command
  | commandPanel
  | window
  | root
deriving DecidableEq, Repr

namespace Channel

/-- The name under which a part of the program writes. -/
def word : Channel → String
  | .document => "stackr.core.document"
  | .pointer => "stackr.core.interaction"
  | .command => "stackr.core.ffmpeg_command"
  | .commandPanel => "stackr.ui.command_panel"
  | .window => "stackr.ui.main_window"
  | .root => "root"

end Channel

/-- One line of the log. -/
structure Notice where
  level : Level
  channel : Channel
  message : String
deriving DecidableEq, Repr

end Compositor
