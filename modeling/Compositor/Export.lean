/-!
# Handing the command out

The command leaves the program as a file: a name, and the text in UTF-8.
-/

namespace Compositor

/-- A file that is handed out. -/
structure Download where
  filename : String
  text : String
deriving DecidableEq, Repr

namespace Download

/-- The name of the command's file unless something else is said. -/
def standardName : String := "ffmpeg_command.sh"

/-- The bytes of the file. -/
def bytes (d : Download) : List UInt8 := d.text.toUTF8.toList

end Download

end Compositor
