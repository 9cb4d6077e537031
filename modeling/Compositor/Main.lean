import Compositor.App.Launch
import Compositor.Scalar.Binary
import Std.Time.DateTime.Timestamp

/-!
# The command line

With the word `about` the program makes its folders and says which build it is, who makes it and
where its data are.  Otherwise it starts: it makes its folders and opens its log, on the screen and
in the log's file.  There is no window system behind the command line, so that is where it ends.

All that is read, made and written here is decided elsewhere: the folders by `Surroundings.folder`,
the log by `launch` and `logText`.
-/

namespace Compositor.App

/-- What the environment says about folders. -/
def surroundings : IO Surroundings := do
  let windows := (← IO.getEnv "OS") == some "Windows_NT"
  let home ← IO.getEnv "HOME"
  return ⟨if windows then .windows else .other, home.getD "", ← IO.getEnv "APPDATA",
    ← IO.getEnv "XDG_CONFIG_HOME"⟩

/-- The build as the environment names it. -/
def build : IO Build := do
  return .of (← IO.getEnv "STACKR_BUILD_COMMIT") (← IO.getEnv "STACKR_BUILD_CHANNEL")

/-- Makes the program's folders, and gives its own one. -/
def makeFolders : IO Path := do
  let folder := (← surroundings).folder
  for path in requiredFolders folder do
    IO.FS.createDirAll path.text
  return folder

/-- Says who the program is. -/
def introduce : IO UInt32 := do
  let folder ← makeFolders
  IO.println ((← build).banner folder.text)
  return 0

/-- Starts the program. -/
def run : IO UInt32 := do
  let folder ← makeFolders
  let store : Store Float := .empty
  match launch (← build) folder store none with
  | .error _ => return 1
  | .ok started =>
    let seconds := (← Std.Time.Timestamp.now).toSecondsSinceUnixEpoch.val
    let text := logText .debug seconds started.records
    let file ← IO.FS.Handle.mk (logFile folder).text .append
    file.putStr text
    (← IO.getStderr).putStr text
    return 0

end Compositor.App

/-- The command line. -/
def main (arguments : List String) : IO UInt32 :=
  match arguments with
  | ["about"] => Compositor.App.introduce
  | _ => Compositor.App.run
