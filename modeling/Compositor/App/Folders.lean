import Compositor.App.Identity
import Compositor.App.Path

/-!
# Where the program keeps its files

Every system has a folder for the data of programs, and some have a variable that names another one.
The program's own folder lies in it, below the maker's, and holds the log and the settings.
-/

namespace Compositor.App

/-- The systems that differ in where data are kept. -/
inductive System where
  | windows
  | macOs
  | other
deriving DecidableEq, Repr

namespace System

/-- The system of a name. -/
def ofWord : String → System
  | "Windows" => .windows
  | "Darwin" => .macOs
  | _ => .other

end System

/-- What the surroundings say about folders. -/
structure Surroundings where
  system : System
  home : String
  /-- Where programs keep data, on windows. -/
  appData : Option String
  /-- Where programs keep settings, elsewhere. -/
  configHome : Option String
deriving DecidableEq, Repr

namespace Surroundings

/-- The home folder; one that is named by slashes alone, or not at all, is the root. -/
def homePath (s : Surroundings) : Path :=
  let home := withoutSlashes s.home.toList
  if home.isEmpty then .read "/" else .read (String.ofList home)

/-- The folder in which programs keep data.  An empty variable counts as none on windows, and as the
current folder elsewhere. -/
def dataPath (s : Surroundings) : Path :=
  match s.system with
  | .windows =>
    match s.appData with
    | none | some "" => (s.homePath.below "AppData").below "Roaming"
    | some folder => .read folder
  | .macOs => (s.homePath.below "Library").below "Application Support"
  | .other =>
    match s.configHome with
    | none => s.homePath.below ".config"
    | some folder => .read folder

/-- The program's own folder. -/
def folder (s : Surroundings) : Path := (s.dataPath.below companyFolder).below name

end Surroundings

/-- The folder of the log, in the program's folder. -/
def logFolder (folder : Path) : Path := folder.below "logs"

/-- The name of the log. -/
def logName : String := "stackr.log"

/-- The log, in the program's folder. -/
def logFile (folder : Path) : Path := (logFolder folder).below logName

/-- The settings, in the program's folder. -/
def settingsFile (folder : Path) : Path := folder.below "settings.ini"

end Compositor.App
