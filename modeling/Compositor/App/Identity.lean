/-!
# Who the program is

The names under which the program presents itself and under which it keeps its files.
-/

namespace Compositor.App

/-- The program's name. -/
def name : String := "Stackr"

/-- The program's version, without what a build adds to it. -/
def version : String := "0.1.0"

/-- Who makes the program. -/
def company : String := "Digi Monsters"

/-- The maker's name where a file system has to bear it. -/
def companyFolder : String := "DigiMonsters"

/-- The maker's domain. -/
def domain : String := "digimonsters.uk"

/-- The program's name among all programs. -/
def identifier : String := "uk.digimonsters.stackr"

/-- What the program does. -/
def tagline : String := "Lay out a frame, get an ffmpeg command."

/-- From which sources a program was built, and for whom. -/
structure Build where
  commit : String
  channel : String
deriving DecidableEq, Repr

namespace Build

/-- As many characters of a commit's name are shown. -/
def shownCommit : Nat := 7

/-- The channel of a build that names none. -/
def standardChannel : String := "dev"

/-- The channel that is not worth a word. -/
def silentChannel : String := "stable"

/-- A build as the surroundings name it. -/
def of (commit channel : Option String) : Build :=
  ⟨String.ofList ((commit.getD "").toList.take shownCommit), channel.getD standardChannel⟩

/-- The version with what the build adds to it. -/
def version (b : Build) : String :=
  App.version
    ++ (if b.commit.isEmpty then "" else "+" ++ b.commit)
    ++ if b.channel.isEmpty || b.channel == silentChannel then "" else " (" ++ b.channel ++ ")"

/-- How the program presents itself: its version, its maker, and where its data are. -/
def banner (b : Build) (folder : String) : String :=
  App.name ++ " " ++ b.version ++ "  •  " ++ identifier ++ "\n"
    ++ "Vendor: " ++ company ++ "  •  " ++ tagline ++ "\n"
    ++ "Data: " ++ folder

end Build

end Compositor.App
