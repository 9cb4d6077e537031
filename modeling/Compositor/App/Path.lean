/-!
# Paths

A path is a root and the names below it, one after the other.  Repeated slashes and the name `.` say
nothing and are dropped when a path is read; `..` stays, because what it means depends on the file
system.  Written again, a path is therefore in its shortest form (`Path.text`).

Dialogs hand out paths as plain texts; for those there are only the folder of a file and the place
of a file in a folder.
-/

namespace Compositor.App

/-- A path. -/
structure Path where
  /-- What stands before the first name: nothing, one slash, or two. -/
  root : String
  names : List String
deriving DecidableEq, Repr

namespace Path

/-- The slashes with which a path begins: two stay two, and more are one. -/
def rootOf (cs : List Char) : String :=
  match (cs.takeWhile (· == '/')).length with
  | 0 => ""
  | 2 => "//"
  | _ => "/"

/-- The parts of a text between slashes. -/
def split (cs : List Char) : List String := (cs.splitOnP (· == '/')).map String.ofList

/-- Whether a name says where to go. -/
def isName (s : String) : Bool := !s.isEmpty && s != "."

/-- Reads a path. -/
def read (s : String) : Path := ⟨rootOf s.toList, (split s.toList).filter isName⟩

/-- The path of a name below this one. -/
def below (p : Path) (name : String) : Path := { p with names := p.names ++ [name] }

/-- The path as text; the path without names and root is the current folder. -/
def text (p : Path) : String :=
  let s := p.root ++ String.intercalate "/" p.names
  if s.isEmpty then "." else s

/-- The path and all that lie above it, outermost first. -/
def chain (p : Path) : List Path :=
  (List.range p.names.length).map fun n => ⟨p.root, p.names.take (n + 1)⟩

/-- Names and the root are all that is written. -/
example : (Path.read "/a//b/./c/..").text = "/a/b/c/.." := by decide +kernel

/-- Nothing is the current folder. -/
example : (Path.read "").text = "." := by decide +kernel

end Path

/-- A text without the slashes at its end. -/
def withoutSlashes (cs : List Char) : List Char :=
  (cs.reverse.dropWhile (· == '/')).reverse

/-- The folder of a file. -/
def folderOf (path : String) : String :=
  let head := (path.toList.reverse.dropWhile (· != '/')).reverse
  let folder := withoutSlashes head
  String.ofList (if folder.isEmpty then head else folder)

/-- The folder of a file in the root is the root. -/
example : (folderOf "/a/b", folderOf "/a") = ("/a", "/") := by decide +kernel

/-- The path of a file in a folder. -/
def inFolder (folder name : String) : String :=
  String.ofList (withoutSlashes folder.toList) ++ "/" ++ name

end Compositor.App
