import Launchpad.Path

/-!
# File systems

A file system is known by what its paths lead to. Nothing else is assumed of it, so that whatever is
said of commands holds for all directories and files that a machine may have; `FileTree` makes file
systems out of nodes. `Disk.find?` looks a program up in the directories of a search path.
-/

namespace Launchpad

namespace FileSystem

/-- What a program consists of. -/
inductive Image where
  /-- Instructions, which the machine runs by itself. -/
  | native
  | text (content : String)
  deriving DecidableEq, Repr

inductive Node where
  | directory
  | file
  /-- A file that may be run. -/
  | program (image : Image)
  deriving DecidableEq, Repr

inductive Fault where
  /-- There is nothing of a name. -/
  | missing
  /-- The way leads through a file. -/
  | notDirectory
  deriving DecidableEq, Repr

end FileSystem

/-- A file system. -/
structure FileSystem where
  /-- What a path leads to, links followed to their ends. -/
  find : Path → Except FileSystem.Fault FileSystem.Node := fun _ => .error .missing
  deriving Inhabited

namespace FileSystem

def isDirectory (fs : FileSystem) (p : Path) : Bool :=
  match fs.find p with
  | .ok .directory => true
  | _ => false

def isFile (fs : FileSystem) (p : Path) : Bool :=
  match fs.find p with
  | .ok .file => true
  | .ok (.program _) => true
  | _ => false

def program? (fs : FileSystem) (p : Path) : Option Image :=
  match fs.find p with
  | .ok (.program image) => some image
  | _ => none

end FileSystem

/-- A file system and the directories in which programs are looked up. -/
structure Disk where
  files : FileSystem := {}
  search : List Path := [⟨""⟩]
  home : Path := ⟨"/root"⟩
  deriving Inhabited

namespace Disk

/-- The directories that a search path lists: its entries are joined by colons and read back, so
that an entry with a colon is two. -/
def searchOf (entries : List String) : List Path :=
  (Text.splitOn (· == ':') (":".intercalate entries).toList).map fun cs => ⟨String.ofList cs⟩

/-- The directory that an entry of the search path names. A tilde that stands by itself in front is
the home directory. -/
def directoryOf (d : Disk) (entry : Path) : Path :=
  match entry.components with
  | "~" :: steps => steps.foldl Path.join d.home
  | _ => entry

def find? (d : Disk) (name : String) : Option Path :=
  (d.search.map (d.directoryOf · / name)).find? fun p => (d.files.program? p).isSome

theorem program_of_find? {d : Disk} {name : String} {p : Path} (h : d.find? name = some p) :
    (d.files.program? p).isSome = true := by
  simpa using List.find?_some h

end Disk

end Launchpad
