import Launchpad.FileSystem

/-!
# File trees

A file system made of nodes, each under the names that lead to it from the root. A path is followed
from the root or from the working directory, the way a kernel does it: every step needs a directory
to stand in, so that a path through a file leads nowhere, and a step up from the root stays there.
-/

namespace Launchpad

open FileSystem

/-- The nodes below the root, latest first, and the names of the working directory. -/
structure FileTree where
  nodes : List (List String × Node) := []
  workingDirectory : List String := []
  deriving DecidableEq, Repr, Inhabited

namespace FileTree

def node? (t : FileTree) : List String → Option Node
  | [] => some .directory
  | names => (t.nodes.find? (·.1 == names)).map (·.2)

def step (t : FileTree) (piece : String) : List String × Node → Except Fault (List String × Node)
  | (names, .directory) =>
    if piece == "" || piece == "." then .ok (names, .directory)
    else if piece == ".." then .ok (names.dropLast, .directory)
    else match t.node? (names ++ [piece]) with
      | some node => .ok (names ++ [piece], node)
      | none => .error .missing
  | _ => .error .notDirectory

def start (t : FileTree) (p : Path) : List String := if p.isAbsolute then [] else t.workingDirectory

def follow (t : FileTree) (p : Path) : Except Fault Node :=
  let pieces := if p.isAbsolute then p.pieces.tail else p.pieces
  (·.2) <$> pieces.foldlM (fun place piece => t.step piece place) (t.start p, .directory)

/-- How many bytes a path has to stay below. -/
def pathLimit : Nat := 4096

/-- The file system. An empty path and one that is too long lead nowhere. -/
def files (t : FileTree) : FileSystem where
  find p :=
    if p.text.isEmpty || pathLimit ≤ p.text.utf8ByteSize then .error .missing else t.follow p

/-! ## Making trees -/

/-- The names of a path, with steps upwards taken back. -/
def namesOf (t : FileTree) (p : Path) : List String :=
  p.pieces.foldl
    (fun names piece =>
      if piece == ".." then names.dropLast
      else if Path.isStep piece then names ++ [piece]
      else names)
    (t.start p)

/-- Adds a node and those directories on the way to it that are missing. -/
def add (t : FileTree) (p : Path) (node : Node) : FileTree :=
  let names := t.namesOf p
  let missing := ((List.range names.length).map names.take).filter fun names =>
    (t.node? names).isNone
  { t with nodes := (names, node) :: missing.map (·, .directory) ++ t.nodes }

def addAll (t : FileTree) (directories files : List Path) (programs : List (Path × Image)) :
    FileTree :=
  let t := directories.foldl (fun t p => t.add p .directory) t
  let t := files.foldl (fun t p => t.add p .file) t
  programs.foldl (fun t p => t.add p.1 (.program p.2)) t

/-! ## A machine without anything of its own -/

def systemPrograms : List String :=
  ["sh", "bash", "dash", "awk", "basename", "cat", "chmod", "chown", "cp", "cut", "date", "dd",
    "df", "dirname", "du", "echo", "egrep", "env", "expr", "false", "fgrep", "find", "getconf",
    "grep", "gzip", "head", "hostname", "id", "kill", "ln", "ls", "mkdir", "mktemp", "mv", "nice",
    "nohup", "od", "perl", "printf", "pwd", "readlink", "rm", "rmdir", "sed", "seq", "setsid",
    "sleep", "sort", "stat", "stty", "sync", "tail", "tar", "tee", "test", "timeout", "touch", "tr",
    "true", "tty", "uname", "uniq", "wc", "which", "who", "whoami", "xargs", "yes"]

def systemDirectories : List String :=
  ["bin", "boot", "dev", "etc", "home", "lib", "media", "mnt", "opt", "proc", "root", "run", "sbin",
    "srv", "sys", "tmp", "usr", "usr/bin", "usr/lib", "usr/local", "usr/local/bin", "usr/sbin",
    "usr/share", "var", "var/tmp"]

/-- A system that has just been installed, with an empty working directory. -/
def fresh : FileTree :=
  { FileTree.addAll {} (systemDirectories.map Path.mk ++ [⟨"tmp/launchpad"⟩]) []
      (["bin", "usr/bin"].flatMap fun d =>
        systemPrograms.map fun name => (Path.join ⟨d⟩ name, .native)) with
    workingDirectory := ["tmp", "launchpad"] }

end FileTree

/-- The files of a fresh system with these directories, plain files and programs. -/
def FileSystem.ofEntries (directories files : List Path) (programs : List (Path × String)) :
    FileSystem :=
  (FileTree.fresh.addAll directories files (programs.map fun p => (p.1, .text p.2))).files

end Launchpad
