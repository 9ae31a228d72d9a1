import Launchpad.FileTree
import Launchpad.Host

/-!
# A machine with process groups

Processes on this machine have a parent and a group. A process that ends leaves the table, and its
children lose their parent but stay in their group, so that an orphan can only be found through it.
-/

namespace Launchpad.Posix

/-- A process with the processes that it starts. It stays unless it has an exit code. -/
inductive Family where
  | node (label : String) (ignoresTerm : Bool) (exit : Option Int32) (children : List Family)
  deriving Repr, Inhabited

structure Process where
  label : String
  pid : Pid
  /-- None for a process whose parent has ended. -/
  parent : Option Pid
  group : Pid
  /-- Whether the request to end has no effect. -/
  ignoresTerm : Bool := false
  deriving DecidableEq, Repr

structure Machine where
  disk : Disk := { files := FileTree.fresh.files }
  /-- What the next command starts. -/
  family : Family := default
  processes : List Process := []
  /-- The exit codes of the children of the launcher that have ended. -/
  exits : List (Pid × Option Int32) := []
  /-- All labels with the identifiers that they stand for. -/
  names : List (String × Pid) := []

def firstPid : Nat := 2000

mutual

/-- The labels of a family, each with its parent and its exit code, and whether it ignores the
request to end, as its parent may already do. -/
def Family.members (parent : Option String) (ignores : Bool) :
    Family → List (String × Option String × Bool × Option Int32)
  | .node label ignoresTerm exit children =>
    (label, parent, ignores || ignoresTerm, exit) ::
      Family.membersOf (some label) (ignores || ignoresTerm) children

def Family.membersOf (parent : Option String) (ignores : Bool) :
    List Family → List (String × Option String × Bool × Option Int32)
  | [] => []
  | f :: fs => Family.members parent ignores f ++ Family.membersOf parent ignores fs

end

namespace Machine

def process? (m : Machine) (p : Pid) : Option Process := m.processes.find? (·.pid == p)

def isAlive (m : Machine) (p : Pid) : Bool := (m.process? p).isSome

/-- Ends a process. Its children lose their parent. -/
def endProcess (m : Machine) (p : Pid) (code : Option Int32) : Machine :=
  let orphan (q : Process) : Process := if q.parent = some p then { q with parent := none } else q
  { m with processes := (m.processes.filter fun q => q.pid != p).map orphan,
           exits := m.exits ++ [(p, code)] }

def pidOf? (m : Machine) (label : String) : Option Pid := m.names.lookup label

def labelOf? (m : Machine) (p : Pid) : Option String := (m.names.find? (·.2 == p)).map (·.1)

/-- Starts the family that comes next, in a group of its own, and lets those that exit do so. -/
def spawn (m : Machine) : Pid × Machine :=
  let members := m.family.members none false
  let names := members.zipIdx.map fun (entry, k) => (entry.1, Pid.ofNat (firstPid + k))
  let pidOf (label : String) : Pid := (names.lookup label).getD (Pid.ofNat firstPid)
  let root := Pid.ofNat firstPid
  let processes := members.map fun (label, parent, ignoresTerm, _) =>
    { label, pid := pidOf label, parent := parent.map pidOf, group := root, ignoresTerm }
  let m := { m with processes := m.processes ++ processes, names := m.names ++ names }
  let exits := members.filterMap fun (label, _, _, exit) => exit.map fun code => (pidOf label, code)
  (root, exits.foldl (fun m (p, code) => m.endProcess p (some code)) m)

def links (m : Machine) : List ParentLink :=
  m.processes.filterMap fun q => q.parent.map fun parent => ⟨q.pid, parent⟩

end Machine

end Launchpad.Posix
