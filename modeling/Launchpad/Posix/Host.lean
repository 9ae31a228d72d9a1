import Launchpad.Posix.Machine
import Launchpad.Posix.Program

/-!
# The host of a machine with process groups

Signals go to single processes only: the numbers that the system reads as groups, zero and those
that are negative as signed words, are refused. The browser is opened by a program of the search
path.
-/

namespace Launchpad.Posix

def hostName : String := "unix"

def browserOpener : String := "xdg-open"

def isSingle (p : Pid) : Bool := 0 < p.toNat && p.toNat < 0x80000000

/-! ## The browser -/

def longestArgument : Nat := 0x1ffff

/-- Starts a program for one argument, which has to be one that can be passed. -/
def startWith (fs : FileSystem) (program : Path) (argument : String) : Except SystemError Unit :=
  if !Command.canPass argument then .error .nulInText
  else if longestArgument < argument.utf8ByteSize then .error .argumentTooLong
  else start fs program

/-- Opens a page in the browser. What the opener does then does not matter. -/
def openUrl (disk : Disk) (url : String) : Except Error Unit :=
  match disk.find? browserOpener with
  | none =>
    .error (.browser url ("no browser handler (" ++ browserOpener ++ "): cannot find binary path"))
  | some opener =>
    match startWith disk.files opener url with
    | .ok () => .ok ()
    | .error cause =>
      .error (.browser url (browserOpener ++ " failed to start: " ++ cause.message))

/-! ## Processes -/

/-- Sends a signal that ends a process, or has no effect on some. -/
def signal (m : Machine) (p : Pid) (spares : Process → Bool) : SignalResult × Machine :=
  if !isSingle p then (.failed ("invalid pid " ++ p.text), m)
  else match m.process? p with
    | none => (.noProcess, m)
    | some q => (.delivered, if spares q then m else m.endProcess p none)

def groupMembers (m : Machine) (leader : Pid) : List Pid :=
  if isSingle leader then
    sortBy Pid.le ((m.processes.filter fun q => q.group == leader && q.pid != leader).map (·.pid))
  else []

def host : Host Machine where
  name := hostName
  disk m := m.disk
  command r m := (Distribution.build .posix m.disk.files r).mapError .invalidCommand
  prepare _ _ _ := .ok ()
  spawn _ _ _ m := let (p, m) := m.spawn; (.ok p, m)
  childState _ p m :=
    match m.exits.lookup p with
    | some code => .exited code
    | none => .running
  runTool _ _ m := (.error .notFound, m)
  openUrl url m := (openUrl m.disk url, m)
  processTree _ p m := .ok (if m.isAlive p then .ofLinks p m.links else .rootOnly p)
  groupMembers _ p m := .ok (groupMembers m p)
  terminate _ p m := signal m p Process.ignoresTerm
  kill _ p m := signal m p fun _ => false
  isAlive _ p m := m.isAlive p
  killChild _ p m := m.endProcess p none

end Launchpad.Posix
