import Launchpad.Progress
import Launchpad.Supervisor.Basic

/-!
# Waiting for processes to be gone

A wait for processes to be gone looks at all of them every 50 milliseconds. It ends with the first
look that finds none of them alive and, failing that, with the first look that is not before its
deadline; its result is those that the last look found alive.
-/

namespace Launchpad

/-- The time between two looks. -/
def exitPollInterval : Duration := .ofMillis 50

/-- A wait for processes to be gone, the members of a tree whose root has a handle. -/
structure ExitWait where
  handle : Handle
  pids : List Pid
  deadline : Instant
  /-- When the processes are looked at next. -/
  wakeAt : Instant
  deriving DecidableEq, Repr

namespace ExitWait

variable {σ : Type}

abbrev Step (σ : Type) := Progress ExitWait (List Pid) × Supervisor σ

def start (handle : Handle) (pids : List Pid) (within : Duration) (now : Instant) : ExitWait :=
  { handle, pids, deadline := now + within, wakeAt := now }

/-- Whether a member of a tree is alive. The root is looked at through its record. -/
def isMemberAlive (host : Host σ) (h : Handle) (p : Pid) (s : Supervisor σ) :
    Bool × Supervisor σ :=
  if p = h.pid then
    let (alive?, s) := s.observeTracked host h
    (alive?.getD false, s)
  else (host.isAlive s.now p s.world, s)

/-- Those of some members that are alive. -/
def survivors (host : Host σ) (h : Handle) : List Pid → Supervisor σ → List Pid × Supervisor σ
  | [], s => ([], s)
  | p :: ps, s =>
    let (alive, s) := isMemberAlive host h p s
    let (rest, s) := survivors host h ps s
    (if alive then p :: rest else rest, s)

def look (host : Host σ) (w : ExitWait) (s : Supervisor σ) : Step σ :=
  let (left, s) := survivors host w.handle w.pids s
  if left.isEmpty || w.deadline ≤ s.now then (.done left, s)
  else (.again { w with wakeAt := s.now + exitPollInterval }, s)

/-- Goes on: the processes are looked at when the moment has come. -/
def step (host : Host σ) (w : ExitWait) (s : Supervisor σ) : Step σ :=
  if w.wakeAt ≤ s.now then w.look host s else (.again w, s)

end ExitWait

end Launchpad
