import Launchpad.Config.Termination
import Launchpad.Supervisor.ExitWait

/-!
# Ending a process and all it started

A termination first finds the members: the other processes in the group of the root that are not in
its tree, then the tree, the root last. Each of them is asked to end, and they get the grace period
for it; what is left then is killed and waited for in the same way. The record is dropped once
nobody is left, so a termination that is not carried to its end leaves the process to the next one.
-/

namespace Launchpad

/-- Where a termination stands. -/
inductive Termination.Stage where
  | entry
  /-- The members on the right are still to be asked. -/
  | asking (members left : List Pid)
  /-- The members have been asked, and the grace period runs. -/
  | grace (wait : ExitWait)
  /-- The survivors on the right are still to be killed. -/
  | forcing (survivors left : List Pid)
  /-- The survivors have been killed, and the time for that runs. -/
  | forced (wait : ExitWait)
  deriving DecidableEq, Repr

/-- The termination of a process and its tree. -/
structure Termination where
  handle : Handle
  config : TerminationConfig
  stage : Termination.Stage := .entry
  deriving DecidableEq, Repr

namespace Termination

variable {σ : Type}

/-- The result of a termination: nothing, or those that survived it. -/
abbrev Result := Except (List TerminationFailure) Unit

abbrev Step (σ : Type) := Progress Termination Result × Supervisor σ

/-- The tree of the root: nothing if it has exited, the root alone if it cannot be told. -/
def treeMembers (host : Host σ) (h : Handle) (rootAlive : Bool) (s : Supervisor σ) :
    List Pid × Supervisor σ :=
  if rootAlive then
    let s := s.note (.processTree h.pid)
    match host.processTree s.now h.pid s.world with
    | .ok tree => (tree.members, s)
    | .error _ => ([h.pid], s)
  else ([], s)

/-- The members of the group that are not in the tree; none if they cannot be told. -/
def stragglers (host : Host σ) (h : Handle) (tree : List Pid) (s : Supervisor σ) :
    List Pid × Supervisor σ :=
  let s := s.note (.processGroup h.pid)
  match host.groupMembers s.now h.pid s.world with
  | .ok pids => (pids.filter fun p => !tree.contains p, s)
  | .error _ => ([], s)

/-- All members, in the order in which they are asked to end. -/
def members (host : Host σ) (h : Handle) (rootAlive : Bool) (s : Supervisor σ) :
    List Pid × Supervisor σ :=
  let (tree, s) := treeMembers host h rootAlive s
  let (rest, s) := stragglers host h tree s
  (rest ++ tree, s)

def failureOf (c : Component) (p : Pid) : TerminationFailure :=
  { component := c, pid := p, reason := "still running after forced kill" }

/-- Ends with those that are left: none, and the record is dropped, or some, and it has failed. -/
def finish (h : Handle) (left : List Pid) (s : Supervisor σ) : Step σ :=
  if left.isEmpty then
    (.done (.ok ()), if (s.tracked? h).isSome then s.putRecord h.component none else s)
  else
    let failures := left.map (failureOf h.component)
    let s := match s.tracked? h with
      | some r =>
        s.putRecord h.component
          (some { r with status := .failed (TerminationFailure.summary failures) })
      | none => s
    (.done (.error failures), s)

/-- Takes in a look during the grace period: what is left at its end is to be killed. -/
def resumeGrace (t : Termination) (p : Progress ExitWait (List Pid)) (s : Supervisor σ) : Step σ :=
  match p with
  | .again wait => (.again { t with stage := .grace wait }, s)
  | .done [] => finish t.handle [] s
  | .done left => (.again { t with stage := .forcing left left }, s)

def resumeForced (t : Termination) (p : Progress ExitWait (List Pid)) (s : Supervisor σ) :
    Step σ :=
  match p with
  | .again wait => (.again { t with stage := .forced wait }, s)
  | .done left => finish t.handle left s

/-- Finds the members. A process that is not tracked has been ended before. -/
def enter (host : Host σ) (t : Termination) (s : Supervisor σ) : Step σ :=
  match s.observeTracked host t.handle with
  | (none, s) => (.done (.ok ()), s)
  | (some rootAlive, s) =>
    let (all, s) := members host t.handle rootAlive s
    if all.isEmpty then finish t.handle [] s
    else (.again { t with stage := .asking all all }, s)

def ask (host : Host σ) (p : Pid) (s : Supervisor σ) : Supervisor σ :=
  let s := s.note (.terminate p)
  { s with world := (host.terminate s.now p s.world).2 }

def kill (host : Host σ) (p : Pid) (s : Supervisor σ) : Supervisor σ :=
  let s := s.note (.kill p)
  { s with world := (host.kill s.now p s.world).2 }

/-- Goes on. Every signal is a step of its own; the first look follows the last signal at once. -/
def step (host : Host σ) (t : Termination) (s : Supervisor σ) : Step σ :=
  match t.stage with
  | .entry => t.enter host s
  | .asking members (p :: left) => (.again { t with stage := .asking members left }, ask host p s)
  | .asking members [] =>
    let (p, s) := (ExitWait.start t.handle members t.config.gracePeriod s.now).look host s
    t.resumeGrace p s
  | .grace wait =>
    let (p, s) := wait.step host s
    t.resumeGrace p s
  | .forcing killed (p :: left) => (.again { t with stage := .forcing killed left }, kill host p s)
  | .forcing killed [] =>
    let (p, s) := (ExitWait.start t.handle killed t.config.forceWait s.now).look host s
    t.resumeForced p s
  | .forced wait =>
    let (p, s) := wait.step host s
    t.resumeForced p s

def wakeAt (t : Termination) : Instant :=
  match t.stage with
  | .grace wait => wait.wakeAt
  | .forced wait => wait.wakeAt
  | _ => 0

end Termination

end Launchpad
