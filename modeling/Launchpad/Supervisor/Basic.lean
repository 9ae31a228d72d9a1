import Launchpad.Host
import Launchpad.Status

/-!
# The supervisor

The supervisor holds one record for each component that it has launched and whose processes are not
known to be gone. `Record.observe` is the only place where an exit is noticed. Records are found by
handle, a component with an identifier, so that a handle of an earlier process never touches the
record of a later one.
-/

namespace Launchpad

/-- A managed process, by its component and its identifier. -/
structure Handle where
  component : Component
  pid : Pid
  deriving DecidableEq, Repr

/-- What the supervisor knows of a process that it launched. -/
structure Record where
  pid : Pid
  status : ProcessStatus
  startedAt : Instant
  deriving DecidableEq, Repr

namespace Record

/-- Notices that the process has exited, and tells whether it is alive. A status that is not live
stays as it is, but what is told is still the truth about the process. -/
def observe (state : ChildState) (r : Record) : Bool × Record :=
  if r.status.isLive then
    match state with
    | .running => (true, r)
    | .exited code => (false, { r with status := .exited code })
    | .unknown reason => (false, { r with status := .failed ("status query failed: " ++ reason) })
  else (state == .running, r)

@[simp] theorem observe_pid (state : ChildState) (r : Record) :
    (r.observe state).2.pid = r.pid := by
  unfold observe
  split
  · cases state <;> rfl
  · rfl

/-- What is told is whether the process runs. -/
theorem observe_alive (state : ChildState) (r : Record) :
    (r.observe state).1 = (state == .running) := by
  unfold observe
  split
  · cases state <;> rfl
  · rfl

/-- A status that is not live is final. -/
theorem observe_of_not_live {r : Record} (h : r.status.isLive = false) (state : ChildState) :
    (r.observe state).2 = r := by
  simp [observe, h]

end Record

/-! ## What is asked of the host -/

/-- A request to the host that leaves a trace. -/
inductive HostCall where
  | build (request : Distribution.Request)
  | prepare (command : Command)
  | spawned (component : Component) (pid : Pid)
  | openUrl (url : String)
  | processTree (root : Pid)
  | processGroup (leader : Pid)
  | terminate (pid : Pid)
  | kill (pid : Pid)
  deriving DecidableEq, Repr

/-- A request to the host and its moment. -/
structure Event where
  time : Instant
  call : HostCall
  deriving DecidableEq, Repr

/-! ## The state of the supervisor -/

/-- The supervisor, with the machine that its host works on. -/
structure Supervisor (σ : Type) where
  world : σ
  now : Instant := 0
  /-- The requests to the host, latest first. -/
  journal : List Event := []
  table : PerComponent (Option Record) := .const none
  /-- Whether launches are refused. -/
  closed : Bool := false

namespace Supervisor

variable {σ : Type}

def note (s : Supervisor σ) (call : HostCall) : Supervisor σ :=
  { s with journal := ⟨s.now, call⟩ :: s.journal }

def record? (s : Supervisor σ) (c : Component) : Option Record := s.table.get c

def putRecord (s : Supervisor σ) (c : Component) (r : Option Record) : Supervisor σ :=
  { s with table := s.table.set c r }

/-- The record that a handle stands for, if it is still the record of its component. -/
def tracked? (s : Supervisor σ) (h : Handle) : Option Record :=
  (s.record? h.component).filter fun r => r.pid == h.pid

/-- Looks at the process of a component; false if there is no record. -/
def observe (host : Host σ) (c : Component) (s : Supervisor σ) : Bool × Supervisor σ :=
  match s.record? c with
  | none => (false, s)
  | some r =>
    let (alive, r) := r.observe (host.childState s.now r.pid s.world)
    (alive, s.putRecord c (some r))

/-- Looks at the process of a handle; nothing if its record is gone. -/
def observeTracked (host : Host σ) (h : Handle) (s : Supervisor σ) : Option Bool × Supervisor σ :=
  match s.tracked? h with
  | none => (none, s)
  | some _ =>
    let (alive, s) := s.observe host h.component
    (some alive, s)

/-- Sets the status of a tracked process that is live. -/
def setStatus (h : Handle) (status : ProcessStatus) (s : Supervisor σ) : Supervisor σ :=
  match s.tracked? h with
  | some r =>
    if r.status.isLive then s.putRecord h.component (some { r with status }) else s
  | none => s

/-- Every ready process becomes a running one. -/
def markRunning (s : Supervisor σ) : Supervisor σ :=
  { s with table := s.table.map fun _ r => r.map fun r =>
      if r.status = .ready then { r with status := .running } else r }

def close (s : Supervisor σ) : Supervisor σ := { s with closed := true }

def statuses (s : Supervisor σ) : List ComponentStatus :=
  Component.launchOrder.filterMap fun c => (s.record? c).map fun r =>
    { component := c, pid := r.pid, status := r.status, startedAt := r.startedAt.timestamp }

/-- Looks at every process and gives the records as they stand then. -/
def refresh (host : Host σ) (s : Supervisor σ) : List ComponentStatus × Supervisor σ :=
  let s := Component.launchOrder.foldl (fun s c => (s.observe host c).2) s
  (s.statuses, s)

def handles (s : Supervisor σ) : List Handle :=
  Component.launchOrder.filterMap fun c => (s.record? c).map fun r => ⟨c, r.pid⟩

/-- The supervisor goes away: every process that is still running is killed. Gives those that were,
in launch order, and what is left of the machine. -/
def abandon (host : Host σ) (s : Supervisor σ) : List Handle × σ :=
  s.handles.foldl
    (fun (killed, world) h =>
      if host.childState s.now h.pid world = .running then
        (killed ++ [h], host.killChild s.now h.pid world)
      else (killed, world))
    ([], s.world)

end Supervisor

end Launchpad
