import Launchpad.Host
import Launchpad.Probe

/-!
# A scripted machine

A machine on which a session can be tried out: what starts, how processes react to signals, what
their trees look like and what probes answer is all laid down in a script. Processes end at moments,
so that how the machine stands follows from the clock.
-/

namespace Launchpad.Scripted

/-! ## Scripts -/

/-- The code that is seen of a process that exits with a number: the lowest byte of it. -/
def exitCode (number : Int) : Int32 := Int32.ofInt (number % 256)

/-- What a signal does to a process. -/
structure Reaction where
  /-- What the sender is told. -/
  result : SignalResult := .delivered
  /-- How long the process goes on after the signal; forever if nothing is given. -/
  endsAfter : Option Duration := some 0
  /-- The code with which it exits then, unless the signal ends it. -/
  code : Option Int32 := none
  deriving DecidableEq, Repr, Inhabited

/-- Why a process does not start. -/
inductive Refusal where
  | missing
  | denied
  /-- The host refuses to prepare the command. -/
  | unsupported
  deriving DecidableEq, Repr

/-- A link in the tree of a process, to the process itself where no parent is given. -/
structure TreeLink where
  pid : Pid
  parent : Option Pid
  deriving DecidableEq, Repr

/-- How the next process of a component behaves. -/
structure Plan where
  refusal : Option Refusal := none
  terminate : Reaction := {}
  kill : Reaction := {}
  tree : List TreeLink := []
  group : List Pid := []
  /-- Whether the tree cannot be told. -/
  treeFails : Bool := false
  /-- Whether the group cannot be told. -/
  groupFails : Bool := false
  deriving DecidableEq, Repr, Inhabited

/-- A process that is not started by the launcher. -/
structure Bystander where
  alive : Bool := true
  terminate : Reaction := {}
  kill : Reaction := {}
  deriving DecidableEq, Repr, Inhabited

/-- What every command that runs to its end does. -/
structure Tool where
  missing : Bool := false
  run : ToolRun := {}
  deriving DecidableEq, Repr, Inhabited

/-- What is laid down of a machine. -/
structure Script where
  layout : Layout := .posix
  plans : PerComponent Plan := .const {}
  bystanders : List (Pid × Bystander) := []
  tool : Tool := {}
  /-- Why the browser does not open, if it does not. -/
  openFails : Option String := none
  deriving Repr, Inhabited

def Script.setPlan (s : Script) (c : Component) (plan : Plan) : Script :=
  { s with plans := s.plans.set c plan }

def Script.setBystander (s : Script) (p : Pid) (b : Bystander) : Script :=
  { s with bystanders := (p, b) :: s.bystanders }

/-! ## The machine -/

/-- The end of a process: its moment, and the code unless a signal ended it. -/
structure Ending where
  time : Instant
  code : Option Int32 := none
  deriving DecidableEq, Repr

/-- A process that has been started, and its end if that is known. -/
structure Process where
  component : Component
  pid : Pid
  plan : Plan
  ending : Option Ending := none
  deriving DecidableEq, Repr

structure World where
  disk : Disk := {}
  script : Script := {}
  /-- What has been started, latest first. -/
  processes : List Process := []
  /-- The ends of the bystanders. -/
  endings : List (Pid × Ending) := []
  /-- How often each probe has been asked, by the number of the probe. -/
  asked : List (Nat × Nat) := []
  /-- How many probes there are. -/
  probes : Nat := 0
  /-- How often the probes of each component have been asked since that was last noted. -/
  attempts : PerComponent Nat := .const 0

def Ending.reached (e : Ending) (now : Instant) : Bool := e.time ≤ now

/-- The earlier of two ends; of two at one moment, the one that was known first. -/
def earlier (known? : Option Ending) (e : Ending) : Option Ending :=
  match known? with
  | some known => if e.time < known.time then some e else some known
  | none => some e

def Reaction.ending? (r : Reaction) (now : Instant) : Option Ending :=
  r.endsAfter.map fun d => ⟨now + d, r.code⟩

namespace Process

def isAlive (p : Process) (now : Instant) : Bool := !p.ending.any (·.reached now)

def state (p : Process) (now : Instant) : ChildState :=
  match p.ending with
  | some e => if e.reached now then .exited e.code else .running
  | none => .running

def endWith (p : Process) (e? : Option Ending) : Process :=
  match e? with
  | some e => { p with ending := earlier p.ending e }
  | none => p

end Process

namespace World

def firstPid : Nat := 101

def process? (w : World) (p : Pid) : Option Process := w.processes.find? (·.pid == p)

def newest? (w : World) (c : Component) : Option Process := w.processes.find? (·.component == c)

def modifyProcess (w : World) (p : Pid) (f : Process → Process) : World :=
  { w with processes := w.processes.map fun q => if q.pid = p then f q else q }

def bystanderAlive (w : World) (now : Instant) (p : Pid) : Bool :=
  match w.script.bystanders.lookup p with
  | some b => b.alive && !(w.endings.lookup p).any (·.reached now)
  | none => false

def isAlive (w : World) (now : Instant) (p : Pid) : Bool :=
  match w.process? p with
  | some q => q.isAlive now
  | none => w.bystanderAlive now p

def childState (w : World) (now : Instant) (p : Pid) : ChildState :=
  match w.process? p with
  | some q => q.state now
  | none => .exited none

/-- Ends the newest process of a component. False if none is running. -/
def endNewest (w : World) (now : Instant) (c : Component) (code : Option Int32) : Bool × World :=
  match w.newest? c with
  | some q =>
    if q.isAlive now then
      (true, w.modifyProcess q.pid fun q => { q with ending := some ⟨now, code⟩ })
    else (false, w)
  | none => (false, w)

/-- Sends a signal: which reaction it meets is laid down in the plan of a process that was started,
and in the script for a bystander. -/
def signal (w : World) (now : Instant) (p : Pid) (ofPlan : Plan → Reaction)
    (ofBystander : Bystander → Reaction) : SignalResult × World :=
  match w.process? p with
  | some q =>
    let r := ofPlan q.plan
    (r.result, w.modifyProcess p fun q => q.endWith (r.ending? now))
  | none =>
    match w.script.bystanders.lookup p with
    | none => (.noProcess, w)
    | some b =>
      let r := ofBystander b
      match r.ending? now with
      | none => (r.result, w)
      | some e =>
        match earlier (w.endings.lookup p) e with
        | some e => (r.result, { w with endings := (p, e) :: w.endings })
        | none => (r.result, w)

/-- The processes that were started and run, in the order of their identifiers. -/
def running (w : World) (now : Instant) : List Pid :=
  ((w.processes.filter fun q => q.isAlive now).map (·.pid)).reverse

end World

/-! ## Probes -/

/-- Ends the newest process of a component. -/
structure Action where
  component : Component
  code : Option Int32 := none
  deriving DecidableEq, Repr

/-- What a scripted probe does. -/
structure ProbeScript where
  /-- How often it says no before it says yes; nothing if it always says no. -/
  refusals : Option Nat
  /-- What happens when it is asked for the n-th time, before it answers. -/
  actions : List (Nat × List Action) := []
  deriving DecidableEq, Repr

def ProbeScript.ask (script : ProbeScript) (owner : Component) (number : Nat) (now : Instant)
    (w : World) : ProbeAnswer × World :=
  let n := (w.asked.lookup number).getD 0 + 1
  let others := w.asked.filter fun a => a.1 != number
  let w := { w with asked := (number, n) :: others, attempts := w.attempts.modify owner (· + 1) }
  let actions := (script.actions.lookup n).getD []
  let w := actions.foldl (fun w a => (w.endNewest now a.component a.code).2) w
  ({ ready := script.refusals.any (· < n) }, w)

def World.newProbe (w : World) (owner : Component) (script? : Option ProbeScript) :
    Probe World × World :=
  match script? with
  | none => (.always, w)
  | some script => ({ ask := script.ask owner w.probes }, { w with probes := w.probes + 1 })

end Launchpad.Scripted
