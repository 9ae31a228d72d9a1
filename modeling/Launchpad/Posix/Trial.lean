import Launchpad.Posix.Host
import Launchpad.Scripted.SupervisorCall

/-!
# A trial of the posix host

A family of processes is launched by a supervisor, looked at, maybe bereft of one member, and then
terminated twice.
-/

namespace Launchpad.Posix

structure Trial where
  family : Family
  config : TerminationConfig
  /-- The label of a process that is killed before the termination. -/
  victim : Option String := none

/-- The death of the victim: what the sender of the signal is told, whether the victim lives on, and
the status of the root after it unless the root had exited before. -/
structure Trial.Death where
  signal : SignalResult
  alive : Bool
  rootStatus : Option String

structure Trial.Findings where
  rootStatus : String
  alive : List (String × Bool)
  tree : List String
  rootLast : Bool
  childrenFirst : Bool
  group : List String
  death : Option Trial.Death
  first : Termination.Result
  second : Termination.Result
  /-- How many records are left. -/
  records : Nat
  aliveAfter : List (String × Bool)

namespace Trial

def lives (m : Machine) : List (String × Bool) := m.names.map fun (label, p) => (label, m.isAlive p)

def labels (m : Machine) (ps : List Pid) : List String :=
  sortBy (fun a b => !decide (b < a)) (ps.filterMap m.labelOf?)

def rootStatus (s : Supervisor Machine) : String × Supervisor Machine :=
  let (all, s) := s.refresh host
  ((all.head?.map (·.status.text)).getD "", s)

def slay (rootLives : Bool) (p : Pid) (s : Supervisor Machine) : Death × Supervisor Machine :=
  let (signal, world) := host.kill s.now p s.world
  let (status, s) := rootStatus { s with world }
  ({ signal, alive := s.world.isAlive p, rootStatus := if rootLives then some status else none }, s)

def terminate (h : Handle) (config : TerminationConfig) (s : Supervisor Machine) :
    Termination.Result × Supervisor Machine :=
  let plan : Scripted.Schedule (Supervisor Machine) _ Scripted.SupervisorResult := { system := s }
  let (r, plan) := plan.run (Scripted.SupervisorCall.rules host)
    (.terminate { handle := h, config } none)
  match r with
  | some (.terminated result) => (result, plan.system)
  | _ => (.ok (), plan.system)

def examine (t : Trial) (h : Handle) (s : Supervisor Machine) : Findings :=
  let (status, s) := rootStatus s
  let m := s.world
  let tree := ((host.processTree s.now h.pid m).toOption).getD (.rootOnly h.pid)
  let group := groupMembers m h.pid
  let (death, s) := match t.victim.bind m.pidOf? with
    | some p =>
      let (death, s) := slay (m.isAlive h.pid) p s
      (some death, s)
    | none => (none, s)
  let (first, s) := terminate h t.config s
  let (second, s) := terminate h t.config s
  { rootStatus := status, alive := lives m, tree := labels m tree.members,
    rootLast := tree.members.getLast? == some h.pid, childrenFirst := tree.childrenFirst m.links,
    group := labels m group, death, first, second,
    records := (s.refresh host).1.length, aliveAfter := lives s.world }

def run (t : Trial) : Except Error Findings :=
  let s : Supervisor Machine := { world := { family := t.family } }
  match s.launch host .mainRuntime { program := ⟨"sh"⟩ } with
  | (.ok h, s) => .ok (t.examine h s)
  | (.error e, _) => .error e

end Trial

end Launchpad.Posix
