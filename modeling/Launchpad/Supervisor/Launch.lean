import Launchpad.Supervisor.Basic

/-!
# Launching a component

A launch is refused, in this order, by the host, by a supervisor that is closed, and by a process of
the component that is still running; then the process has to start.
-/

namespace Launchpad.Supervisor

variable {σ : Type}

/-- Starts the process of a component that has been found free. -/
def startProcess (host : Host σ) (c : Component) (command : Command) (s : Supervisor σ) :
    Except Error Handle × Supervisor σ :=
  match host.spawn s.now c command s.world with
  | (.error cause, world) => (.error (.launch c command.program cause), { s with world })
  | (.ok pid, world) =>
    let s := { s with world }.note (.spawned c pid)
    (.ok ⟨c, pid⟩, s.putRecord c (some { pid, status := .starting, startedAt := s.now }))

def launch (host : Host σ) (c : Component) (command : Command) (s : Supervisor σ) :
    Except Error Handle × Supervisor σ :=
  let s := s.note (.prepare command)
  match host.prepare (.component c) command s.world with
  | .error e => (.error e, s)
  | .ok () =>
    if s.closed then (.error .cancelled, s)
    else match s.record? c with
      | none => s.startProcess host c command
      | some r =>
        let (alive, s) := s.observe host c
        if alive then (.error (.alreadyRunning c r.pid), s) else s.startProcess host c command

end Launchpad.Supervisor
