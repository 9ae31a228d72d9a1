import Launchpad.Progress
import Launchpad.Supervisor.Basic

/-!
# Running a command to its end

A command that is not the process of a component, but has to end within a time and leaves output.
-/

namespace Launchpad

/-- The wait for a command to end. -/
structure ToolWait where
  /-- The command, for messages. -/
  line : String
  limit : Duration
  /-- When the command ends, if it does. -/
  endsAt : Option Instant
  deadline : Instant
  output : Output
  deriving Repr

namespace ToolWait

variable {σ : Type}

def start (host : Host σ) (command : Command) (limit : Duration) (s : Supervisor σ) :
    Except Error ToolWait × Supervisor σ :=
  let s := s.note (.prepare command)
  match host.prepare .tool command s.world with
  | .error e => (.error e, s)
  | .ok () =>
    match host.runTool s.now command s.world with
    | (.error cause, world) => (.error (.run (.notRun command.line cause)), { s with world })
    | (.ok run, world) =>
      (.ok { line := command.line, limit, endsAt := run.takes.map (s.now + ·),
             deadline := host.timer.expiry s.now limit, output := run.output }, { s with world })

def reached (moment : Option Instant) (now : Instant) : Bool := moment.any (· ≤ now)

/-- Goes on: the end of the command counts before the end of the time. -/
def step (w : ToolWait) (now : Instant) : Progress ToolWait (Except Error Output) :=
  if reached w.endsAt now then .done (.ok w.output)
  else if w.deadline ≤ now then .done (.error (.run (.unfinished w.line w.limit)))
  else .again w

def wakeAt (w : ToolWait) : Instant :=
  match w.endsAt with
  | some t => min t w.deadline
  | none => w.deadline

end ToolWait

end Launchpad
