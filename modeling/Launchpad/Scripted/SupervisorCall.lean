import Launchpad.Scripted.Schedule
import Launchpad.Supervisor.Launch
import Launchpad.Supervisor.Readiness
import Launchpad.Supervisor.Sweep
import Launchpad.Supervisor.ToolWait

/-!
# Calls of a supervisor on a schedule
-/

namespace Launchpad.Scripted

variable {σ : Type}

/-- A call that may have to wait. -/
inductive SupervisorCall (σ : Type) where
  | pause (wakeAt : Instant)
  | run (wait : ToolWait)
  /-- A wait that is cancelled at a moment. -/
  | waitReady (wait : ReadinessWait σ) (cancelAt : Option Instant)
  /-- A termination that is dropped at a moment. -/
  | terminate (termination : Termination) (dropAt : Option Instant)
  | sweep (sweep : Sweep)

inductive SupervisorResult where
  | paused
  | ran (result : Except Error Output)
  | waited (result : Except Error Unit)
  | terminated (result : Termination.Result)
  | dropped
  | swept (result : Termination.Result)

namespace SupervisorCall

def sooner (t : Instant) (other : Option Instant) : Instant :=
  match other with
  | some u => min t u
  | none => t

def wakeAt : SupervisorCall σ → Instant
  | .pause t => t
  | .run w => w.wakeAt
  | .waitReady w cancelAt => sooner w.wakeAt cancelAt
  | .terminate t dropAt => sooner t.wakeAt dropAt
  | .sweep w => w.wakeAt

/-- Goes on with a call. A cancellation counts before anything that is due at the same moment, the
drop of a termination after it. -/
def step (host : Host σ) (call : SupervisorCall σ) (s : Supervisor σ) :
    Progress (SupervisorCall σ) SupervisorResult × Supervisor σ :=
  match call with
  | .pause t => (if t ≤ s.now then .done .paused else .again (.pause t), s)
  | .run w => (((w.step s.now).mapCall .run).mapResult .ran, s)
  | .waitReady w cancelAt =>
    let (p, s) := w.step host (ToolWait.reached cancelAt s.now) s
    ((p.mapCall fun w => .waitReady w cancelAt).mapResult .waited, s)
  | .terminate t dropAt =>
    if s.now < t.wakeAt && ToolWait.reached dropAt s.now then (.done .dropped, s)
    else
      let (p, s) := t.step host s
      ((p.mapCall fun t => .terminate t dropAt).mapResult .terminated, s)
  | .sweep w =>
    let (p, s) := w.step host s
    ((p.mapCall .sweep).mapResult .swept, s)

def rules (host : Host σ) : Rules (Supervisor σ) (SupervisorCall σ) SupervisorResult where
  now s := s.now
  moveTo t s := { s with now := t }
  wakeAt _ call := call.wakeAt
  step call s := call.step host s

end SupervisorCall

end Launchpad.Scripted
