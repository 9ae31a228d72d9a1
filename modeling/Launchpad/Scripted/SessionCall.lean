import Launchpad.Foreground
import Launchpad.Scripted.Schedule

/-!
# Calls of a session on a schedule
-/

namespace Launchpad.Scripted

variable {σ : Type}

/-- What is done to a session at a moment, from beside the run in the foreground. -/
inductive Deed (σ : Type) where
  /-- Something happens to the machine; tells whether it did. -/
  | outside (change : Instant → σ → Bool × σ)
  | stop
  | status
  | phase

/-- A call that may have to wait. -/
inductive SessionCall (σ : Type) where
  | pause (wakeAt : Instant)
  | start (start : Start σ)
  | stop (stop : Stop)
  /-- A foreground run whose shutdown is requested at a moment. -/
  | foreground (run : Foreground σ) (shutdownAt : Option Instant)
  /-- Something that is done at a moment. -/
  | later (wakeAt : Instant) (deed : Deed σ)

inductive SessionResult where
  | paused
  | started (result : Except Error Unit)
  | stopped (result : Except Error Unit)
  | ran (ending : RunEnding)
  | happened (done : Bool)
  | reported (report : Report)
  | seen (phase : Phase)

namespace SessionCall

def perform (host : Host σ) (deed : Deed σ) (s : Session σ) :
    Progress (SessionCall σ) SessionResult × Session σ :=
  match deed with
  | .outside change =>
    let (done, world) := change s.now s.supervisor.world
    (.done (.happened done), { s with supervisor := { s.supervisor with world } })
  | .stop => (.again (.stop .entry), s)
  | .status =>
    let (report, s) := s.status host
    (.done (.reported report), s)
  | .phase => (.done (.seen s.phase), s)

def foregroundWakeAt (run : Foreground σ) (shutdownAt : Option Instant) (s : Session σ) : Instant :=
  match shutdownAt with
  | some t => if run.heedsShutdown then min t (run.wakeAt s) else run.wakeAt s
  | none => run.wakeAt s

def wakeAt (s : Session σ) : SessionCall σ → Instant
  | .pause t => t
  | .start c => c.wakeAt s.cancelled
  | .stop c => c.wakeAt
  | .foreground run shutdownAt => foregroundWakeAt run shutdownAt s
  | .later t _ => t

def step (host : Host σ) (call : SessionCall σ) (s : Session σ) :
    Progress (SessionCall σ) SessionResult × Session σ :=
  match call with
  | .pause t => (if t ≤ s.now then .done .paused else .again (.pause t), s)
  | .start c =>
    let (p, s) := c.step host true s
    ((p.mapCall .start).mapResult .started, s)
  | .stop c =>
    let (p, s) := c.step host s
    ((p.mapCall .stop).mapResult .stopped, s)
  | .foreground run shutdownAt =>
    let choice : Foreground.Choice := { startFirst := run.startIsDue s }
    let (p, s) := run.step host choice (shutdownAt.any (· ≤ s.now)) s
    ((p.mapCall fun run => .foreground run shutdownAt).mapResult .ran, s)
  | .later t deed => if t ≤ s.now then perform host deed s else (.again (.later t deed), s)

/-- What becomes of a call when another start is begun. The machine runs its tool for the start that
was begun last: one that still runs for an earlier start never comes to its end. -/
def overtaken : SessionCall σ → SessionCall σ
  | .start c =>
    match c.stage with
    | .checkingJava java wait =>
      .start { c with stage := .checkingJava java { wait with endsAt := none } }
    | _ => .start c
  | call => call

def rules (host : Host σ) : Rules (Session σ) (SessionCall σ) SessionResult where
  now s := s.now
  moveTo t s := { s with supervisor := { s.supervisor with now := t } }
  wakeAt := wakeAt
  step call s := call.step host s

end SessionCall

end Launchpad.Scripted
