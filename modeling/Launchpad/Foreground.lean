import Launchpad.Session.Start
import Launchpad.Session.Stop

/-!
# Foreground runs

A foreground run starts a session, watches it until a shutdown is requested or a component has
exited, and stops it. A shutdown that is requested during the start stops the session while the
start goes on to its own end. When the run and the stop both fail, the failure of the stop counts.
-/

namespace Launchpad

inductive RunOutcome where
  | shutdownRequested
  | componentsExited (exited : List Component)
  deriving DecidableEq, Repr

def RunOutcome.toJson : RunOutcome → Json
  | .shutdownRequested => .object [("reason", .text "shutdownRequested")]
  | .componentsExited exited =>
    .object [("reason", .text "componentsExited"), ("exited", Component.listToJson exited)]

/-- How a run comes to its end. -/
inductive RunEnding where
  | returned (result : Except Error RunOutcome)
  /-- The run broke off in the middle. -/
  | aborted (reason : String)

inductive Foreground.Stage (σ : Type) where
  | starting (start : Start σ)
  /-- The session is looked at next at a moment. -/
  | watching (nextTick : Instant)
  /-- The session is being stopped; the outcome is known but for that. -/
  | closing (outcome : Except Error RunOutcome) (stop : Stop)
  /-- A shutdown was requested during the start: both it and the stop go on. -/
  | interrupted (start : Progress (Start σ) (Except Error Unit))
      (stop : Progress Stop (Except Error Unit))

structure Foreground (σ : Type) where
  watchInterval : Duration
  stage : Foreground.Stage σ

namespace Foreground

variable {σ : Type}

/-- How often a session is looked at unless the caller says otherwise. -/
def defaultWatchInterval : Duration := .ofSecs 5

/-- How late a look may be before the ones after it are put off. -/
def tickTolerance : Duration := .ofMillis 5

abbrev Step (σ : Type) := Progress (Foreground σ) RunEnding × Session σ

def begin (config : LaunchConfig) (probes : PerComponent (Probe σ)) (watchInterval : Duration) :
    Foreground σ :=
  { watchInterval, stage := .starting { config, probes } }

def goTo (c : Foreground σ) (stage : Stage σ) (s : Session σ) : Step σ :=
  (.again { c with stage }, s)

def close (c : Foreground σ) (outcome : Except Error RunOutcome) (s : Session σ) : Step σ :=
  c.goTo (.closing outcome .entry) s

/-- What the start's result means for a run whose shutdown has been requested. -/
def interruptedOutcome : Except Error Unit → Except Error RunOutcome
  | .ok () => .ok .shutdownRequested
  | .error e => if e = .cancelled then .ok .shutdownRequested else .error e

def combine (outcome : Except Error RunOutcome) (stopped : Except Error Unit) :
    Except Error RunOutcome :=
  match stopped with
  | .ok () => outcome
  | .error e => .error e

def watch (c : Foreground σ) (s : Session σ) : Step σ :=
  if c.watchInterval = 0 then (.done (.aborted "`period` must be non-zero."), s)
  else c.goTo (.watching s.now) s

/-- When the session is looked at after a look that was due at a moment. -/
def tickAfter (host : Host σ) (c : Foreground σ) (due now : Instant) : Instant :=
  host.timer.wake (if due + tickTolerance < now then now else due) c.watchInterval

def look (host : Host σ) (c : Foreground σ) (due : Instant) (s : Session σ) : Step σ :=
  let (report, s) := s.status host
  match report.phase with
  | .degraded exited => c.close (.ok (.componentsExited exited)) s
  | _ => c.goTo (.watching (c.tickAfter host due s.now)) s

def isNew (p : Progress (Start σ) (Except Error Unit)) : Bool :=
  match p with
  | .again { stage := .entry, .. } => true
  | _ => false

def stepStart (host : Host σ) (notice : Bool) (p : Progress (Start σ) (Except Error Unit))
    (s : Session σ) : Progress (Start σ) (Except Error Unit) × Session σ :=
  match p with
  | .again start => start.step host notice s
  | .done r => (.done r, s)

def stepStop (host : Host σ) (p : Progress Stop (Except Error Unit)) (s : Session σ) :
    Progress Stop (Except Error Unit) × Session σ :=
  match p with
  | .again stop => stop.step host s
  | .done r => (.done r, s)

def join (c : Foreground σ) (start : Progress (Start σ) (Except Error Unit))
    (stop : Progress Stop (Except Error Unit)) (s : Session σ) : Step σ :=
  match start, stop with
  | .done started, .done stopped =>
    (.done (.returned (combine (interruptedOutcome started) stopped)), s)
  | _, _ => c.goTo (.interrupted start stop) s

/-- When a start can go on; nothing if it has ended. -/
def startWakeAt (p : Progress (Start σ) (Except Error Unit)) (s : Session σ) : Option Instant :=
  match p with
  | .again start => some (start.wakeAt s.cancelled)
  | .done _ => none

/-- When a stop can go on; nothing if it has ended. -/
def stopWakeAt (p : Progress Stop (Except Error Unit)) : Option Instant :=
  match p with
  | .again stop => some stop.wakeAt
  | .done _ => none

/-- Which of two calls goes on in a step, and what a wait notices. Of a start and a stop that begin
together the start takes the first step. -/
structure Choice where
  /-- Whether a cancellation is noticed by a wait for which something else is due. -/
  notice : Bool := true
  /-- Whether the start goes on rather than the stop beside it. -/
  startFirst : Bool := true
  deriving DecidableEq, Repr

/-- Goes on. `shutdown` tells whether a requested shutdown is noticed. -/
def step (host : Host σ) (choice : Choice) (shutdown : Bool) (c : Foreground σ) (s : Session σ) :
    Step σ :=
  match c.stage with
  | .starting start =>
    if shutdown then c.goTo (.interrupted (.again start) (.again .entry)) s
    else match start.step host choice.notice s with
      | (.again start, s) => c.goTo (.starting start) s
      | (.done (.ok ()), s) => c.watch s
      | (.done (.error e), s) => c.close (.error e) s
  | .watching nextTick =>
    if shutdown then c.close (.ok .shutdownRequested) s
    else if nextTick ≤ s.now then c.look host nextTick s
    else (.again c, s)
  | .closing outcome stop =>
    match stop.step host s with
    | (.again stop, s) => c.goTo (.closing outcome stop) s
    | (.done stopped, s) => (.done (.returned (combine outcome stopped)), s)
  | .interrupted start stop =>
    if choice.startFirst || isNew start then
      let (start, s) := stepStart host choice.notice start s
      c.join start stop s
    else
      let (stop, s) := stepStop host stop s
      c.join start stop s

def wakeAt (c : Foreground σ) (s : Session σ) : Instant :=
  match c.stage with
  | .starting start => start.wakeAt s.cancelled
  | .watching nextTick => nextTick
  | .closing _ stop => stop.wakeAt
  | .interrupted start stop =>
    match startWakeAt start s, stopWakeAt stop with
    | some a, some b => min a b
    | some a, none => a
    | none, some b => b
    | none, none => 0

def startIsDue (c : Foreground σ) (s : Session σ) : Bool :=
  match c.stage with
  | .interrupted start _ => (startWakeAt start s).any (· ≤ s.now)
  | _ => true

def heedsShutdown (c : Foreground σ) : Bool :=
  match c.stage with
  | .starting _ | .watching _ => true
  | _ => false

end Foreground

end Launchpad
