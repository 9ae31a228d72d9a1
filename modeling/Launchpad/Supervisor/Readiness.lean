import Launchpad.Probe
import Launchpad.Progress
import Launchpad.Supervisor.Basic

/-!
# Waiting for a component to be ready

A wait is a series of attempts, one at the start and then one after every poll interval. An attempt
first looks whether the process has exited and then asks the probe. The wait ends with the first
attempt that finds the process exited or the probe satisfied, when it is cancelled, and when its
time has passed; an attempt that is due when the time has passed is still made. There are at most
two attempts more than whole intervals in the time, so that a wait with an interval of zero comes to
an end.
-/

namespace Launchpad

structure Gate where
  timeout : Duration
  interval : Duration
  deriving DecidableEq, Repr

namespace Gate

/-- How many attempts may follow the first one. The count is a word of 64 bits. -/
def retries (g : Gate) : Nat :=
  (g.timeout.millis / max 1 g.interval.millis % UInt64.size + 1) % UInt64.size

end Gate

inductive ReadinessWait.Stage where
  /-- An attempt is to be made. -/
  | attempting
  /-- The probe has been asked and answers at a moment. -/
  | probing (answerAt : Instant) (ready : Bool)
  /-- Nothing happens until a moment. -/
  | sleeping (wakeAt : Instant)
  deriving DecidableEq, Repr

/-- The wait for a process to be ready. -/
structure ReadinessWait (σ : Type) where
  handle : Handle
  probe : Probe σ
  gate : Gate
  deadline : Instant
  retriesLeft : Nat
  stage : ReadinessWait.Stage

namespace ReadinessWait

variable {σ : Type}

abbrev Step (σ : Type) := Progress (ReadinessWait σ) (Except Error Unit) × Supervisor σ

def start (host : Host σ) (handle : Handle) (probe : Probe σ) (gate : Gate) (now : Instant) :
    ReadinessWait σ :=
  { handle, probe, gate, deadline := host.timer.expiry now gate.timeout,
    retriesLeft := gate.retries, stage := .attempting }

def timedOut (w : ReadinessWait σ) : Except Error Unit :=
  .error (.notReady w.handle.component w.gate.timeout)

def conclude (host : Host σ) (w : ReadinessWait σ) (ready : Bool) (s : Supervisor σ) : Step σ :=
  if ready then (.done (.ok ()), s.setStatus w.handle .ready)
  else match w.retriesLeft with
    | 0 => (.done w.timedOut, s)
    | left + 1 =>
      let stage := .sleeping (host.timer.wake s.now w.gate.interval)
      (.again { w with retriesLeft := left, stage }, s)

def askProbe (host : Host σ) (w : ReadinessWait σ) (s : Supervisor σ) : Step σ :=
  let (answer, world) := w.probe.ask s.now s.world
  let s := { s with world }
  if answer.takes = 0 then w.conclude host answer.ready s
  else (.again { w with stage := .probing (s.now + answer.takes) answer.ready }, s)

/-- Makes an attempt. A process that is not tracked has not been found exited. -/
def attempt (host : Host σ) (w : ReadinessWait σ) (s : Supervisor σ) : Step σ :=
  let s := (s.observeTracked host w.handle).2
  match s.tracked? w.handle with
  | some r =>
    if r.status.isLive then w.askProbe host s
    else (.done (.error (.exitedEarly w.handle.component r.status.text)), s)
  | none => w.askProbe host s

/-- Nothing is due but, maybe, the end of the time. -/
def checkDeadline (w : ReadinessWait σ) (s : Supervisor σ) : Step σ :=
  if w.deadline ≤ s.now then (.done w.timedOut, s) else (.again w, s)

/-- Goes on. `cancelled` tells whether a cancellation is noticed, which ends the wait. -/
def step (host : Host σ) (cancelled : Bool) (w : ReadinessWait σ) (s : Supervisor σ) : Step σ :=
  if cancelled then (.done (.error .cancelled), s)
  else match w.stage with
    | .attempting => w.attempt host s
    | .probing answerAt ready =>
      if answerAt ≤ s.now then w.conclude host ready s else w.checkDeadline s
    | .sleeping wakeAt => if wakeAt ≤ s.now then w.attempt host s else w.checkDeadline s

def wakeAt (w : ReadinessWait σ) : Instant :=
  match w.stage with
  | .attempting => 0
  | .probing answerAt _ => min answerAt w.deadline
  | .sleeping wakeAt => min wakeAt w.deadline

end ReadinessWait

end Launchpad
