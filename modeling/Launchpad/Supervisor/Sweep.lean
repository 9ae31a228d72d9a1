import Launchpad.Supervisor.Termination

/-!
# Ending everything

A sweep terminates every process that is tracked when it starts, one after the other, the last
component in launch order first. A failure does not keep it from going on.
-/

namespace Launchpad

/-- The termination of all processes. -/
structure Sweep where
  config : TerminationConfig
  /-- The termination that is under way. -/
  current : Option Termination := none
  /-- Those that come after it. -/
  queue : List Handle
  /-- What has gone wrong so far. -/
  failures : List TerminationFailure := []
  deriving DecidableEq, Repr

namespace Sweep

variable {σ : Type}

def start (config : TerminationConfig) (s : Supervisor σ) : Sweep :=
  { config, queue := s.handles.reverse }

def failuresOf : Termination.Result → List TerminationFailure
  | .ok () => []
  | .error failures => failures

/-- Takes in what a step of the current termination has left. -/
def resume (w : Sweep) : Progress Termination Termination.Result → Sweep
  | .again t => { w with current := some t }
  | .done r => { w with current := none, failures := w.failures ++ failuresOf r }

def step (host : Host σ) (w : Sweep) (s : Supervisor σ) :
    Progress Sweep Termination.Result × Supervisor σ :=
  match w.current with
  | some t =>
    let (p, s) := t.step host s
    (.again (w.resume p), s)
  | none =>
    match w.queue with
    | h :: rest =>
      (.again { w with current := some { handle := h, config := w.config }, queue := rest }, s)
    | [] => (.done (TerminationFailure.toResult w.failures), s)

def wakeAt (w : Sweep) : Instant :=
  match w.current with
  | some t => t.wakeAt
  | none => 0

end Sweep

end Launchpad
