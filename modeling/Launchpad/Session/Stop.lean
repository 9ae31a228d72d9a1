import Launchpad.Session.Basic
import Launchpad.Supervisor.Sweep

/-!
# Stopping a session

A stop first closes the session to everything else, then ends all processes. A session that has been
stopped is left alone, and one that is being stopped cannot be stopped a second time.
-/

namespace Launchpad

inductive Stop where
  | entry
  | sweeping (sweep : Sweep)
  deriving DecidableEq, Repr

namespace Stop

variable {σ : Type}

abbrev Step (σ : Type) := Progress Stop (Except Error Unit) × Session σ

/-- Closes the session: the start gives up, and nothing is launched any more. -/
def shut (s : Session σ) : Session σ :=
  { s with phase := .stopping, cancelled := true, supervisor := s.supervisor.close }

def enter (s : Session σ) : Step σ :=
  match s.phase with
  | .stopped => (.done (.ok ()), s)
  | .stopping => (.done (.error (.phaseConflict .stopping "stop")), s)
  | _ =>
    let s := shut s
    (.again (.sweeping (.start s.termination s.supervisor)), s)

def step (host : Host σ) (c : Stop) (s : Session σ) : Step σ :=
  match c with
  | .entry => enter s
  | .sweeping sweep =>
    match s.withSupervisor (sweep.step host) with
    | (.again sweep, s) => (.again (.sweeping sweep), s)
    | (.done r, s) => (.done (r.mapError .termination), { s with phase := .stopped })

def wakeAt : Stop → Instant
  | .entry => 0
  | .sweeping sweep => sweep.wakeAt

end Stop

end Launchpad
