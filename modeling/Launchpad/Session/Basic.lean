import Launchpad.Config.Termination
import Launchpad.Supervisor.Basic

/-!
# Sessions

A session is a supervisor with the phase that the deployment is in. Starting it and stopping it are
in modules of their own; here is what it reports.
-/

namespace Launchpad

/-- One deployment from before its start to after its stop. -/
structure Session (σ : Type) where
  supervisor : Supervisor σ
  phase : Phase := .idle
  /-- How processes are ended when the session stops. -/
  termination : TerminationConfig := {}
  /-- Whether a stop has asked the start to give up. -/
  cancelled : Bool := false

namespace Session

variable {σ : Type}

def now (s : Session σ) : Instant := s.supervisor.now

def withSupervisor {α : Type} (f : Supervisor σ → α × Supervisor σ) (s : Session σ) :
    α × Session σ :=
  let (a, supervisor) := f s.supervisor
  (a, { s with supervisor })

/-- The phase after the components have been looked at: a deployment in which some have exited is
degraded, and never running again. -/
def phaseAfter (phase : Phase) (components : List ComponentStatus) : Phase :=
  let exited := (components.filter fun c => !c.status.isLive).map (·.component)
  match phase with
  | .running => if exited.isEmpty then phase else .degraded exited
  | .degraded _ => if exited.isEmpty then phase else .degraded exited
  | _ => phase

def status (host : Host σ) (s : Session σ) : Report × Session σ :=
  let (components, s) := s.withSupervisor (Supervisor.refresh host)
  let s := { s with phase := phaseAfter s.phase components }
  (⟨s.phase, components⟩, s)

end Session

end Launchpad
