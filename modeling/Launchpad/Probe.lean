import Launchpad.Duration

/-!
# Readiness probes

A probe is asked whether a component is ready. Its answer may take time, and asking may change the
machine.
-/

namespace Launchpad

/-- The answer of a probe and the time until it is there. -/
structure ProbeAnswer where
  takes : Duration := 0
  ready : Bool
  deriving DecidableEq, Repr

/-- A readiness check on a machine in state `σ`. -/
structure Probe (σ : Type) where
  describe : String := "custom probe"
  ask : Instant → σ → ProbeAnswer × σ

namespace Probe

variable {σ : Type}

def always : Probe σ where
  describe := "always ready"
  ask _ world := ({ ready := true }, world)

def fixed (ready : Bool) : Probe σ where
  ask _ world := ({ ready }, world)

end Probe

end Launchpad
