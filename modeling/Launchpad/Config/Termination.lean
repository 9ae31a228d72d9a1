import Launchpad.Config.Fault
import Launchpad.Duration
import Launchpad.Json.Read

/-!
# The termination section of a configuration
-/

namespace Launchpad

/-- How long processes get to end. -/
structure TerminationConfig where
  /-- After the graceful signal, in milliseconds. -/
  gracePeriodMs : UInt64 := 10000
  /-- After the forced kill, in milliseconds. -/
  forceWaitMs : UInt64 := 3000
  deriving DecidableEq, Repr, Inhabited

namespace TerminationConfig

/-- Refuses to wait long for the first signal, and not at all for the second. -/
def validate (c : TerminationConfig) : Except ConfigFault Unit :=
  if 120000 < c.gracePeriodMs then .error .longGracePeriod
  else if c.forceWaitMs = 0 then .error .zeroForceWait
  else .ok ()

def gracePeriod (c : TerminationConfig) : Duration := .ofMillis c.gracePeriodMs.toNat

def forceWait (c : TerminationConfig) : Duration := .ofMillis c.forceWaitMs.toNat

def toJson (c : TerminationConfig) : Json :=
  .object [("gracePeriodMs", .nat c.gracePeriodMs.toNat),
    ("forceWaitMs", .nat c.forceWaitMs.toNat)]

def schema : Json.Schema TerminationConfig where
  name := "struct TerminationConfig"
  fields := [
    .of "gracePeriodMs" Json.readUInt64 fun v c => { c with gracePeriodMs := v },
    .of "forceWaitMs" Json.readUInt64 fun v c => { c with forceWaitMs := v }]

/-- Reads the section; what is left out has its default. -/
def read : Json.Reader TerminationConfig := schema.read {}

end TerminationConfig

end Launchpad
