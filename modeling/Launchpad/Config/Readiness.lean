import Launchpad.Config.Fault
import Launchpad.Duration
import Launchpad.Json.Read

/-!
# The readiness section of a configuration
-/

namespace Launchpad

/-- How the components are asked whether they are ready. -/
structure ReadinessConfig where
  /-- Between two questions to a component, in milliseconds. -/
  pollIntervalMs : UInt64 := 2000
  /-- For the answer to one question, in milliseconds. -/
  requestTimeoutMs : UInt64 := 5000
  /-- For a component to become ready, in seconds. -/
  timeoutSecs : PerComponent UInt64 := ⟨120, 120, 300⟩
  healthUrl : PerComponent String :=
    ⟨"http://localhost:9200/_cluster/health",
      "http://localhost:8086/actuator/health/readiness",
      "http://localhost:9600/actuator/health/status"⟩
  deriving DecidableEq, Repr, Inhabited

namespace ReadinessConfig

def zeroTimeout? (c : ReadinessConfig) : Option Component :=
  Component.launchOrder.find? fun k => c.timeoutSecs.get k == 0

def validate (c : ReadinessConfig) : Except ConfigFault Unit :=
  if c.pollIntervalMs = 0 then .error .zeroPollInterval
  else match c.zeroTimeout? with
    | some k => .error (.zeroTimeout k)
    | none => .ok ()

def pollInterval (c : ReadinessConfig) : Duration := .ofMillis c.pollIntervalMs.toNat

def requestTimeout (c : ReadinessConfig) : Duration := .ofMillis c.requestTimeoutMs.toNat

def timeout (c : ReadinessConfig) (k : Component) : Duration := .ofSecs (c.timeoutSecs.get k).toNat

def timeoutKey (k : Component) : String := k.displayName ++ "TimeoutSecs"

def healthUrlKey (k : Component) : String := k.displayName ++ "HealthUrl"

def toJson (c : ReadinessConfig) : Json :=
  .object ([("pollIntervalMs", .nat c.pollIntervalMs.toNat),
      ("requestTimeoutMs", .nat c.requestTimeoutMs.toNat)]
    ++ Component.launchOrder.map (fun k => (timeoutKey k, .nat (c.timeoutSecs.get k).toNat))
    ++ Component.launchOrder.map (fun k => (healthUrlKey k, .text (c.healthUrl.get k))))

def schema : Json.Schema ReadinessConfig where
  name := "struct ReadinessConfig"
  fields :=
    [.of "pollIntervalMs" Json.readUInt64 fun v c => { c with pollIntervalMs := v },
      .of "requestTimeoutMs" Json.readUInt64 fun v c => { c with requestTimeoutMs := v }]
    ++ Component.launchOrder.map (fun k =>
      .of (timeoutKey k) Json.readUInt64 fun v c => { c with timeoutSecs := c.timeoutSecs.set k v })
    ++ Component.launchOrder.map (fun k =>
      .of (healthUrlKey k) Json.readText fun v c => { c with healthUrl := c.healthUrl.set k v })

/-- Reads the section; what is left out has its default. -/
def read : Json.Reader ReadinessConfig := schema.read {}

end ReadinessConfig

end Launchpad
