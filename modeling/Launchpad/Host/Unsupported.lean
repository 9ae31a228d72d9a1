import Launchpad.Host

/-!
# Targets without a host

The host of a target that the launcher was not built for. Every operation is refused by name.
-/

namespace Launchpad.Host

def builderName : Distribution.Request → String
  | .version _ => "version_cmd"
  | .searchEngine .. => "elasticsearch_cmd"
  | .connectors .. => "connectors_cmd"
  | .mainRuntime .. => "camunda_cmd"

variable {σ : Type}

/-- A host that refuses everything; of its machine only the disk counts. A refused signal gives the
reason that `signalReason` has for it. -/
def refusing (disk : σ → Disk) (platform : String) (signalReason : String → String) : Host σ where
  name := platform
  disk
  command r _ := .error (.unsupported platform (builderName r))
  prepare _ _ _ := .error (.unsupported platform "launch")
  spawn _ _ _ world := (.error .notFound, world)
  childState _ _ _ := .exited none
  runTool _ _ world := (.error .notFound, world)
  openUrl _ world := (.error (.unsupported platform "open_browser"), world)
  processTree _ _ _ := .error (.unsupported platform "process_tree")
  groupMembers _ _ _ := .error (.unsupported platform "process_group")
  terminate _ _ world := (.failed (signalReason "terminate"), world)
  kill _ _ world := (.failed (signalReason "kill"), world)
  isAlive _ _ _ := false
  killChild _ _ world := world

def unsupported (disk : σ → Disk) (platform : String) : Host σ :=
  refusing disk platform fun operation => (Error.unsupported platform operation).message

def windowsElsewhere (disk : σ → Disk) : Host σ :=
  refusing disk "windows" fun _ => "platform was not built for windows"

end Launchpad.Host
