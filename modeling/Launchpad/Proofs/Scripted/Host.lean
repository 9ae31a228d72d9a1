import Launchpad.Config.Launch
import Launchpad.FileTree
import Launchpad.Proofs.Host.Promises

/-!
# The plain host

The plain host, on which the runs of the other modules are played through, is the scripted one with
one command for everything. It keeps the promises that the scripted host keeps.
-/

namespace Launchpad.Scripted

/-- The scripted host with one command for everything. -/
def plainHost : Host World := { host with command := fun _ _ => .ok { program := ⟨"run"⟩ } }

theorem treesHoldRoots_plain : plainHost.TreesHoldRoots := treesHoldRoots

theorem tellsChildren_plain : plainHost.TellsChildren := tellsChildren

theorem keepsErrors_plain : plainHost.KeepsErrors := by
  rintro e (⟨_, _, h⟩ | ⟨_, _, _, h⟩)
  · cases h
  · exact not_own_of_prepare h

/-- A machine with java on which the processes behave as they are planned to. -/
def machine (plans : PerComponent Plan) : World where
  disk := { files := (FileTree.addAll {} [] [] [(⟨"java"⟩, .native)]).files }
  script := { plans }

/-- A process that ignores every signal and whose tree cannot be told. -/
def stubborn : Plan where
  terminate := { endsAfter := none }
  kill := { endsAfter := none }
  treeFails := true

/-- A process that ends as soon as it is asked to and whose tree cannot be told. -/
def docile : Plan where
  treeFails := true

/-- A configuration with which a process gets no time to end before it is killed. -/
def hasty : LaunchConfig where
  camundaVersion := "8"
  elasticsearchVersion := "8"
  parentDir := ⟨"c8"⟩
  checkJavaVersion := false
  termination := { gracePeriodMs := 0, forceWaitMs := 1 }

end Launchpad.Scripted
