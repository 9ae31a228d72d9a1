import Launchpad.Config.Launch
import Launchpad.Host

/-!
# The commands of a session

What a configuration asks of the host for each component, and what is added to the command that the
host builds.
-/

namespace Launchpad.LaunchConfig

/-- The caller's arguments for the main runtime, after the configuration that is set for it. -/
def mainRuntimeArgs (config : LaunchConfig) : List String :=
  (config.camundaConfig.map fun location =>
    Distribution.configLocation (config.parentDir / location).text).toList ++ config.extraArgs

def request (config : LaunchConfig) (java : Path) : Component → Distribution.Request
  | .searchEngine => .searchEngine config.elasticsearchVersion config.parentDir
  | .connectorRuntime => .connectors java config.parentDir config.camundaVersion
  | .mainRuntime =>
    .mainRuntime config.camundaVersion config.parentDir config.mainRuntimeArgs config.javaOpts

/-- The start scripts are told the java home; the connectors are started with java itself. -/
def withJavaHome (config : LaunchConfig) (c : Component) (command : Command) : Command :=
  match config.javaHome, c with
  | some home, .searchEngine => command.withVariable "JAVA_HOME" home.text
  | some home, .mainRuntime => command.withVariable "JAVA_HOME" home.text
  | _, _ => command

def command {σ : Type} (config : LaunchConfig) (host : Host σ) (java : Path) (c : Component)
    (world : σ) : Except Error Command :=
  (host.command (config.request java c) world).map (config.withJavaHome c)

end Launchpad.LaunchConfig
