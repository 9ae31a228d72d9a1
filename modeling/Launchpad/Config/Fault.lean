import Launchpad.Component
import Launchpad.Path
import Launchpad.Text.Quoted

/-!
# What can be wrong with a configuration
-/

namespace Launchpad

/-- Why a configuration, or what it refers to, cannot be used. -/
inductive ConfigFault where
  | blankVersion (product : String)
  | badProtocol (given : String)
  | zeroPort
  | zeroPollInterval
  /-- The readiness timeout of a component is zero. -/
  | zeroTimeout (component : Component)
  | longGracePeriod
  | zeroForceWait
  /-- The java home that is set holds no java binary. -/
  | noJavaInHome (home binary : Path)
  | noJavaOnPath
  /-- The first line of what java answered tells no version. -/
  | unknownJavaVersion (line : String)
  | unknownLogFormat (name : String)
  | badLogLevel (level reason : String)
  | loggingActive
  /-- Another reason, in words. -/
  | described (text : String)
  deriving DecidableEq, Repr

def ConfigFault.message : ConfigFault → String
  | .blankVersion product => product ++ " version must not be empty"
  | .badProtocol given => "protocol must be http or https, got " ++ Text.quote given
  | .zeroPort => "port must be greater than 0"
  | .zeroPollInterval => "poll_interval_ms must be greater than 0"
  | .zeroTimeout component => component.displayName ++ "_timeout_secs must be greater than 0"
  | .longGracePeriod => "grace_period_ms should not exceed 120 seconds"
  | .zeroForceWait => "force_wait_ms must be greater than 0"
  | .noJavaInHome home binary =>
    "JAVA_HOME is set to " ++ home.text ++ " but " ++ binary.text ++ " does not exist"
  | .noJavaOnPath =>
    "java was not found on PATH and JAVA_HOME is not set: cannot find binary path"
  | .unknownJavaVersion line => "could not determine java version from " ++ Text.quote line
  | .unknownLogFormat name =>
    "unknown log format '" ++ name ++ "', expected 'pretty' or 'json'"
  | .badLogLevel level reason => "invalid log level '" ++ level ++ "': " ++ reason
  | .loggingActive =>
    "logging already initialized: a global default trace dispatcher has already been set"
  | .described text => text

end Launchpad
