import Launchpad.Config.Fault
import Launchpad.Distribution
import Launchpad.Duration
import Launchpad.Pid
import Launchpad.Session.Phase

/-!
# Errors

Every operation fails with one of the causes of `Error`. A cause determines the message, the exit
code of the program and whether trying again can help.
-/

namespace Launchpad

/-- A failure of the operating system. -/
inductive SystemError where
  | notFound
  | accessDenied
  /-- The file is no program. -/
  | notExecutable
  /-- A path leads through a file. -/
  | notDirectory
  /-- Too many scripts stand one behind the other. -/
  | tooManyLevels
  /-- A text has a NUL and cannot be passed to a program. -/
  | nulInText
  /-- A text is too long to be passed to a program. -/
  | argumentTooLong
  /-- Another failure, in words. -/
  | described (text : String)
  deriving DecidableEq, Repr

def SystemError.message : SystemError → String
  | .notFound => "No such file or directory (os error 2)"
  | .accessDenied => "Permission denied (os error 13)"
  | .notExecutable => "Exec format error (os error 8)"
  | .notDirectory => "Not a directory (os error 20)"
  | .tooManyLevels => "Too many levels of symbolic links (os error 40)"
  | .nulInText => "nul byte found in provided data"
  | .argumentTooLong => "Argument list too long (os error 7)"
  | .described text => text

/-! ## Processes that would not end -/

/-- A process that survived every attempt to end it. -/
structure TerminationFailure where
  component : Component
  pid : Pid
  reason : String
  deriving DecidableEq, Repr

namespace TerminationFailure

def message (f : TerminationFailure) : String :=
  f.component.displayName ++ " (PID " ++ f.pid.text ++ "): " ++ f.reason

def summary (failures : List TerminationFailure) : String :=
  let head := "Failed to terminate " ++ toString failures.length ++ " process(es)"
  if failures.isEmpty then head else head ++ ": " ++ "; ".intercalate (failures.map message)

/-- Leaves out components that repeat the one before them. -/
def withoutRepeats : List Component → List Component
  | c :: d :: rest =>
    if c = d then withoutRepeats (d :: rest) else c :: withoutRepeats (d :: rest)
  | short => short

/-- The components of the failures in their order, neighbours that are equal taken together. -/
def components (failures : List TerminationFailure) : List Component :=
  withoutRepeats (failures.map (·.component))

/-- A pass succeeded when nothing is left. -/
def toResult (failures : List TerminationFailure) : Except (List TerminationFailure) Unit :=
  if failures.isEmpty then .ok () else .error failures

end TerminationFailure

/-! ## Commands that did not run to their end -/

/-- Why a command that should run to its end did not. -/
inductive RunFault where
  | unfinished (line : String) (limit : Duration)
  | notRun (line : String) (cause : SystemError)
  /-- Another reason in words, with the reasons behind it, nearest first. -/
  | described (text : String) (behind : List String)
  deriving DecidableEq, Repr

namespace RunFault

def message : RunFault → String
  | .unfinished line limit => line ++ " did not finish within " ++ limit.text
  | .notRun line _ => "Failed to run " ++ line
  | .described text _ => text

/-- The reasons behind the reason, nearest first. -/
def behind : RunFault → List String
  | .unfinished _ _ => []
  | .notRun _ cause => [cause.message]
  | .described _ behind => behind

end RunFault

/-! ## All causes -/

/-- Why an operation of the launcher failed. -/
inductive Error where
  /-- The host was not built for the target and cannot do it. -/
  | unsupported (platform operation : String)
  | invalidCommand (fault : CommandFault)
  | launch (component : Component) (program : Path) (cause : SystemError)
  /-- The component did not become ready in time. -/
  | notReady (component : Component) (limit : Duration)
  /-- The component exited before it became ready. -/
  | exitedEarly (component : Component) (status : String)
  | termination (failures : List TerminationFailure)
  | browser (url reason : String)
  /-- The session is in a phase that does not allow it. -/
  | phaseConflict (phase : Phase) (operation : String)
  | alreadyRunning (component : Component) (pid : Pid)
  | oldJava (found required : Nat)
  | configuration (fault : ConfigFault)
  | cancelled
  | run (fault : RunFault)
  deriving DecidableEq, Repr

namespace Error

def message : Error → String
  | .unsupported platform operation =>
    operation ++ " is not supported: platform was not built for " ++ platform
  | .invalidCommand fault => "Invalid command: " ++ fault.message
  | .launch component program cause =>
    "Failed to launch " ++ component.displayName ++ " (" ++ program.text ++ "): " ++ cause.message
  | .notReady component limit =>
    component.displayName ++ " did not become ready within " ++ limit.text
  | .exitedEarly component status =>
    component.displayName ++ " exited before becoming ready (" ++ status ++ ")"
  | .termination failures => TerminationFailure.summary failures
  | .browser url reason => "Failed to open browser at " ++ url ++ ": " ++ reason
  | .phaseConflict phase operation =>
    "Cannot " ++ operation ++ " while the launcher is " ++ phase.text
  | .alreadyRunning component pid =>
    component.displayName ++ " is already running (PID " ++ pid.text ++ ")"
  | .oldJava found required =>
    "Java " ++ toString found ++ " is not supported, Java " ++ toString required ++
      " or newer is required"
  | .configuration fault => "Configuration error: " ++ fault.message
  | .cancelled => "Operation cancelled"
  | .run fault => "Other error: " ++ fault.message

def isRetryable : Error → Bool
  | .notReady .. | .exitedEarly .. | .browser .. => true
  | _ => false

def isPermanent : Error → Bool
  | .unsupported .. | .invalidCommand _ | .oldJava .. | .configuration _ => true
  | _ => false

def exitCode : Error → Nat
  | .configuration _ | .invalidCommand _ => 2
  | .unsupported .. | .oldJava .. => 3
  | .launch .. | .exitedEarly .. => 4
  | .notReady .. => 5
  | .termination _ => 6
  | .phaseConflict .. | .alreadyRunning .. => 7
  | .cancelled => 130
  | .browser .. | .run _ => 1

/-- The errors behind the error, nearest first, in words. -/
def sources : Error → List String
  | .launch _ _ cause => [cause.message]
  | .run fault => fault.message :: fault.behind
  | _ => []

end Error

end Launchpad
