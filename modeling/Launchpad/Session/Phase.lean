import Launchpad.Component

/-!
# The phases of a session

A session starts idle. It runs after a start, is degraded once a component has exited, has failed
after a start that was taken back, and ends stopped.
-/

namespace Launchpad

/-- How far a session has come. -/
inductive Phase where
  | idle
  | starting
  | running
  /-- Components have exited while the session was running. -/
  | degraded (exited : List Component)
  | stopping
  | stopped
  | failed (reason : String)
  deriving DecidableEq, Repr, Inhabited

namespace Phase

def isTerminal (p : Phase) : Bool := p == .stopped

def text : Phase → String
  | .idle => "idle"
  | .starting => "starting"
  | .running => "running"
  | .degraded exited =>
    "degraded (" ++ ", ".intercalate (exited.map Component.displayName) ++ " exited)"
  | .stopping => "stopping"
  | .stopped => "stopped"
  | .failed reason => "failed (" ++ reason ++ ")"

end Phase

end Launchpad
