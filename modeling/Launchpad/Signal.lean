/-!
# Signals

What comes of asking a single process to end, or of ending it.
-/

namespace Launchpad

/-- The result of one signal to one process. -/
inductive SignalResult where
  | delivered
  /-- There is no such process, it may have ended already. -/
  | noProcess
  | accessDenied
  | failed (reason : String)
  deriving DecidableEq, Repr, Inhabited

namespace SignalResult

/-- Whether nothing more can be asked of the signal: it arrived, or nobody is left to receive it. -/
def isDeliveredOrGone : SignalResult → Bool
  | .delivered | .noProcess => true
  | .accessDenied | .failed _ => false

def text : SignalResult → String
  | .delivered => "success"
  | .noProcess => "process not found"
  | .accessDenied => "access denied"
  | .failed reason => reason

end SignalResult

end Launchpad
