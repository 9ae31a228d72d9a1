import Launchpad.Pid
import Launchpad.Signal
import Launchpad.Text.Blank
import Launchpad.Text.Lowercase
import Launchpad.Text.Search
import Launchpad.Text.Utf8

/-!
# What a failed `taskkill` means

The command tells why it failed in words only, whose case does not count. Where it tells that only
force can end a process, it is run once more with force.
-/

namespace Launchpad.Taskkill

/-- What a failed run means for the caller. -/
inductive Outcome where
  | done (result : SignalResult)
  /-- The request to close was refused, only force can end the process. -/
  | forceRequired
  deriving DecidableEq, Repr

/-- Reads the words of a failed run, with or without force. -/
def classify (stderr : String) (force : Bool) : Outcome :=
  let words := Text.lower stderr.toList
  if Text.occursIn "not found".toList words then .done .noProcess
  else if Text.occursIn "access is denied".toList words then .done .accessDenied
  else if !force && Text.occursIn "terminated forcefully".toList words then .forceRequired
  else .done (.failed ("taskkill failed: " ++ String.ofList (Text.trim words)))

/-- How a run of the command ends. -/
inductive Run where
  /-- The command could not be started. -/
  | unstarted (reason : String)
  | succeeded
  | failed (stderr : List UInt8)
  deriving DecidableEq, Repr

def arguments (p : Pid) (force : Bool) : List String :=
  ["/PID", p.text] ++ if force then ["/F"] else []

def Run.outcome (force : Bool) : Run → Outcome
  | .unstarted reason => .done (.failed ("taskkill failed to start: " ++ reason))
  | .succeeded => .done .delivered
  | .failed stderr => classify (String.ofList (Text.decodeLossy stderr)) force

/-- Asks a process to close, or ends it with force. A request to close that is refused is followed
by force. -/
def signal {σ : Type} (run : List String → σ → Run × σ) (p : Pid) (force : Bool) (world : σ) :
    SignalResult × σ :=
  let (first, world) := run (arguments p force) world
  match first.outcome force with
  | .done result => (result, world)
  | .forceRequired =>
    let (second, world) := run (arguments p true) world
    match second.outcome true with
    | .done result => (result, world)
    | .forceRequired => (.failed "taskkill /F was refused", world)

end Launchpad.Taskkill
