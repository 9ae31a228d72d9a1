import Launchpad.Duration
import Launchpad.Json.Read
import Launchpad.Pid
import Launchpad.Session.Phase

/-!
# The status of processes and sessions

What is known of a managed process, its record at one moment, and the report of a whole session,
with their forms in JSON.
-/

namespace Launchpad

/-- The last known status of a managed process. -/
inductive ProcessStatus where
  /-- Spawned, not yet known to be ready. -/
  | starting
  | ready
  /-- Part of a deployment that has been started. -/
  | running
  /-- Exited, with a code unless a signal ended it. -/
  | exited (code : Option Int32)
  /-- Could not be supervised or ended. -/
  | failed (reason : String)
  deriving DecidableEq, Repr, Inhabited

namespace ProcessStatus

/-- Whether the process is believed to be alive. -/
def isLive : ProcessStatus → Bool
  | .starting | .ready | .running => true
  | .exited _ | .failed _ => false

def text : ProcessStatus → String
  | .starting => "starting"
  | .ready => "ready"
  | .running => "running"
  | .exited (some code) => "exited with code " ++ toString code.toInt
  | .exited none => "exited by signal"
  | .failed reason => "failed: " ++ reason

def fields : ProcessStatus → List (String × Json)
  | .starting => [("status", .text "starting")]
  | .ready => [("status", .text "ready")]
  | .running => [("status", .text "running")]
  | .exited code =>
    [("status", .text "exited"),
      ("code", match code with | some c => .int c.toInt | none => .null)]
  | .failed reason => [("status", .text "failed"), ("reason", .text reason)]

def toJson (s : ProcessStatus) : Json := .object s.fields

/-! ## Reading a status -/

/-- The kinds of status, without their data. -/
inductive Tag where
  | starting
  | ready
  | running
  | exited
  | failed
  deriving DecidableEq, Repr

def tags : List (String × Tag) :=
  [("starting", .starting), ("ready", .ready), ("running", .running), ("exited", .exited),
    ("failed", .failed)]

def readTag : Json.Reader Tag
  | .text name =>
    match tags.lookup name with
    | some tag => .ok tag
    | none => .error (.unknownVariant name (tags.map (·.1)))
  | j => .error (.wrongType j "variant identifier")

def readCode : Json.Reader ProcessStatus := fun j =>
  (Json.readOption Json.readInt32 j).map .exited

def readReason : Json.Reader ProcessStatus := fun j => (Json.readText j).map .failed

def ofFields (fields : List (String × Json)) : Tag → Except Json.Fault ProcessStatus
  | .starting => .ok .starting
  | .ready => .ok .ready
  | .running => .ok .running
  | .exited => readCode ((fields.lookup "code").getD .null)
  | .failed =>
    match fields.lookup "reason" with
    | some j => readReason j
    | none => .error (.missing "reason")

def ofNoItems (items : List Json) (status : ProcessStatus) : Except Json.Fault ProcessStatus :=
  if items.isEmpty then .ok status
  else .error (.wrongLength items.length "0 elements in sequence")

def ofOneItem (items : List Json) (variant : String) (r : Json.Reader ProcessStatus) :
    Except Json.Fault ProcessStatus :=
  match items with
  | [] =>
    .error (.wrongLength 0 ("struct variant ProcessStatus::" ++ variant ++ " with 1 element"))
  | item :: more => do
    let status ← r item
    if !more.isEmpty then throw (.wrongLength items.length "1 element in sequence")
    return status

def ofItems (items : List Json) : Tag → Except Json.Fault ProcessStatus
  | .starting => ofNoItems items .starting
  | .ready => ofNoItems items .ready
  | .running => ofNoItems items .running
  | .exited => ofOneItem items "Exited" readCode
  | .failed => ofOneItem items "Failed" readReason

/-- Reads a status, from an object with its kind under `status` or from a list that starts with
its kind. -/
def read : Json.Reader ProcessStatus
  | .object fields => do
    match fields.lookup "status" with
    | none => throw (.missing "status")
    | some tag => ofFields fields (← readTag tag)
  | .list [] => .error (.missing "status")
  | .list (tag :: items) => do ofItems items (← readTag tag)
  | j => .error (.wrongType j "internally tagged enum ProcessStatus")

end ProcessStatus

/-! ## Single components -/

/-- A managed process at one moment. -/
structure ComponentStatus where
  component : Component
  pid : Pid
  status : ProcessStatus
  startedAt : Timestamp
  deriving DecidableEq, Repr, Inhabited

def Timestamp.toJson (t : Timestamp) : Json :=
  .object [("secs_since_epoch", .nat t.secs), ("nanos_since_epoch", .nat t.nanos)]

/-- The status of a component in JSON, the fields of its status among its own. -/
def ComponentStatus.toJson (c : ComponentStatus) : Json :=
  .object ([("kind", .text c.component.key), ("pid", .nat c.pid.toNat)] ++ c.status.fields ++
    [("startedAt", c.startedAt.toJson)])

def Component.readKey : Json.Reader Component :=
  Json.readVariant (Component.launchOrder.map fun c => (c.key, c))

def Pid.read : Json.Reader Pid := fun j => (Json.readUInt32 j).map Pid.mk

def Component.listToJson (cs : List Component) : Json := Json.texts (cs.map Component.key)

/-! ## Sessions -/

namespace Phase

def fields : Phase → List (String × Json)
  | .degraded exited =>
    [("state", .text "degraded"), ("exited", Component.listToJson exited)]
  | .failed reason => [("state", .text "failed"), ("reason", .text reason)]
  | p => [("state", .text p.text)]

def toJson (p : Phase) : Json := .object p.fields

end Phase

/-- The state of a session at one moment. -/
structure Report where
  phase : Phase
  components : List ComponentStatus
  deriving DecidableEq, Repr, Inhabited

namespace Report

def component? (r : Report) (c : Component) : Option ComponentStatus :=
  r.components.find? (·.component == c)

def toJson (r : Report) : Json :=
  .object (r.phase.fields ++ [("components", .list (r.components.map ComponentStatus.toJson))])

end Report

end Launchpad
