import Launchpad.Error
import Launchpad.ProcessTree
import Launchpad.Signal
import Launchpad.Timer

/-!
# Hosts

A host is what the launcher runs on: it builds commands, starts processes, looks at them and signals
them. A `Host σ` gives every operation on a machine in state `σ`. The machine may change by itself
as time passes, so what is asked of it comes with the moment of asking; only starting and signalling
processes, and opening the browser, change its state. Time is kept by the timer of the host.
-/

namespace Launchpad

/-- How a child of the launcher stands. -/
inductive ChildState where
  | running
  /-- It has exited, with a code unless a signal ended it. -/
  | exited (code : Option Int32)
  /-- It cannot be told. -/
  | unknown (reason : String)
  deriving DecidableEq, Repr, Inhabited

/-- What a command that ran to its end leaves. -/
structure Output where
  stdout : List UInt8 := []
  stderr : List UInt8 := []
  code : Int32 := 0
  deriving DecidableEq, Repr, Inhabited

/-- The run of a command: how long it takes, if it ends at all, and what it leaves. -/
structure ToolRun where
  takes : Option Duration := some 0
  output : Output := {}
  deriving DecidableEq, Repr, Inhabited

/-- What a command is started for. -/
inductive Role where
  /-- To be the process of a component. -/
  | component (c : Component)
  /-- To run to its end. -/
  | tool
  deriving DecidableEq, Repr

/-- The operations of a host on a machine whose state is a `σ`. -/
structure Host (σ : Type) where
  name : String
  timer : Timer := .exact
  disk : σ → Disk
  /-- Builds a command. -/
  command : Distribution.Request → σ → Except Error Command
  /-- Adjusts a command before it is started, or refuses to start it. -/
  prepare : Role → Command → σ → Except Error Unit
  /-- Starts the process of a component. -/
  spawn : Instant → Component → Command → σ → Except SystemError Pid × σ
  /-- How a process that was spawned stands. The system does not tell this of a process that is no
  child of the launcher, or was one and has been waited for. -/
  childState : Instant → Pid → σ → ChildState
  /-- Starts a command that runs to its end. -/
  runTool : Instant → Command → σ → Except SystemError ToolRun × σ
  openUrl : String → σ → Except Error Unit × σ
  /-- The process and its descendants. -/
  processTree : Instant → Pid → σ → Except Error ProcessTree
  /-- The other processes in the group of a process. -/
  groupMembers : Instant → Pid → σ → Except Error (List Pid)
  /-- Asks a process to end. -/
  terminate : Instant → Pid → σ → SignalResult × σ
  /-- Ends a process. -/
  kill : Instant → Pid → σ → SignalResult × σ
  /-- Whether a process that need not be a child of the launcher is alive. -/
  isAlive : Instant → Pid → σ → Bool
  /-- Ends a child when the launcher itself goes away. -/
  killChild : Instant → Pid → σ → σ

namespace Host

variable {σ : Type}

def openBrowser (host : Host σ) (protocol : String) (port : UInt16) (world : σ) :
    Except Error Unit × σ :=
  host.openUrl (Distribution.browserUrl protocol port) world

end Host

end Launchpad
