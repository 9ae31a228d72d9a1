import Launchpad.Java
import Launchpad.Session.Basic
import Launchpad.Session.Commands
import Launchpad.Supervisor.Launch
import Launchpad.Supervisor.Readiness
import Launchpad.Supervisor.Sweep
import Launchpad.Supervisor.ToolWait
import Launchpad.Text.Utf8

/-!
# Starting a session

A start checks the configuration, finds java and asks for its version, then launches the components
in launch order, each of them after the one before it is ready. What goes wrong after that is taken
back: every process is ended again, and the session has failed. A start that is told to give up does
not do so itself, it leaves the processes to the stop that told it.
-/

namespace Launchpad

/-- The time that java has to tell its version. -/
def versionCheckLimit : Duration := .ofSecs 30

inductive Start.Stage (σ : Type) where
  | entry
  /-- Java has been asked for its version. -/
  | checkingJava (java : Path) (wait : ToolWait)
  /-- The components on the right are still to be launched. -/
  | launching (java : Path) (left : List Component)
  /-- A component has been launched and is not known to be ready. -/
  | awaiting (java : Path) (left : List Component) (wait : ReadinessWait σ)
  /-- Everything is ready, and the browser is to be opened. -/
  | openingBrowser
  /-- The start has failed and is being taken back. -/
  | rollingBack (error : Error) (sweep : Sweep)

structure Start (σ : Type) where
  config : LaunchConfig
  probes : PerComponent (Probe σ)
  stage : Start.Stage σ := .entry

namespace Start

variable {σ : Type}

abbrev Step (σ : Type) := Progress (Start σ) (Except Error Unit) × Session σ

def goTo (c : Start σ) (stage : Stage σ) (s : Session σ) : Step σ := (.again { c with stage }, s)

/-- Something went wrong: it is taken back, unless a stop has told the start to give up. -/
def fail (c : Start σ) (e : Error) (s : Session σ) : Step σ :=
  if e = .cancelled ∧ s.cancelled then (.done (.error .cancelled), s)
  else c.goTo (.rollingBack e (.start c.config.termination s.supervisor)) s

/-- Leaves the starting phase for another one, if the session is still in it. -/
def leaveStarting (phase : Phase) (s : Session σ) : Session σ :=
  if s.phase = .starting then { s with phase } else s

def askJava (host : Host σ) (c : Start σ) (java : Path) (s : Session σ) : Step σ :=
  let request : Distribution.Request := .version java
  let s := { s with supervisor := s.supervisor.note (.build request) }
  match host.command request s.supervisor.world with
  | .error e => c.fail e s
  | .ok command =>
    match s.withSupervisor (ToolWait.start host command versionCheckLimit) with
    | (.error e, s) => c.fail e s
    | (.ok wait, s) => c.goTo (.checkingJava java wait) s

def findJava (host : Host σ) (c : Start σ) (s : Session σ) : Step σ :=
  match Java.resolve (host.disk s.supervisor.world) c.config.javaHome with
  | .error e => c.fail e s
  | .ok java =>
    if c.config.checkJavaVersion then c.askJava host java s
    else c.goTo (.launching java c.config.components) s

/-- Begins to start. A session that is not idle and a configuration that is not valid are refused
and change nothing. -/
def enter (host : Host σ) (c : Start σ) (s : Session σ) : Step σ :=
  if s.phase ≠ .idle then (.done (.error (.phaseConflict s.phase "start")), s)
  else match c.config.validate with
    | .error fault => (.done (.error (.configuration fault)), s)
    | .ok () =>
      c.findJava host { s with phase := .starting, termination := c.config.termination }

/-- What java said about itself: its answer, or what it wrote beside it in older releases. -/
def javaAnswer (output : Output) : String :=
  String.ofList (Text.decodeLossy output.stdout ++ Text.decodeLossy output.stderr)

def checkJava (c : Start σ) (java : Path) (wait : ToolWait) (s : Session σ) : Step σ :=
  match wait.step s.now with
  | .again wait => c.goTo (.checkingJava java wait) s
  | .done (.error e) => c.fail e s
  | .done (.ok output) =>
    match Java.checkVersion (javaAnswer output) with
    | .error e => c.fail e s
    | .ok _ => c.goTo (.launching java c.config.components) s

def complete (c : Start σ) (s : Session σ) : Step σ :=
  let s := { s with supervisor := s.supervisor.markRunning }
  if s.phase = .starting then
    let s := { s with phase := .running }
    if c.config.browser.opens then c.goTo .openingBrowser s else (.done (.ok ()), s)
  else (.done (.error .cancelled), s)

def gate (c : Start σ) (k : Component) : Gate :=
  ⟨c.config.readiness.timeout k, c.config.readiness.pollInterval⟩

def launch (host : Host σ) (c : Start σ) (java : Path) (k : Component) (left : List Component)
    (s : Session σ) : Step σ :=
  if s.cancelled then c.fail .cancelled s
  else
    let s := { s with supervisor := s.supervisor.note (.build (c.config.request java k)) }
    match c.config.command host java k s.supervisor.world with
    | .error e => c.fail e s
    | .ok command =>
      match s.withSupervisor (Supervisor.launch host k command) with
      | (.error e, s) => c.fail e s
      | (.ok handle, s) =>
        c.goTo (.awaiting java left (.start host handle (c.probes.get k) (c.gate k) s.now)) s

def await (host : Host σ) (c : Start σ) (notice : Bool) (java : Path) (left : List Component)
    (wait : ReadinessWait σ) (s : Session σ) : Step σ :=
  match s.withSupervisor (wait.step host (s.cancelled && notice)) with
  | (.again wait, s) => c.goTo (.awaiting java left wait) s
  | (.done (.ok ()), s) => c.goTo (.launching java left) s
  | (.done (.error e), s) => c.fail e s

/-- Opens the browser. That it cannot be opened is no failure of the start. -/
def openBrowser (host : Host σ) (c : Start σ) (s : Session σ) : Step σ :=
  let browser := c.config.browser
  let url := browser.startupUrl.getD (Distribution.browserUrl browser.protocol browser.port)
  let supervisor := s.supervisor.note (.openUrl url)
  let world := (host.openUrl url supervisor.world).2
  (.done (.ok ()), { s with supervisor := { supervisor with world } })

def rollBack (host : Host σ) (c : Start σ) (e : Error) (sweep : Sweep) (s : Session σ) : Step σ :=
  match s.withSupervisor (sweep.step host) with
  | (.again sweep, s) => c.goTo (.rollingBack e sweep) s
  | (.done _, s) => (.done (.error e), leaveStarting (.failed e.message) s)

/-- Goes on. `notice` tells whether the wait for a component notices that it has been cancelled;
it may do so or not when something else is due as well. -/
def step (host : Host σ) (notice : Bool) (c : Start σ) (s : Session σ) : Step σ :=
  match c.stage with
  | .entry => c.enter host s
  | .checkingJava java wait => c.checkJava java wait s
  | .launching _ [] => c.complete s
  | .launching java (k :: left) => c.launch host java k left s
  | .awaiting java left wait => c.await host notice java left wait s
  | .openingBrowser => c.openBrowser host s
  | .rollingBack e sweep => c.rollBack host e sweep s

/-- When the start can go on. A wait for a component can at once when it is cancelled. -/
def wakeAt (c : Start σ) (cancelled : Bool) : Instant :=
  match c.stage with
  | .checkingJava _ wait => wait.wakeAt
  | .awaiting _ _ wait => if cancelled then 0 else wait.wakeAt
  | .rollingBack _ sweep => sweep.wakeAt
  | _ => 0

end Start

end Launchpad
