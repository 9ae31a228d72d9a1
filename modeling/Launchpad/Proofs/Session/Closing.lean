import Launchpad.Proofs.Supervisor.Sweep
import Launchpad.Proofs.Supervisor.Waits
import Launchpad.Proofs.Session.Steps

/-!
# Nothing but a stop closes a session

Whether a supervisor refuses launches is up to those who stop its session: every operation leaves it
as it is, and so does every step of a start (`Start.closed_step`).
-/

namespace Launchpad

variable {σ : Type}

namespace Supervisor

variable (host : Host σ) (s : Supervisor σ)

theorem closed_observe (c : Component) : (s.observe host c).2.closed = s.closed :=
  (observe_world host c s).2.2

theorem closed_observeTracked (h : Handle) : (s.observeTracked host h).2.closed = s.closed := by
  unfold observeTracked
  split
  · rfl
  · exact closed_observe host s h.component

theorem closed_setStatus (h : Handle) (status : ProcessStatus) :
    (s.setStatus h status).closed = s.closed := by
  unfold setStatus
  split
  · split <;> rfl
  · rfl

theorem closed_refresh : (s.refresh host).2.closed = s.closed := by
  have h (cs : List Component) (s : Supervisor σ) :
      (cs.foldl (fun s c => (s.observe host c).2) s).closed = s.closed := by
    induction cs generalizing s with
    | nil => rfl
    | cons c cs ih => exact (ih _).trans (closed_observe host s c)
  exact h _ s

theorem closed_startProcess (c : Component) (command : Command) :
    (s.startProcess host c command).2.closed = s.closed := by
  unfold startProcess
  split <;> rfl

theorem closed_launch (c : Component) (command : Command) :
    (s.launch host c command).2.closed = s.closed := by
  unfold launch
  dsimp only
  split
  · rfl
  · split
    · rfl
    · split
      · exact closed_startProcess host _ c command
      · have hobserve := closed_observe host (s.note (.prepare command)) c
        split
        · exact hobserve
        · exact (closed_startProcess host _ c command).trans hobserve

end Supervisor

open Supervisor

theorem ToolWait.closed_start (host : Host σ) (command : Command) (limit : Duration)
    (s : Supervisor σ) : (ToolWait.start host command limit s).2.closed = s.closed := by
  unfold start
  dsimp only
  split
  · rfl
  · split <;> rfl

namespace ReadinessWait

variable (w : ReadinessWait σ) (s : Supervisor σ)

theorem closed_conclude (ready : Bool) : (w.conclude host ready s).2.closed = s.closed := by
  unfold conclude
  split
  · exact closed_setStatus s w.handle .ready
  · split <;> rfl

theorem closed_askProbe : (w.askProbe host s).2.closed = s.closed := by
  unfold askProbe
  dsimp only
  split
  · exact closed_conclude w _ _
  · rfl

theorem closed_attempt (host : Host σ) : (w.attempt host s).2.closed = s.closed := by
  have hobserve := closed_observeTracked host s w.handle
  unfold attempt
  dsimp only
  split
  · split
    · exact (closed_askProbe w _).trans hobserve
    · exact hobserve
  · exact (closed_askProbe w _).trans hobserve

theorem closed_checkDeadline : (w.checkDeadline s).2.closed = s.closed := by
  unfold checkDeadline
  split <;> rfl

theorem closed_step (host : Host σ) (cancelled : Bool) :
    (w.step host cancelled s).2.closed = s.closed := by
  unfold step
  split
  · rfl
  · split
    · exact closed_attempt w s host
    · split
      · exact closed_conclude w s _
      · exact closed_checkDeadline w s
    · split
      · exact closed_attempt w s host
      · exact closed_checkDeadline w s

end ReadinessWait

namespace ExitWait

variable (host : Host σ) (s : Supervisor σ)

theorem closed_survivors (h : Handle) (ps : List Pid) :
    (survivors host h ps s).2.closed = s.closed := by
  induction ps generalizing s with
  | nil => rfl
  | cons p ps ih =>
    have hone : (isMemberAlive host h p s).2.closed = s.closed := by
      unfold isMemberAlive
      split
      · exact closed_observeTracked host s h
      · rfl
    exact (ih _).trans hone

theorem closed_look (w : ExitWait) : (w.look host s).2.closed = s.closed := by
  have hsurvivors := closed_survivors host s w.handle w.pids
  unfold look
  dsimp only
  split <;> exact hsurvivors

theorem closed_step (w : ExitWait) : (w.step host s).2.closed = s.closed := by
  unfold step
  split
  · exact closed_look host s w
  · rfl

end ExitWait

namespace Termination

variable (host : Host σ) (t : Termination) (s : Supervisor σ)

theorem closed_finish (h : Handle) (left : List Pid) : (finish h left s).2.closed = s.closed := by
  unfold finish
  dsimp only
  split
  · split <;> rfl
  · split <;> rfl

theorem closed_resumeGrace (p : Progress ExitWait (List Pid)) :
    (t.resumeGrace p s).2.closed = s.closed := by
  unfold resumeGrace
  split
  · rfl
  · exact closed_finish s t.handle []
  · rfl

theorem closed_resumeForced (p : Progress ExitWait (List Pid)) :
    (t.resumeForced p s).2.closed = s.closed := by
  unfold resumeForced
  split
  · rfl
  · exact closed_finish s t.handle _

theorem closed_members (h : Handle) (rootAlive : Bool) :
    (members host h rootAlive s).2.closed = s.closed := by
  have htree : (treeMembers host h rootAlive s).2.closed = s.closed := by
    unfold treeMembers
    split
    · dsimp only
      split <;> rfl
    · rfl
  have hrest (tree : List Pid) (s : Supervisor σ) :
      (stragglers host h tree s).2.closed = s.closed := by
    unfold stragglers
    dsimp only
    split <;> rfl
  exact (hrest _ _).trans htree

theorem closed_enter : (t.enter host s).2.closed = s.closed := by
  have hobserve := closed_observeTracked host s t.handle
  unfold enter
  split
  · next heq =>
    rw [heq] at hobserve
    exact hobserve
  · next rootAlive s' heq =>
    rw [heq] at hobserve
    have hmembers := (closed_members host s' t.handle rootAlive).trans hobserve
    dsimp only
    split
    · exact (closed_finish _ t.handle []).trans hmembers
    · exact hmembers

theorem closed_step : (t.step host s).2.closed = s.closed := by
  unfold step
  split
  · exact closed_enter host t s
  · rfl
  · exact (closed_resumeGrace t _ _).trans (ExitWait.closed_look host s _)
  · exact (closed_resumeGrace t _ _).trans (ExitWait.closed_step host s _)
  · rfl
  · exact (closed_resumeForced t _ _).trans (ExitWait.closed_look host s _)
  · exact (closed_resumeForced t _ _).trans (ExitWait.closed_step host s _)

end Termination

theorem Sweep.closed_step (host : Host σ) (w : Sweep) (s : Supervisor σ) :
    (w.step host s).2.closed = s.closed := by
  unfold step
  split
  · exact Termination.closed_step host _ s
  · split <;> rfl

namespace Start

variable {host : Host σ} (c : Start σ) (s : Session σ)

theorem closed_fail (e : Error) :
    (c.fail e s).2.supervisor.closed = s.supervisor.closed := by
  rw [(fail_eq c e s).1]

theorem closed_askJava (java : Path) :
    (c.askJava host java s).2.supervisor.closed = s.supervisor.closed := by
  unfold askJava Session.withSupervisor
  dsimp only
  split
  · exact closed_fail c _ _
  · next command _ =>
    have hclosed := ToolWait.closed_start host command versionCheckLimit
      (s.supervisor.note (.build (.version java)))
    cases hstart : ToolWait.start host command versionCheckLimit
        (s.supervisor.note (.build (.version java))) with
    | mk r supervisor =>
      rw [hstart] at hclosed
      cases r with
      | error e => exact (closed_fail c _ e).trans hclosed
      | ok wait => exact hclosed

theorem closed_enter : (c.enter host s).2.supervisor.closed = s.supervisor.closed := by
  unfold enter
  split
  · rfl
  · split
    · rfl
    · unfold findJava
      split
      · exact closed_fail c _ _
      · split
        · exact closed_askJava c _ _
        · rfl

theorem closed_checkJava (java : Path) (wait : ToolWait) :
    (c.checkJava java wait s).2.supervisor.closed = s.supervisor.closed := by
  unfold checkJava
  split
  · rfl
  · exact closed_fail c s _
  · split
    · exact closed_fail c s _
    · rfl

theorem closed_complete : (c.complete s).2.supervisor.closed = s.supervisor.closed := by
  unfold complete
  dsimp only
  split
  · split <;> rfl
  · rfl

theorem closed_launch (java : Path) (k : Component) (left : List Component) :
    (c.launch host java k left s).2.supervisor.closed = s.supervisor.closed := by
  unfold launch
  split
  · exact closed_fail c s _
  · dsimp only
    split
    · exact closed_fail c _ _
    · next command _ =>
      unfold Session.withSupervisor
      have hclosed := Supervisor.closed_launch host
        (s.supervisor.note (.build (c.config.request java k))) k command
      cases hlaunch : Supervisor.launch host k command
          (s.supervisor.note (.build (c.config.request java k))) with
      | mk r supervisor =>
        rw [hlaunch] at hclosed
        cases r with
        | error e => exact (closed_fail c _ e).trans hclosed
        | ok handle => exact hclosed

theorem closed_await (notice : Bool) (java : Path) (left : List Component)
    (wait : ReadinessWait σ) :
    (c.await host notice java left wait s).2.supervisor.closed = s.supervisor.closed := by
  have hclosed := wait.closed_step s.supervisor host (s.cancelled && notice)
  unfold await Session.withSupervisor
  cases hstep : wait.step host (s.cancelled && notice) s.supervisor with
  | mk p supervisor =>
    rw [hstep] at hclosed
    match p with
    | .again wait => exact hclosed
    | .done (.ok ()) => exact hclosed
    | .done (.error e) => exact (closed_fail c _ e).trans hclosed

theorem closed_rollBack (e : Error) (w : Sweep) :
    (c.rollBack host e w s).2.supervisor.closed = s.supervisor.closed := by
  have hclosed := w.closed_step host s.supervisor
  unfold rollBack Session.withSupervisor
  cases hstep : w.step host s.supervisor with
  | mk p supervisor =>
    rw [hstep] at hclosed
    cases p with
    | again w => exact hclosed
    | done r =>
      unfold leaveStarting
      dsimp only
      split <;> exact hclosed

theorem closed_step (host : Host σ) (notice : Bool) :
    (c.step host notice s).2.supervisor.closed = s.supervisor.closed := by
  unfold step
  split
  · exact closed_enter c s
  · exact closed_checkJava c s _ _
  · exact closed_complete c s
  · exact closed_launch c s _ _ _
  · exact closed_await c s notice _ _ _
  · rfl
  · exact closed_rollBack c s _ _

end Start

end Launchpad
