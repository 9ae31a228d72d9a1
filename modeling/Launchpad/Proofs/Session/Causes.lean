import Launchpad.Proofs.Host.Promises
import Launchpad.Session.Start

/-!
# Where the errors of a start come from

Two kinds of error are the session's own: a cancellation, and a conflict of phases. On a host that
keeps its errors from being taken for one of them, a start that fails with one has been refused or
told to give up (`Start.cause_step`).
-/

namespace Launchpad

variable {σ : Type} {host : Host σ} {e : Error}

/-- If an error is a session's own, then it is a cancellation, and there was a reason for one. -/
def Error.ExcusedBy (told : Prop) (e : Error) : Prop := e.IsOwn → e = .cancelled ∧ told

section Excused

variable {told told' : Prop}

theorem Error.excused_of_not_own (h : ¬ e.IsOwn) : e.ExcusedBy told := fun hown => absurd hown h

theorem Error.excused_cancelled (h : told) : Error.cancelled.ExcusedBy told := fun _ => ⟨rfl, h⟩

theorem Error.ExcusedBy.mono (h : e.ExcusedBy told) (hsub : told → told') : e.ExcusedBy told' :=
  fun hown => (h hown).imp_right hsub

theorem Error.ExcusedBy.not_own (h : e.ExcusedBy False) : ¬ e.IsOwn := fun hown => (h hown).2

/-- What a host gives is nothing of the session's own. -/
theorem Host.KeepsErrors.excused (hhost : host.KeepsErrors) (h : host.Gives e) :
    e.ExcusedBy told := Error.excused_of_not_own (hhost e h)

end Excused

/-! ## What the operations of a start fail with -/

theorem Java.not_own_of_resolve {disk : Disk} {home? : Option Path}
    (h : Java.resolve disk home? = .error e) : ¬ e.IsOwn := by
  unfold resolve at h
  split at h
  · dsimp only at h
    split at h
    · cases h
    · cases h
      exact id
  · split at h
    · cases h
    · cases h
      exact id

theorem Java.not_own_of_checkVersion {answer : String}
    (h : Java.checkVersion answer = .error e) : ¬ e.IsOwn := by
  unfold checkVersion at h
  split at h
  · cases h
    exact id
  · split at h
    · cases h
      exact id
    · cases h

theorem ToolWait.not_own_of_start (hhost : host.KeepsErrors) {command : Command}
    {limit : Duration} {s s' : Supervisor σ}
    (h : ToolWait.start host command limit s = (.error e, s')) : ¬ e.IsOwn := by
  unfold start at h
  dsimp only at h
  split at h
  · next hprepare =>
    cases h
    exact hhost e (.inr ⟨_, _, _, hprepare⟩)
  · split at h
    · cases h
      exact id
    · cases h

theorem ToolWait.not_own_of_step {w : ToolWait} {now : Instant}
    (h : w.step now = .done (.error e)) : ¬ e.IsOwn := by
  unfold step at h
  split at h
  · cases h
  · split at h
    · cases h
      exact id
    · cases h

theorem LaunchConfig.gives_of_command {config : LaunchConfig} {java : Path} {k : Component}
    {world : σ} (h : config.command host java k world = .error e) : host.Gives e := by
  unfold command at h
  cases hcommand : host.command (config.request java k) world with
  | ok command =>
    rw [hcommand] at h
    cases h
  | error e' =>
    rw [hcommand] at h
    cases h
    exact .inl ⟨_, _, hcommand⟩

namespace Supervisor

variable {c : Component} {command : Command} {s s' : Supervisor σ}

theorem not_own_of_startProcess (h : s.startProcess host c command = (.error e, s')) :
    ¬ e.IsOwn := by
  unfold startProcess at h
  split at h
  · cases h
    exact id
  · cases h

theorem excused_launch (hhost : host.KeepsErrors) (h : s.launch host c command = (.error e, s')) :
    e.ExcusedBy (s.closed = true) := by
  unfold launch at h
  dsimp only at h
  split at h
  · next hprepare =>
    cases h
    exact hhost.excused (.inr ⟨_, _, _, hprepare⟩)
  · split at h
    · next hclosed =>
      cases h
      exact Error.excused_cancelled hclosed
    · split at h
      · exact Error.excused_of_not_own (not_own_of_startProcess h)
      · split at h
        · cases h
          exact Error.excused_of_not_own id
        · exact Error.excused_of_not_own (not_own_of_startProcess h)

end Supervisor

namespace ReadinessWait

variable {w : ReadinessWait σ} {s s' : Supervisor σ}

theorem not_own_of_conclude {ready : Bool} (h : w.conclude host ready s = (.done (.error e), s')) :
    ¬ e.IsOwn := by
  unfold conclude at h
  split at h
  · cases h
  · split at h
    · cases h
      exact id
    · cases h

theorem not_own_of_askProbe (h : w.askProbe host s = (.done (.error e), s')) : ¬ e.IsOwn := by
  unfold askProbe at h
  dsimp only at h
  split at h
  · exact not_own_of_conclude h
  · cases h

theorem not_own_of_attempt (h : w.attempt host s = (.done (.error e), s')) : ¬ e.IsOwn := by
  unfold attempt at h
  dsimp only at h
  split at h
  · split at h
    · exact not_own_of_askProbe h
    · cases h
      exact id
  · exact not_own_of_askProbe h

theorem not_own_of_checkDeadline (h : w.checkDeadline s = (.done (.error e), s')) :
    ¬ e.IsOwn := by
  unfold checkDeadline at h
  split at h
  · cases h
    exact id
  · cases h

theorem excused_step {cancelled : Bool} (h : w.step host cancelled s = (.done (.error e), s')) :
    e.ExcusedBy (cancelled = true) := by
  unfold step at h
  split at h
  · next hcancelled =>
    cases h
    exact Error.excused_cancelled hcancelled
  · refine Error.excused_of_not_own ?_
    split at h
    · exact not_own_of_attempt h
    · split at h
      · exact not_own_of_conclude h
      · exact not_own_of_checkDeadline h
    · split at h
      · exact not_own_of_attempt h
      · exact not_own_of_checkDeadline h

end ReadinessWait

/-! ## What a start fails with -/

namespace Start

variable {c : Start σ} {s : Session σ} {notice : Bool}

/-- The error of a start that has failed, be it that it is still being taken back. -/
def error? : Progress (Start σ) (Except Error Unit) → Option Error
  | .done (.error e) => some e
  | .again { stage := .rollingBack e _, .. } => some e
  | _ => none

theorem error?_fail (c : Start σ) (e : Error) (s : Session σ) : error? (c.fail e s).1 = some e := by
  unfold fail
  split
  · next h =>
    rw [h.1]
    rfl
  · rfl

theorem not_own_of_askJava (hhost : host.KeepsErrors) {java : Path}
    (h : error? (c.askJava host java s).1 = some e) : ¬ e.IsOwn := by
  unfold askJava Session.withSupervisor at h
  dsimp only at h
  split at h
  · next hcommand =>
    cases (error?_fail ..).symm.trans h
    exact hhost e (.inl ⟨_, _, hcommand⟩)
  · next command _ =>
    cases hstart : ToolWait.start host command versionCheckLimit
        (s.supervisor.note (.build (.version java))) with
    | mk r supervisor =>
      rw [hstart] at h
      cases r with
      | error e' =>
        cases (error?_fail ..).symm.trans h
        exact ToolWait.not_own_of_start hhost hstart
      | ok wait => cases h

theorem not_own_of_findJava (hhost : host.KeepsErrors)
    (h : error? (c.findJava host s).1 = some e) : ¬ e.IsOwn := by
  unfold findJava at h
  split at h
  · next hresolve =>
    cases (error?_fail ..).symm.trans h
    exact Java.not_own_of_resolve hresolve
  · split at h
    · exact not_own_of_askJava hhost h
    · cases h

theorem not_own_of_enter (hhost : host.KeepsErrors) (h : error? (c.enter host s).1 = some e) :
    s.phase ≠ .idle ∨ ¬ e.IsOwn := by
  unfold enter at h
  split at h
  · next hphase => exact .inl hphase
  · refine .inr ?_
    split at h
    · cases h
      exact id
    · exact not_own_of_findJava hhost h

theorem not_own_of_checkJava {java : Path} {wait : ToolWait}
    (h : error? (c.checkJava java wait s).1 = some e) : ¬ e.IsOwn := by
  unfold checkJava at h
  split at h
  · cases h
  · next hstep =>
    cases (error?_fail ..).symm.trans h
    exact ToolWait.not_own_of_step hstep
  · split at h
    · next hversion =>
      cases (error?_fail ..).symm.trans h
      exact Java.not_own_of_checkVersion hversion
    · cases h

theorem excused_complete (h : error? (c.complete s).1 = some e) :
    e.ExcusedBy (s.phase ≠ .starting) := by
  unfold complete at h
  dsimp only at h
  split at h
  · split at h <;> cases h
  · next hphase =>
    cases h
    exact Error.excused_cancelled hphase

theorem excused_launch (hhost : host.KeepsErrors) {java : Path} {k : Component}
    {left : List Component}
    (h : error? (c.launch host java k left s).1 = some e) :
    e.ExcusedBy (s.cancelled = true ∨ s.supervisor.closed = true) := by
  unfold launch at h
  split at h
  · next hcancelled =>
    cases (error?_fail ..).symm.trans h
    exact Error.excused_cancelled (.inl hcancelled)
  · dsimp only at h
    split at h
    · next hcommand =>
      cases (error?_fail ..).symm.trans h
      exact hhost.excused (LaunchConfig.gives_of_command hcommand)
    · next command _ =>
      unfold Session.withSupervisor at h
      dsimp only at h
      cases hlaunch : Supervisor.launch host k command
          (s.supervisor.note (.build (c.config.request java k))) with
      | mk r supervisor =>
        rw [hlaunch] at h
        cases r with
        | error e' =>
          cases (error?_fail ..).symm.trans h
          exact (Supervisor.excused_launch hhost hlaunch).mono .inr
        | ok handle => cases h

theorem excused_await {java : Path} {left : List Component} {wait : ReadinessWait σ}
    (h : error? (c.await host notice java left wait s).1 = some e) :
    e.ExcusedBy (s.cancelled = true) := by
  unfold await Session.withSupervisor at h
  dsimp only at h
  cases hstep : wait.step host (s.cancelled && notice) s.supervisor with
  | mk p supervisor =>
    rw [hstep] at h
    match p with
    | .again wait' => cases h
    | .done (.ok ()) => cases h
    | .done (.error e') =>
      cases (error?_fail ..).symm.trans h
      exact (ReadinessWait.excused_step hstep).mono fun hand => (Bool.and_eq_true_iff.mp hand).1

theorem error_rollBack {e' : Error} {w : Sweep} (h : error? (c.rollBack host e' w s).1 = some e) :
    e' = e := by
  unfold rollBack Session.withSupervisor at h
  dsimp only at h
  split at h <;> exact Option.some.inj h

/-- A session that gives a start reason to give up. -/
def Told (c : Start σ) (s : Session σ) : Prop :=
  s.cancelled = true ∨ s.supervisor.closed = true ∨
    (∃ java, c.stage = .launching java []) ∧ s.phase ≠ .starting

/-- A start fails for a cause of its own only if it is refused or told to give up. -/
theorem cause_step (hhost : host.KeepsErrors) (h : error? (c.step host notice s).1 = some e) :
    (c.stage = .entry ∧ s.phase ≠ .idle) ∨ (∃ w, c.stage = .rollingBack e w) ∨
      e.ExcusedBy (c.Told s) := by
  unfold step at h
  split at h
  · next hstage =>
    rcases not_own_of_enter hhost h with hphase | hforeign
    · exact .inl ⟨hstage, hphase⟩
    · exact .inr (.inr (Error.excused_of_not_own hforeign))
  · exact .inr (.inr (Error.excused_of_not_own (not_own_of_checkJava h)))
  · next java hstage =>
    refine .inr (.inr ((excused_complete h).mono fun hphase => ?_))
    exact .inr (.inr ⟨⟨java, hstage⟩, hphase⟩)
  · exact .inr (.inr ((excused_launch hhost h).mono fun htold => htold.imp_right .inl))
  · exact .inr (.inr ((excused_await h).mono .inl))
  · cases h
  · next w hstage => exact .inr (.inl ⟨w, error_rollBack h ▸ hstage⟩)

end Start

end Launchpad
