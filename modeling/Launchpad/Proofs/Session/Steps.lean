import Launchpad.Proofs.Supervisor.Sweep
import Launchpad.Proofs.Supervisor.Waits
import Launchpad.Session.Start
import Launchpad.Session.Stop

/-!
# What a step of a call can do

`Start.Does` and `Stop.Does` list all that a step of a start or a stop can do to its session, with
the conditions under which it does so. Whatever is proved of all runs of a session is proved of the
cases of these two, and the steps themselves are not opened again.
-/

namespace Launchpad

open Supervisor

variable {σ : Type} {host : Host σ}

namespace Session

/-- Nothing is started or let go, and the phase stays. -/
structure Quiet (s s' : Session σ) : Prop extends Steady s.supervisor s'.supervisor where
  phase : s'.phase = s.phase
  cancelled : s'.cancelled = s.cancelled

theorem Quiet.refl (s : Session σ) : Quiet s s := ⟨.refl s.supervisor, rfl, rfl⟩

theorem Quiet.of_steady {supervisor : Supervisor σ} {s : Session σ}
    (h : Steady s.supervisor supervisor) : Quiet s { s with supervisor } := ⟨h, rfl, rfl⟩

theorem Quiet.trans {s s' s'' : Session σ} (h₁ : Quiet s s') (h₂ : Quiet s' s'') : Quiet s s'' :=
  ⟨h₁.toSteady.trans h₂.toSteady, h₂.phase.trans h₁.phase, h₂.cancelled.trans h₁.cancelled⟩

theorem quiet_note {call : HostCall} (hc : call.root? = none) (s : Session σ) :
    Quiet s { s with supervisor := s.supervisor.note call } :=
  .of_steady (steady_note hc s.supervisor)

end Session

namespace Start

variable {c : Start σ} {s s' : Session σ}

/-- The session that a start finds once it has been let in. -/
def letIn (c : Start σ) (s : Session σ) : Session σ :=
  { s with phase := .starting, termination := c.config.termination }

/-- The stages in which a start can fail and has to be taken back. -/
def Stage.Works : Stage σ → Prop
  | .checkingJava _ _ => True
  | .launching _ (_ :: _) => True
  | .awaiting _ _ _ => True
  | _ => False

/-- What is left of a start that has found java or failed to. -/
inductive Found (c : Start σ) (s : Session σ) : Progress (Start σ) (Except Error Unit) → Prop
  | fails (e : Error) : Found c s (c.fail e s).1
  | asks {java : Path} {wait : ToolWait} (hcheck : c.config.checkJavaVersion = true) :
      Found c s (.again { c with stage := .checkingJava java wait })
  | goes {java : Path} (hcheck : c.config.checkJavaVersion = false) :
      Found c s (.again { c with stage := .launching java c.config.components })

inductive Does (host : Host σ) (notice : Bool) (c : Start σ) (s : Session σ) :
    Progress (Start σ) (Except Error Unit) → Session σ → Prop
  | conflicts (hstage : c.stage = .entry) (hphase : s.phase ≠ .idle) :
      Does host notice c s (.done (.error (.phaseConflict s.phase "start"))) s
  | refuses {fault : ConfigFault} (hstage : c.stage = .entry) (hphase : s.phase = .idle)
      (hvalid : c.config.validate = .error fault) :
      Does host notice c s (.done (.error (.configuration fault))) s
  | begins {p : Progress (Start σ) (Except Error Unit)} {s' : Session σ}
      (hstage : c.stage = .entry) (hphase : s.phase = .idle) (hvalid : c.config.validate = .ok ())
      (hquiet : (c.letIn s).Quiet s') (hfound : Found c s' p) : Does host notice c s p s'
  /-- Something went wrong that has to be taken back. -/
  | fails {e : Error} {s' : Session σ} (hstage : c.stage.Works) (hquiet : s.Quiet s') :
      Does host notice c s (c.fail e s').1 s'
  | waitsForJava {java : Path} {wait wait' : ToolWait}
      (hstage : c.stage = .checkingJava java wait) :
      Does host notice c s (.again { c with stage := .checkingJava java wait' }) s
  | acceptsJava {java : Path} {wait : ToolWait} {output : Output} {version : Nat}
      (hstage : c.stage = .checkingJava java wait) (hout : wait.step s.now = .done (.ok output))
      (hversion : Java.checkVersion (javaAnswer output) = .ok version) :
      Does host notice c s (.again { c with stage := .launching java c.config.components }) s
  | launches {java : Path} {k : Component} {left : List Component} {p : Pid}
      {wait : ReadinessWait σ} {supervisor : Supervisor σ}
      (hstage : c.stage = .launching java (k :: left)) (hopen : s.supervisor.closed = false)
      (hext : Extends host [⟨k, p⟩] s.supervisor supervisor)
      (hkeep : ∀ h : Handle, h.component ≠ k → s.supervisor.Tracked h → supervisor.Tracked h)
      (hwait : wait.handle = ⟨k, p⟩) :
      Does host notice c s (.again { c with stage := .awaiting java left wait })
        { s with supervisor }
  | awaits {java : Path} {left : List Component} {wait wait' : ReadinessWait σ} {s' : Session σ}
      (hstage : c.stage = .awaiting java left wait) (hwait : wait'.handle = wait.handle)
      (hquiet : s.Quiet s') :
      Does host notice c s (.again { c with stage := .awaiting java left wait' }) s'
  /-- The component is ready. -/
  | advances {java : Path} {left : List Component} {wait : ReadinessWait σ} {s' : Session σ}
      (hstage : c.stage = .awaiting java left wait)
      (hready : (wait.step host (s.cancelled && notice) s.supervisor).1 = .done (.ok ()))
      (hquiet : s.Quiet s') :
      Does host notice c s (.again { c with stage := .launching java left }) s'
  | completes {java : Path} {p : Progress (Start σ) (Except Error Unit)}
      {supervisor : Supervisor σ} (hstage : c.stage = .launching java [])
      (hphase : s.phase = .starting) (hsteady : Steady s.supervisor supervisor)
      (hp : p = .again { c with stage := .openingBrowser } ∨ p = .done (.ok ())) :
      Does host notice c s p { s with supervisor, phase := .running }
  /-- Everything is ready, but the session has been stopped. -/
  | comesLate {java : Path} {s' : Session σ} (hstage : c.stage = .launching java [])
      (hphase : s.phase ≠ .starting) (hquiet : s.Quiet s') :
      Does host notice c s (.done (.error .cancelled)) s'
  | opensBrowser {s' : Session σ} (hstage : c.stage = .openingBrowser) (hquiet : s.Quiet s') :
      Does host notice c s (.done (.ok ())) s'
  | rollsBack {e : Error} {w w' : Sweep} {supervisor : Supervisor σ}
      (hstage : c.stage = .rollingBack e w)
      (hstep : w.step host s.supervisor = (.again w', supervisor)) :
      Does host notice c s (.again { c with stage := .rollingBack e w' }) { s with supervisor }
  | rolledBack {e : Error} {w : Sweep} {r : Termination.Result} {supervisor : Supervisor σ}
      (hstage : c.stage = .rollingBack e w)
      (hstep : w.step host s.supervisor = (.done r, supervisor)) :
      Does host notice c s (.done (.error e))
        (leaveStarting (.failed e.message) { s with supervisor })

/-- A failure leaves the session as it is: either the start gives up, or it is to be taken back. -/
theorem fail_eq (c : Start σ) (e : Error) (s : Session σ) :
    (c.fail e s).2 = s ∧
      ((c.fail e s).1 = .done (.error .cancelled) ∧ s.cancelled = true ∨
        (c.fail e s).1 =
          .again { c with stage := .rollingBack e (.start c.config.termination s.supervisor) }) := by
  unfold fail
  split
  · next h => exact ⟨rfl, .inl ⟨rfl, h.2⟩⟩
  · exact ⟨rfl, .inr rfl⟩

theorem fail_pair (c : Start σ) (e : Error) (s : Session σ) : c.fail e s = ((c.fail e s).1, s) :=
  Prod.ext rfl (fail_eq c e s).1

/-- Java is found without anything being started. -/
theorem findJava_found (host : Host σ) (c : Start σ) (s : Session σ) :
    ∃ p s', c.findJava host s = (p, s') ∧ s.Quiet s' ∧ Found c s' p := by
  unfold findJava
  split
  · next e _ => exact ⟨_, s, fail_pair c e s, .refl s, .fails e⟩
  · next java _ =>
    split
    · next hcheck =>
      have hnote : s.Quiet { s with supervisor := s.supervisor.note (.build (.version java)) } :=
        Session.quiet_note rfl s
      unfold askJava
      dsimp only
      split
      · next e _ => exact ⟨_, _, fail_pair c e _, hnote, .fails e⟩
      · next command _ =>
        have htool := ToolWait.steady_start host command versionCheckLimit
          (s.supervisor.note (.build (.version java)))
        unfold Session.withSupervisor
        dsimp only
        cases hstart : ToolWait.start host command versionCheckLimit
          (s.supervisor.note (.build (.version java))) with
        | mk r supervisor =>
          rw [hstart] at htool
          have hquiet := hnote.trans (.of_steady htool)
          cases r with
          | error e => exact ⟨_, _, fail_pair c e _, hquiet, .fails e⟩
          | ok wait => exact ⟨_, _, rfl, hquiet, .asks hcheck⟩
    · next hcheck => exact ⟨_, s, rfl, .refl s, .goes (Bool.not_eq_true _ ▸ hcheck)⟩

section

variable (host) (notice : Bool)

theorem does_enter (hstage : c.stage = .entry) :
    Does host notice c s (c.enter host s).1 (c.enter host s).2 := by
  unfold enter
  split
  · next hphase => exact .conflicts hstage hphase
  · next hphase =>
    have hidle : s.phase = .idle := not_not.mp hphase
    split
    · next fault hvalid => exact .refuses hstage hidle hvalid
    · next hvalid =>
      obtain ⟨p, s', heq, hquiet, hfound⟩ := findJava_found host c (c.letIn s)
      unfold letIn at heq
      rw [heq]
      exact .begins hstage hidle hvalid hquiet hfound

theorem does_checkJava {java : Path} {wait : ToolWait} (hstage : c.stage = .checkingJava java wait) :
    Does host notice c s (c.checkJava java wait s).1 (c.checkJava java wait s).2 := by
  have hworks : c.stage.Works := by
    rw [hstage]
    trivial
  have hfail (e : Error) : Does host notice c s (c.fail e s).1 (c.fail e s).2 := by
    rw [(fail_eq c e s).1]
    exact .fails hworks (.refl s)
  unfold checkJava
  split
  · exact .waitsForJava hstage
  · exact hfail _
  · next output hout =>
    split
    · exact hfail _
    · next version hversion => exact .acceptsJava hstage hout hversion

theorem does_complete {java : Path} (hstage : c.stage = .launching java []) :
    Does host notice c s (c.complete s).1 (c.complete s).2 := by
  have hsteady := steady_markRunning s.supervisor
  unfold complete
  dsimp only
  split
  · next hphase =>
    split
    · exact .completes hstage hphase hsteady (.inl rfl)
    · exact .completes hstage hphase hsteady (.inr rfl)
  · next hphase => exact .comesLate hstage hphase (.of_steady hsteady)

theorem does_launch {java : Path} {k : Component} {left : List Component}
    (hstage : c.stage = .launching java (k :: left)) :
    Does host notice c s (c.launch host java k left s).1 (c.launch host java k left s).2 := by
  have hworks : c.stage.Works := by
    rw [hstage]
    trivial
  have hfail (e : Error) {s' : Session σ} (hquiet : s.Quiet s') :
      Does host notice c s (c.fail e s').1 (c.fail e s').2 := by
    rw [(fail_eq c e s').1]
    exact .fails hworks hquiet
  have hnote : s.Quiet { s with supervisor := s.supervisor.note (.build (c.config.request java k)) } :=
    Session.quiet_note rfl s
  unfold launch
  split
  · exact hfail _ (.refl s)
  · dsimp only
    split
    · exact hfail _ hnote
    · next command _ =>
      unfold Session.withSupervisor
      rcases launch_cases host k command (s.supervisor.note (.build (c.config.request java k))) with
        ⟨e, supervisor, heq, hs⟩ | ⟨p, supervisor, heq, hopen, he, hkeep⟩
      · rw [heq]
        exact hfail e (hnote.trans (.of_steady hs))
      · rw [heq]
        have hkept : ∀ h : Handle, h.component ≠ k → s.supervisor.Tracked h → supervisor.Tracked h :=
          fun h hne ht => hkeep h hne (hnote.tracked h ht)
        exact .launches hstage hopen (.of_steady hnote.toSteady rfl rfl he) hkept rfl

theorem does_await {java : Path} {left : List Component} {wait : ReadinessWait σ}
    (hstage : c.stage = .awaiting java left wait) :
    Does host notice c s (c.await host notice java left wait s).1
      (c.await host notice java left wait s).2 := by
  have hworks : c.stage.Works := by
    rw [hstage]
    trivial
  obtain ⟨hs, hagain⟩ := wait.goes_step host (s.cancelled && notice) s.supervisor
  unfold await Session.withSupervisor
  cases hstep : wait.step host (s.cancelled && notice) s.supervisor with
  | mk p supervisor =>
    rw [hstep] at hs hagain
    cases p with
    | again wait' => exact .awaits hstage (hagain wait' rfl) (.of_steady hs)
    | done r =>
      cases r with
      | ok => exact .advances hstage (by rw [hstep]) (.of_steady hs)
      | error e =>
        dsimp only
        rw [(fail_eq c e _).1]
        exact .fails hworks (.of_steady hs)

theorem does_rollBack {e : Error} {w : Sweep} (hstage : c.stage = .rollingBack e w) :
    Does host notice c s (c.rollBack host e w s).1 (c.rollBack host e w s).2 := by
  unfold rollBack Session.withSupervisor
  cases hstep : w.step host s.supervisor with
  | mk p supervisor =>
    cases p with
    | again w' => exact .rollsBack hstage hstep
    | done r => exact .rolledBack hstage hstep

end

theorem step_does (host : Host σ) (notice : Bool) (c : Start σ) (s : Session σ) :
    Does host notice c s (c.step host notice s).1 (c.step host notice s).2 := by
  unfold step
  split
  · next hstage => exact does_enter host notice hstage
  · next hstage => exact does_checkJava host notice hstage
  · next hstage => exact does_complete host notice hstage
  · next hstage => exact does_launch host notice hstage
  · next hstage => exact does_await host notice hstage
  · next hstage =>
    refine .opensBrowser hstage (.of_steady ?_)
    exact (steady_note rfl s.supervisor).trans (steady_world _ _ _)
  · next hstage => exact does_rollBack host notice hstage

/-- A session that is not idle refuses a start, without a look at its configuration or the host. -/
theorem step_of_begun (host : Host σ) (notice : Bool) (hstage : c.stage = .entry)
    (hphase : s.phase ≠ .idle) :
    c.step host notice s = (.done (.error (.phaseConflict s.phase "start")), s) := by
  unfold step enter
  rw [hstage]
  exact if_pos hphase

/-- A configuration that is not valid is refused without a look at the host. -/
theorem step_of_invalid (host : Host σ) (notice : Bool) (hstage : c.stage = .entry)
    (hphase : s.phase = .idle) {fault : ConfigFault} (hvalid : c.config.validate = .error fault) :
    c.step host notice s = (.done (.error (.configuration fault)), s) := by
  unfold step enter
  rw [hstage]
  dsimp only
  rw [if_neg (not_not.mpr hphase), hvalid]

/-- A start is refused, or it begins. -/
theorem Does.of_entry {notice : Bool} {p : Progress (Start σ) (Except Error Unit)}
    (hd : Does host notice c s p s') (hstage : c.stage = .entry) :
    (s.phase ≠ .idle ∧ p = .done (.error (.phaseConflict s.phase "start")) ∧ s' = s) ∨
    (∃ fault, s.phase = .idle ∧ c.config.validate = .error fault ∧
      p = .done (.error (.configuration fault)) ∧ s' = s) ∨
    (s.phase = .idle ∧ c.config.validate = .ok () ∧ (c.letIn s).Quiet s' ∧ Found c s' p) := by
  cases hd with
  | conflicts _ hphase => exact .inl ⟨hphase, rfl, rfl⟩
  | refuses _ hphase hvalid => exact .inr (.inl ⟨_, hphase, hvalid, rfl, rfl⟩)
  | begins _ hphase hvalid hquiet hfound => exact .inr (.inr ⟨hphase, hvalid, hquiet, hfound⟩)
  | fails hworks => rw [hstage] at hworks; exact hworks.elim
  | waitsForJava h => cases hstage.symm.trans h
  | acceptsJava h => cases hstage.symm.trans h
  | launches h => cases hstage.symm.trans h
  | awaits h => cases hstage.symm.trans h
  | advances h => cases hstage.symm.trans h
  | completes h => cases hstage.symm.trans h
  | comesLate h => cases hstage.symm.trans h
  | opensBrowser h => cases hstage.symm.trans h
  | rollsBack h => cases hstage.symm.trans h
  | rolledBack h => cases hstage.symm.trans h

/-- A start never tells anybody to give up. -/
theorem Does.cancelled_eq {notice : Bool} {p : Progress (Start σ) (Except Error Unit)}
    (hd : Does host notice c s p s') : s'.cancelled = s.cancelled := by
  cases hd with
  | conflicts => rfl
  | refuses => rfl
  | begins _ _ _ hquiet _ => exact hquiet.cancelled
  | fails _ hquiet => exact hquiet.cancelled
  | waitsForJava => rfl
  | acceptsJava => rfl
  | launches => rfl
  | awaits _ _ hquiet => exact hquiet.cancelled
  | advances _ _ hquiet => exact hquiet.cancelled
  | completes => rfl
  | comesLate _ _ hquiet => exact hquiet.cancelled
  | opensBrowser _ hquiet => exact hquiet.cancelled
  | rollsBack => rfl
  | rolledBack =>
    unfold leaveStarting
    split <;> rfl

/-- A step starts nothing, or it launches the next component. -/
theorem Does.spawns {notice : Bool} {p : Progress (Start σ) (Except Error Unit)}
    (hd : Does host notice c s p s') :
    StartsNothing s.supervisor s'.supervisor ∨
      ∃ java k left pid wait, c.stage = .launching java (k :: left) ∧
        s.supervisor.closed = false ∧ s'.supervisor.roots = ⟨k, pid⟩ :: s.supervisor.roots ∧
        p = .again { c with stage := .awaiting java left wait } ∧ wait.handle = ⟨k, pid⟩ := by
  have hsame : StartsNothing s.supervisor s.supervisor := .refl s.supervisor
  have hsweep {w : Sweep} {q : Progress Sweep Termination.Result} {supervisor : Supervisor σ}
      (hstep : w.step host s.supervisor = (q, supervisor)) :
      StartsNothing s.supervisor supervisor := by
    have hdoes := w.step_does host s.supervisor
    rw [hstep] at hdoes
    exact hdoes.startsNothing
  cases hd with
  | conflicts => exact .inl hsame
  | refuses => exact .inl hsame
  | begins _ _ _ hquiet _ => exact .inl hquiet.toStartsNothing
  | fails _ hquiet => exact .inl hquiet.toStartsNothing
  | waitsForJava => exact .inl hsame
  | acceptsJava => exact .inl hsame
  | launches hstage hopen hext _ hwait =>
    exact .inr ⟨_, _, _, _, _, hstage, hopen, hext.roots, rfl, hwait⟩
  | awaits _ _ hquiet => exact .inl hquiet.toStartsNothing
  | advances _ _ hquiet => exact .inl hquiet.toStartsNothing
  | completes _ _ hsteady _ => exact .inl hsteady.toStartsNothing
  | comesLate _ _ hquiet => exact .inl hquiet.toStartsNothing
  | opensBrowser _ hquiet => exact .inl hquiet.toStartsNothing
  | rollsBack _ hstep => exact .inl (hsweep hstep)
  | rolledBack _ hstep =>
    refine .inl ?_
    unfold leaveStarting
    split <;> exact hsweep hstep

end Start

namespace Stop

variable {c : Stop} {s : Session σ}

inductive Does (host : Host σ) (c : Stop) (s : Session σ) :
    Progress Stop (Except Error Unit) → Session σ → Prop
  | findsStopped (hcall : c = .entry) (hphase : s.phase = .stopped) :
      Does host c s (.done (.ok ())) s
  | conflicts (hcall : c = .entry) (hphase : s.phase = .stopping) :
      Does host c s (.done (.error (.phaseConflict .stopping "stop"))) s
  | shuts (hcall : c = .entry) (hstopped : s.phase ≠ .stopped) (hstopping : s.phase ≠ .stopping) :
      Does host c s (.again (.sweeping (.start s.termination s.supervisor.close))) (shut s)
  | sweeps {w w' : Sweep} {supervisor : Supervisor σ} (hcall : c = .sweeping w)
      (hstep : w.step host s.supervisor = (.again w', supervisor)) :
      Does host c s (.again (.sweeping w')) { s with supervisor }
  | swept {w : Sweep} {r : Termination.Result} {supervisor : Supervisor σ}
      (hcall : c = .sweeping w) (hstep : w.step host s.supervisor = (.done r, supervisor)) :
      Does host c s (.done (r.mapError .termination)) { s with supervisor, phase := .stopped }

theorem step_does (host : Host σ) (c : Stop) (s : Session σ) :
    Does host c s (c.step host s).1 (c.step host s).2 := by
  cases c with
  | entry =>
    show Does host .entry s (enter s).1 (enter s).2
    unfold enter
    split
    · next hphase => exact .findsStopped rfl hphase
    · next hphase => exact .conflicts rfl hphase
    · next hstopped hstopping => exact .shuts rfl hstopped hstopping
  | sweeping w =>
    unfold step Session.withSupervisor
    dsimp only
    cases hstep : w.step host s.supervisor with
    | mk p supervisor =>
      cases p with
      | again w' => exact .sweeps rfl hstep
      | done r => exact .swept rfl hstep

theorem Does.startsNothing {p : Progress Stop (Except Error Unit)} {s' : Session σ}
    (hd : Does host c s p s') : StartsNothing s.supervisor s'.supervisor := by
  have hsweep {w : Sweep} {q : Progress Sweep Termination.Result} {supervisor : Supervisor σ}
      (hstep : w.step host s.supervisor = (q, supervisor)) :
      StartsNothing s.supervisor supervisor := by
    have hdoes := w.step_does host s.supervisor
    rw [hstep] at hdoes
    exact hdoes.startsNothing
  cases hd with
  | findsStopped => exact .refl s.supervisor
  | conflicts => exact .refl s.supervisor
  | shuts => exact (steady_close s.supervisor).toStartsNothing
  | sweeps _ hstep => exact hsweep hstep
  | swept _ hstep => exact hsweep hstep

end Stop

end Launchpad
