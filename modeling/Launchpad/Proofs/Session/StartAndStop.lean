import Launchpad.Foreground
import Launchpad.Proofs.Session.Causes
import Launchpad.Proofs.Session.Closing
import Launchpad.Proofs.Session.Phases

/-!
# One start and one stop of a session

What a session is while a start of it (`Start.Holds`) and a stop of it (`Stop.Holds`) stand where
they do, if nobody else calls. Each of the two is kept by the steps of the other: a step of a start
is one beside the stop (`Session.Beside`), and a start that has taken its first step does not mind a
stop. Of the errors of such a start, those that are the session's own come from the host or from the
stop.
-/

namespace Launchpad

open Supervisor

variable {σ : Type} {host : Host σ}

/-! ## Beside a stop -/

/-- What a session may become that nobody stops. -/
structure Session.Beside (s s' : Session σ) : Prop where
  phase : s.phase.Ends → s'.phase = s.phase
  ends : s'.phase.Ends → s.phase.Ends
  cancelled : s'.cancelled = s.cancelled
  closed : s'.supervisor.closed = s.supervisor.closed
  startsNothing : s.supervisor.closed = true → StartsNothing s.supervisor s'.supervisor

theorem Start.beside_step (host : Host σ) (notice : Bool) (c : Start σ) (s : Session σ) :
    s.Beside (c.step host notice s).2 := by
  have hdoes := c.step_does host notice s
  refine ⟨hdoes.phase_of_ends, fun h => ?_, hdoes.cancelled_eq, c.closed_step s host notice,
    fun hclosed => ?_⟩
  · rcases hdoes.phase with heq | ⟨-, heq⟩ | ⟨-, heq | ⟨reason, heq⟩⟩
    · rwa [heq] at h
    all_goals
      rw [heq] at h
      rcases h with h | h <;> cases h
  · rcases hdoes.spawns with h | ⟨_, _, _, _, _, -, hopen, -⟩
    · exact h
    · exact absurd (hopen.symm.trans hclosed) Bool.false_ne_true

theorem Session.beside_status (host : Host σ) (s : Session σ) : s.Beside (s.status host).2 := by
  have hages : Session.Ages s.phase (s.status host).2.phase := Session.ages_phaseAfter _ _
  refine ⟨hages.eq_of_ends, fun h => ?_, rfl, closed_refresh host s.supervisor,
    fun _ => (steady_refresh host s.supervisor).toStartsNothing⟩
  rcases hages with heq | ⟨-, exited, heq⟩
  · rwa [heq] at h
  · rw [heq] at h
    rcases h with h | h <;> cases h

/-- Time passes, and the machine is not the same afterwards. -/
theorem Session.beside_outside (s : Session σ) (passed : Duration) (change : σ → σ) :
    s.Beside { s with supervisor := { s.supervisor with
      now := s.supervisor.now + passed, world := change s.supervisor.world } } :=
  ⟨fun _ => rfl, id, rfl, rfl, fun _ => (steady_world s.supervisor _ _).toStartsNothing⟩

/-- What holds of a session while a stop of it stands somewhere or has returned. -/
def Stop.Holds (s : Session σ) : Progress Stop (Except Error Unit) → Prop
  | .again .entry => ¬ s.phase.Ends ∧ s.cancelled = false ∧ s.supervisor.closed = false
  | .again (.sweeping w) =>
    s.phase = .stopping ∧ s.supervisor.closed = true ∧ w.ReportsAll s.supervisor
  | .done r => s.phase = .stopped ∧ s.supervisor.closed = true ∧
    ∃ failures, r = (TerminationFailure.toResult failures).mapError .termination ∧
      Sweep.AllReported failures s.supervisor

namespace Stop

variable {s s' : Session σ} {p : Progress Stop (Except Error Unit)} {c : Stop}

theorem Holds.beside (h : Holds s p) (hb : s.Beside s') : Holds s' p := by
  match p with
  | .again .entry =>
    exact ⟨fun hends => h.1 (hb.ends hends), hb.cancelled.trans h.2.1, hb.closed.trans h.2.2⟩
  | .again (.sweeping w) =>
    exact ⟨(hb.phase (.inl h.1)).trans h.1, hb.closed.trans h.2.1,
      h.2.2.beside (hb.startsNothing h.2.1)⟩
  | .done r =>
    obtain ⟨hphase, hclosed, failures, hr, hall⟩ := h
    exact ⟨(hb.phase (.inr hphase)).trans hphase, hb.closed.trans hclosed, failures, hr,
      hall.beside (hb.startsNothing hclosed)⟩

/-- A stop that nobody comes before goes on to its end. -/
theorem Holds.step (h : Holds s (.again c)) (host : Host σ) :
    Holds (c.step host s).2 (c.step host s).1 ∧ (c.step host s).2.phase.Ends := by
  have hdoes := c.step_does host s
  generalize (c.step host s).1 = p at hdoes
  generalize (c.step host s).2 = s' at hdoes
  cases hdoes with
  | findsStopped hcall hphase =>
    subst hcall
    exact absurd (.inr hphase) h.1
  | conflicts hcall hphase =>
    subst hcall
    exact absurd (.inl hphase) h.1
  | shuts => exact ⟨⟨rfl, rfl, Sweep.reportsAll_start s.termination s.supervisor.close⟩, .inl rfl⟩
  | @sweeps w w' supervisor hcall hstep =>
    subst hcall
    have hdoes := w.step_does host s.supervisor
    rw [hstep] at hdoes
    have hclosed := hdoes.startsNothing.closed h.2.1
    exact ⟨⟨h.1, hclosed, hdoes.reportsAll h.2.2⟩, .inl h.1⟩
  | @swept w r supervisor hcall hstep =>
    subst hcall
    have hdoes := w.step_does host s.supervisor
    rw [hstep] at hdoes
    obtain ⟨rfl, rfl, hnone⟩ := hdoes.done
    exact ⟨⟨rfl, h.2.1, w.failures, rfl, h.2.2.done hnone⟩, .inr rfl⟩

/-- Only a session that a stop has been called for is closed, or tells a start to give up. -/
theorem Holds.ends (h : Holds s p) (hs : s.cancelled = true ∨ s.supervisor.closed = true) :
    s.phase.Ends := by
  match p with
  | .again .entry =>
    rcases hs with hs | hs
    · exact absurd (h.2.1.symm.trans hs) Bool.false_ne_true
    · exact absurd (h.2.2.symm.trans hs) Bool.false_ne_true
  | .again (.sweeping w) => exact .inl h.1
  | .done r => exact .inr h.1

end Stop

namespace Start

variable {s s' : Session σ} {c : Start σ} {p : Progress (Start σ) (Except Error Unit)}
  {q : Progress Stop (Except Error Unit)}

/-- The phase of a session while a start of it is in a stage. -/
def Stage.phase : Stage σ → Phase
  | .entry => .idle
  | .openingBrowser => .running
  | _ => .starting

/-- Whether a phase is that of a session whose start stands somewhere or has returned. -/
def Fits (phase : Phase) : Progress (Start σ) (Except Error Unit) → Prop
  | .again c => phase = c.stage.phase
  | .done (.ok ()) => phase = .running
  | .done (.error _) => True

/-- What holds of a session while a start of it stands somewhere or has returned. -/
structure Holds (s : Session σ) (p : Progress (Start σ) (Except Error Unit)) :
    Prop where
  fits : ¬ s.phase.Ends → Fits s.phase p
  isNew : Foreground.isNew p = true → ¬ s.phase.Ends
  /-- An error that is the session's own comes from a stop. -/
  excused : ∀ e, error? p = some e → e.ExcusedBy s.phase.Ends

theorem fits_fail (c : Start σ) (e : Error) (s' : Session σ) : Fits .starting (c.fail e s').1 := by
  rcases (fail_eq c e s').2 with ⟨heq, -⟩ | heq
  · rw [heq]
    trivial
  · rw [heq]
    rfl

theorem Stage.phase_of_works {stage : Stage σ} (h : stage.Works) : stage.phase = .starting := by
  cases stage with
  | entry => exact h.elim
  | openingBrowser => exact h.elim
  | _ => rfl

theorem Does.fits {notice : Bool} (hd : c.Does host notice s p s') (h : s.phase = c.stage.phase) :
    Fits s'.phase p := by
  cases hd with
  | conflicts => trivial
  | refuses => trivial
  | begins _ _ _ hquiet hfound =>
    rw [hquiet.phase]
    cases hfound with
    | fails e => exact fits_fail c e _
    | asks => rfl
    | goes => rfl
  | fails hworks hquiet =>
    rw [hquiet.phase, h, Stage.phase_of_works hworks]
    exact fits_fail c _ _
  | waitsForJava hstage => rw [hstage] at h; exact h
  | acceptsJava hstage => rw [hstage] at h; exact h
  | launches hstage => rw [hstage] at h; exact h
  | awaits hstage _ hquiet => rw [hstage] at h; exact hquiet.phase.trans h
  | advances hstage _ hquiet => rw [hstage] at h; exact hquiet.phase.trans h
  | completes _ _ _ hp => rcases hp with rfl | rfl <;> rfl
  | comesLate => trivial
  | opensBrowser hstage hquiet => rw [hstage] at h; exact hquiet.phase.trans h
  | rollsBack hstage => rw [hstage] at h; exact h
  | rolledBack => trivial

theorem isNew_fail (c : Start σ) (e : Error) (s : Session σ) :
    Foreground.isNew (c.fail e s).1 = false := by
  rcases (fail_eq c e s).2 with ⟨heq, -⟩ | heq
  · rw [heq]
    rfl
  · rw [heq]
    rfl

theorem Does.isNew {notice : Bool} (hd : c.Does host notice s p s') :
    Foreground.isNew p = false := by
  cases hd with
  | begins _ _ _ _ hfound =>
    cases hfound with
    | fails e => exact isNew_fail c e s'
    | asks => rfl
    | goes => rfl
  | fails => exact isNew_fail c _ s'
  | completes _ _ _ hp => rcases hp with rfl | rfl <;> rfl
  | _ => rfl

/-- A start goes on, whether a stop has begun or not. -/
theorem Holds.step (hhost : host.KeepsErrors) (h : Holds s (.again c)) (hstop : Stop.Holds s q)
    (notice : Bool) : Holds (c.step host notice s).2 (c.step host notice s).1 := by
  have hdoes := c.step_does host notice s
  have hbeside := c.beside_step host notice s
  have hmono (hends : s.phase.Ends) : (c.step host notice s).2.phase.Ends := by
    rwa [hbeside.phase hends]
  refine ⟨fun hends => hdoes.fits (h.fits fun h => hends (hmono h)), ?_, fun e he => ?_⟩
  · intro hnew
    exact absurd (hdoes.isNew.symm.trans hnew) Bool.false_ne_true
  · rcases cause_step hhost he with ⟨hstage, hphase⟩ | ⟨w, hstage⟩ | hexcused
    · have hnew : Foreground.isNew (.again c) = true := by
        obtain ⟨config, probes, stage⟩ := c
        cases hstage
        rfl
      have hfits : s.phase = c.stage.phase := h.fits (h.isNew hnew)
      rw [hstage] at hfits
      exact absurd hfits hphase
    · have herror : error? (.again c) = some e := by
        obtain ⟨config, probes, stage⟩ := c
        cases hstage
        rfl
      exact (h.excused e herror).mono hmono
    · refine hexcused.mono fun htold => hmono ?_
      rcases htold with hcancelled | hclosed | ⟨⟨java, hstage⟩, hphase⟩
      · exact hstop.ends (.inl hcancelled)
      · exact hstop.ends (.inr hclosed)
      · by_contra hends
        have hfits : s.phase = c.stage.phase := h.fits hends
        rw [hstage] at hfits
        exact hphase hfits

/-- A stop goes on beside a start that has taken its first step. -/
theorem Holds.beside_stop (h : Holds s p) (hnew : Foreground.isNew p = false)
    (hends : s'.phase.Ends) : Holds s' p where
  fits hopen := absurd hends hopen
  isNew h := absurd (hnew.symm.trans h) Bool.false_ne_true
  excused e he := (h.excused e he).mono fun _ => hends

end Start

end Launchpad
