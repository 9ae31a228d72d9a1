import Launchpad.Proofs.Session.StartAndStop
import Launchpad.Proofs.Supervisor.Records

/-!
# Foreground runs end stopped

A foreground run has its session to itself. Whenever the shutdown is requested, before the start,
during it, while it is taken back, later or never: when the run returns, its session is stopped, and
its result follows from what has come of its start, of its last look and of its stop
(`run_ends_stopped`).

`Run` puts a run together with its session and a `Trail` of the results of its calls. The invariant
`Holds` goes by the stage of the run, with one lemma for each stage.
-/

namespace Launchpad

open Supervisor

variable {σ : Type} {host : Host σ}

namespace Foreground

/-! ## Runs -/

/-- What has come of the calls of a run so far. -/
structure Trail where
  /-- Whether a requested shutdown has been noticed. -/
  shutdown : Bool := false
  started : Option (Except Error Unit) := none
  /-- What the last look has found. -/
  report : Option Report := none
  stopped : Option (Except Error Unit) := none

/-- The start that goes on in a step. -/
def startThatGoes (choice : Choice) (shutdown : Bool) (c : Foreground σ) : Option (Start σ) :=
  match c.stage with
  | .starting start => if shutdown then none else some start
  | .interrupted (.again start) _ =>
    if choice.startFirst || isNew (.again start) then some start else none
  | _ => none

/-- The stop that goes on in a step. -/
def stopThatGoes (choice : Choice) (c : Foreground σ) : Option Stop :=
  match c.stage with
  | .closing _ stop => some stop
  | .interrupted start (.again stop) =>
    if choice.startFirst || isNew start then none else some stop
  | _ => none

/-- Whether the session is looked at in a step. -/
def looks (shutdown : Bool) (c : Foreground σ) (s : Session σ) : Bool :=
  match c.stage with
  | .watching due => !shutdown && due ≤ s.now
  | _ => false

def Trail.after (host : Host σ) (choice : Choice) (shutdown : Bool) (c : Foreground σ)
    (s : Session σ) (trail : Trail) : Trail where
  shutdown := trail.shutdown || shutdown && c.heedsShutdown
  started := ((c.startThatGoes choice shutdown).bind fun start =>
    (start.step host choice.notice s).1.result?) <|> trail.started
  report := if c.looks shutdown s then some (s.status host).1 else trail.report
  stopped := ((c.stopThatGoes choice).bind fun stop => (stop.step host s).1.result?) <|>
    trail.stopped

/-- A run with its session, and what has come of it so far. -/
structure Run (σ : Type) where
  session : Session σ
  call : Progress (Foreground σ) RunEnding
  trail : Trail := {}

namespace Run

inductive Move (σ : Type) where
  /-- The run goes on; `shutdown` tells whether a requested shutdown is noticed. -/
  | goes (choice : Choice) (shutdown : Bool)
  /-- Time passes, and the machine is not the same afterwards. -/
  | outside (passed : Duration) (change : σ → σ)

/-- A run that begins on a session of which nothing has happened yet. -/
def new (world : σ) (now : Instant) (config : LaunchConfig) (probes : PerComponent (Probe σ))
    (watchInterval : Duration) : Run σ where
  session := { supervisor := { world, now } }
  call := .again (begin config probes watchInterval)

/-- The run goes on from where it stands. -/
def goOn (host : Host σ) (choice : Choice) (shutdown : Bool) (c : Foreground σ) (x : Run σ) :
    Run σ where
  session := (c.step host choice shutdown x.session).2
  call := (c.step host choice shutdown x.session).1
  trail := x.trail.after host choice shutdown c x.session

def step (host : Host σ) (m : Move σ) (x : Run σ) : Run σ :=
  match m with
  | .goes choice shutdown =>
    match x.call with
    | .again c => x.goOn host choice shutdown c
    | .done _ => x
  | .outside passed change =>
    let s := x.session.supervisor
    let supervisor := { s with now := s.now + passed, world := change s.world }
    { x with session := { x.session with supervisor } }

def run (host : Host σ) (x : Run σ) (ms : List (Move σ)) : Run σ :=
  ms.foldl (fun x m => x.step host m) x

end Run

/-! ## What a run comes to -/

/-- The components that a report has found not to be alive. -/
def notLive (report : Report) : List Component :=
  (report.components.filter fun c => !c.status.isLive).map (·.component)

/-- The outcome of a run is what its trail says of the time before the stop. -/
structure Settles (trail : Trail) (outcome : Except Error RunOutcome) : Prop where
  failed : ∀ e, outcome = .error e → trail.started = some (.error e) ∧ ¬ e.IsOwn
  succeeded : ∀ o, outcome = .ok o →
    trail.started = some (.ok ()) ∨ trail.started = some (.error .cancelled)
  shutdown : outcome = .ok .shutdownRequested → trail.shutdown = true
  exited : ∀ components, outcome = .ok (.componentsExited components) →
    trail.started = some (.ok ()) ∧ components ≠ [] ∧
    components.Sublist Component.launchOrder ∧
    ∃ report, trail.report = some report ∧ components = notLive report

/-- A run that has returned. -/
structure Ended (x : Run σ) (result : Except Error RunOutcome) : Prop where
  phase : x.session.phase = .stopped
  called : (∃ r, x.trail.started = some r) ∧ ∃ r, x.trail.stopped = some r
  empty : ∀ o, result = .ok o → ∀ k, x.session.supervisor.record? k = none
  /-- The failure of the stop counts before everything else. -/
  stopFailed : ∀ e, x.trail.stopped = some (.error e) →
    result = .error e ∧ ∃ failures, e = .termination failures
  startFailed : ∀ e, x.trail.stopped = some (.ok ()) → x.trail.started = some (.error e) →
    e ≠ .cancelled → result = .error e
  succeeded : x.trail.stopped = some (.ok ()) → x.trail.started = some (.ok ()) →
    ∃ o, result = .ok o
  /-- A start that gives up is no failure. -/
  gaveUp : x.trail.stopped = some (.ok ()) → x.trail.started = some (.error .cancelled) →
    ∃ o, result = .ok o
  shutdown : result = .ok .shutdownRequested → x.trail.shutdown = true
  exited : ∀ components, result = .ok (.componentsExited components) →
    x.trail.started = some (.ok ()) ∧ components ≠ [] ∧
    components.Sublist Component.launchOrder ∧
    ∃ report, x.trail.report = some report ∧ components = notLive report
  foreign : ∀ e, result = .error e → ¬ e.IsOwn

section Ending

variable {x : Run σ} {outcome result : Except Error RunOutcome}

theorem Settles.of_stopped {trail : Trail} (h : Settles trail outcome)
    (stopped : Option (Except Error Unit)) : Settles { trail with stopped } outcome :=
  ⟨h.failed, h.succeeded, h.shutdown, h.exited⟩

theorem Settles.called {trail : Trail} (h : Settles trail outcome) :
    ∃ r, trail.started = some r := by
  cases outcome with
  | error e => exact ⟨_, (h.failed e rfl).1⟩
  | ok o => exact (h.succeeded o rfl).elim (fun h => ⟨_, h⟩) fun h => ⟨_, h⟩

theorem Settles.of_failure {trail : Trail} {e : Error} (hstarted : trail.started = some (.error e))
    (hforeign : ¬ e.IsOwn) : Settles trail (.error e) where
  failed := by
    rintro _ ⟨rfl⟩
    exact ⟨hstarted, hforeign⟩
  succeeded _ he := by cases he
  shutdown he := by cases he
  exited _ he := by cases he

theorem Settles.of_shutdown {trail : Trail}
    (hstarted : trail.started = some (.ok ()) ∨ trail.started = some (.error .cancelled))
    (hshutdown : trail.shutdown = true) : Settles trail (.ok .shutdownRequested) where
  failed _ he := by cases he
  succeeded _ _ := hstarted
  shutdown _ := hshutdown
  exited _ he := by cases he

theorem Settles.of_exited {trail : Trail} {exited : List Component} {report : Report}
    (hstarted : trail.started = some (.ok ())) (hne : exited ≠ [])
    (hsub : exited.Sublist Component.launchOrder) (hreport : trail.report = some report)
    (heq : exited = notLive report) : Settles trail (.ok (.componentsExited exited)) where
  failed _ he := by cases he
  succeeded _ _ := .inl hstarted
  shutdown he := by cases he
  exited := by
    rintro _ ⟨rfl⟩
    exact ⟨hstarted, hne, hsub, report, hreport, heq⟩

/-- The stop has succeeded. -/
theorem Settles.ended_ok (h : Settles x.trail outcome) (hphase : x.session.phase = .stopped)
    (hstopped : x.trail.stopped = some (.ok ()))
    (hempty : ∀ k, x.session.supervisor.record? k = none) : Ended x outcome where
  phase := hphase
  called := ⟨h.called, _, hstopped⟩
  empty _ _ := hempty
  stopFailed e he := by cases hstopped.symm.trans he
  startFailed e _ he hne := by
    cases outcome with
    | error e' =>
      cases (h.failed e' rfl).1.symm.trans he
      rfl
    | ok o =>
      rcases h.succeeded o rfl with hs | hs
      · cases hs.symm.trans he
      · cases hs.symm.trans he
        exact absurd rfl hne
  succeeded _ hstarted := by
    cases outcome with
    | error e => cases (h.failed e rfl).1.symm.trans hstarted
    | ok o => exact ⟨o, rfl⟩
  gaveUp _ hstarted := by
    cases outcome with
    | error e =>
      obtain ⟨he, hforeign⟩ := h.failed e rfl
      cases he.symm.trans hstarted
      exact absurd trivial hforeign
    | ok o => exact ⟨o, rfl⟩
  shutdown := h.shutdown
  exited := h.exited
  foreign e he := (h.failed e he).2

/-- The stop has failed. -/
theorem Settles.ended_error {failures : List TerminationFailure}
    (h : Settles x.trail outcome) (hphase : x.session.phase = .stopped)
    (hstopped : x.trail.stopped = some (.error (.termination failures))) :
    Ended x (.error (.termination failures)) where
  phase := hphase
  called := ⟨h.called, _, hstopped⟩
  empty _ := nofun
  stopFailed e he := by
    cases hstopped.symm.trans he
    exact ⟨rfl, failures, rfl⟩
  startFailed e hok := by cases hstopped.symm.trans hok
  succeeded hok := by cases hstopped.symm.trans hok
  gaveUp hok := by cases hstopped.symm.trans hok
  shutdown := nofun
  exited _ := nofun
  foreign e he := by
    cases he
    exact id

/-- A run returns when its stop has. -/
theorem Settles.ended {r : Except Error Unit} (h : Settles x.trail outcome)
    (hstop : Stop.Holds x.session (.done r)) (hstopped : x.trail.stopped = some r) :
    Ended x (combine outcome r) := by
  obtain ⟨hphase, -, failures, rfl, hall⟩ := hstop
  cases hr : TerminationFailure.toResult failures with
  | ok =>
    rw [hr] at hstopped
    cases Sweep.eq_nil_of_toResult hr
    exact h.ended_ok hphase hstopped hall.record?_eq_none
  | error failures' =>
    rw [hr] at hstopped
    exact h.ended_error hphase hstopped

end Ending

/-! ## A step of a run -/

/-- What holds of a run in a stage. -/
def HoldsAt (x : Run σ) : Stage σ → Prop
  | .starting start =>
    Start.Holds x.session (.again start) ∧ Stop.Holds x.session (.again .entry) ∧
      x.trail.started = none ∧ x.trail.stopped = none
  | .watching _ =>
    x.session.phase = .running ∧ Stop.Holds x.session (.again .entry) ∧
      x.trail.started = some (.ok ()) ∧ x.trail.stopped = none
  | .closing outcome stop =>
    Stop.Holds x.session (.again stop) ∧ Settles x.trail outcome ∧ x.trail.stopped = none
  | .interrupted start stop =>
    Start.Holds x.session start ∧ Stop.Holds x.session stop ∧
      x.trail.started = start.result? ∧ x.trail.stopped = stop.result? ∧ x.trail.shutdown = true

/-- What holds of a run at any time. -/
def Holds (x : Run σ) : Prop :=
  match x.call with
  | .again c => c.watchInterval ≠ 0 ∧ HoldsAt x c.stage
  | .done ending => ∃ result, ending = .returned result ∧ Ended x result

section Step

variable {x : Run σ} {c : Foreground σ} {choice : Choice} {shutdown : Bool} {trail : Trail}
  {s : Session σ}

theorem after_of_starting {start : Start σ} (hstage : c.stage = .starting start) :
    trail.after host choice false c s =
      { trail with started := (start.step host choice.notice s).1.result? <|> trail.started } := by
  unfold Trail.after startThatGoes stopThatGoes looks
  rw [hstage]
  simp

theorem holds_starting (hhost : host.KeepsErrors) {start : Start σ}
    (hstage : c.stage = .starting start)
    (hinterval : c.watchInterval ≠ 0) (h : HoldsAt x (.starting start)) :
    Holds (x.goOn host choice shutdown c) := by
  obtain ⟨hstart, hstop, hstarted, hstopped⟩ := h
  cases shutdown with
  | true =>
    unfold Run.goOn Foreground.step
    rw [hstage]
    refine ⟨hinterval, hstart, hstop, ?_, ?_, ?_⟩
    · simpa [Trail.after, startThatGoes, hstage, Progress.result?] using hstarted
    · simpa [Trail.after, stopThatGoes, hstage, Progress.result?] using hstopped
    · simp [Trail.after, heedsShutdown, hstage]
  | false =>
    have hholds := hstart.step hhost hstop choice.notice
    have hstop' := hstop.beside (start.beside_step host choice.notice x.session)
    unfold Run.goOn Foreground.step
    rw [after_of_starting hstage, hstage, hstarted]
    dsimp only
    rw [if_neg Bool.false_ne_true]
    cases hstep : start.step host choice.notice x.session with
    | mk p s' =>
      rw [hstep] at hholds hstop'
      match p with
      | .again start' => exact ⟨hinterval, hholds, hstop', rfl, hstopped⟩
      | .done (.ok ()) =>
        unfold watch
        dsimp only
        rw [if_neg hinterval]
        exact ⟨hinterval, hholds.fits hstop'.1, hstop', rfl, hstopped⟩
      | .done (.error e) =>
        have hforeign := ((hholds.excused e rfl).mono hstop'.1).not_own
        exact ⟨hinterval, hstop', .of_failure rfl hforeign, hstopped⟩

/-- The components of the records are in launch order. -/
theorem statuses_sublist (s : Supervisor σ) :
    (s.statuses.map (·.component)).Sublist Component.launchOrder := by
  rw [Supervisor.component_statuses]
  exact List.filter_sublist

/-- A look at a session that runs. -/
theorem status_of_running (host : Host σ) (hphase : s.phase = .running) :
    (s.status host).2.phase = (s.status host).1.phase ∧
      ((s.status host).1.phase = .running ∨
        ∃ exited, (s.status host).1.phase = .degraded exited ∧ exited ≠ [] ∧
          exited.Sublist Component.launchOrder ∧ exited = notLive (s.status host).1) := by
  refine ⟨rfl, ?_⟩
  have heq : (s.status host).1.phase =
      if (notLive (s.status host).1).isEmpty then .running
      else .degraded (notLive (s.status host).1) := by
    show Session.phaseAfter s.phase _ = _
    rw [hphase]
    rfl
  rw [heq]
  split
  · exact .inl rfl
  · next hsome =>
    refine .inr ⟨_, rfl, fun hnil => hsome (List.isEmpty_iff.mpr hnil), ?_, rfl⟩
    exact (List.Sublist.map _ List.filter_sublist).trans (statuses_sublist _)

theorem holds_look {due : Instant} (hinterval : c.watchInterval ≠ 0)
    (hstage : c.stage = .watching due) (hdue : due ≤ x.session.now)
    (h : HoldsAt x (.watching due)) :
    Holds (x.goOn host choice false c) := by
  obtain ⟨hphase, hstop, hstarted, hstopped⟩ := h
  have htrail : x.trail.after host choice false c x.session =
      { x.trail with report := some (x.session.status host).1 } := by
    unfold Trail.after startThatGoes stopThatGoes looks
    rw [hstage]
    simp [hdue]
  have hstop' := hstop.beside (x.session.beside_status host)
  obtain ⟨hsame, hreport⟩ := status_of_running host hphase
  unfold Run.goOn Foreground.step look
  rw [htrail, hstage]
  dsimp only
  rw [if_neg Bool.false_ne_true, if_pos hdue]
  cases hstatus : x.session.status host with
  | mk report s' =>
    rw [hstatus] at hstop' hsame hreport
    dsimp only at hsame hreport ⊢
    rcases hreport with hrunning | ⟨exited, hdegraded, hne, hsub, heq⟩
    · rw [hrunning] at hsame ⊢
      exact ⟨hinterval, hsame, hstop', hstarted, hstopped⟩
    · rw [hdegraded]
      exact ⟨hinterval, hstop', .of_exited hstarted hne hsub rfl heq, hstopped⟩

theorem holds_watching {due : Instant} (hinterval : c.watchInterval ≠ 0)
    (hstage : c.stage = .watching due) (h : HoldsAt x (.watching due)) :
    Holds (x.goOn host choice shutdown c) := by
  obtain ⟨hphase, hstop, hstarted, hstopped⟩ := id h
  cases shutdown with
  | true =>
    have htrail : x.trail.after host choice true c x.session =
        { x.trail with shutdown := true } := by
      unfold Trail.after startThatGoes stopThatGoes looks heedsShutdown
      rw [hstage]
      simp
    unfold Run.goOn Foreground.step
    rw [htrail, hstage]
    exact ⟨hinterval, hstop, .of_shutdown (.inl hstarted) rfl, hstopped⟩
  | false =>
    by_cases hdue : due ≤ x.session.now
    · exact holds_look hinterval hstage hdue h
    · have htrail : x.trail.after host choice false c x.session = x.trail := by
        unfold Trail.after startThatGoes stopThatGoes looks
        rw [hstage]
        simp [hdue]
      unfold Run.goOn Foreground.step
      rw [htrail, hstage]
      dsimp only
      rw [if_neg Bool.false_ne_true, if_neg hdue]
      exact ⟨hinterval, hstage ▸ h⟩

theorem holds_closing {outcome : Except Error RunOutcome} {stop : Stop}
    (hinterval : c.watchInterval ≠ 0) (hstage : c.stage = .closing outcome stop)
    (h : HoldsAt x (.closing outcome stop)) :
    Holds (x.goOn host choice shutdown c) := by
  obtain ⟨hstop, hsettles, hstopped⟩ := h
  have htrail : x.trail.after host choice shutdown c x.session =
      { x.trail with stopped := (stop.step host x.session).1.result? } := by
    unfold Trail.after startThatGoes stopThatGoes looks heedsShutdown
    rw [hstage]
    simp [hstopped]
  have hstop' := (hstop.step host).1
  unfold Run.goOn Foreground.step
  rw [htrail, hstage]
  dsimp only
  cases hstep : stop.step host x.session with
  | mk p s' =>
    rw [hstep] at hstop'
    cases p with
    | again stop' => exact ⟨hinterval, hstop', hsettles.of_stopped _, rfl⟩
    | done r =>
      refine ⟨_, rfl, ?_⟩
      exact Settles.ended (x := ⟨s', _, _⟩) (hsettles.of_stopped _) hstop' rfl

/-- What the result of a start says of an interrupted run. -/
theorem settles_of_interrupted {r : Except Error Unit} (hstart : Start.Holds s (.done r))
    (hstarted : trail.started = some r) (hshutdown : trail.shutdown = true) :
    Settles trail (interruptedOutcome r) := by
  match r with
  | .ok () => exact .of_shutdown (.inl hstarted) hshutdown
  | .error e =>
    unfold interruptedOutcome
    dsimp only
    split
    · next he =>
      cases he
      exact .of_shutdown (.inr hstarted) hshutdown
    · next hne =>
      exact .of_failure hstarted fun hown => hne (hstart.excused e rfl hown).1

theorem holds_join {start : Progress (Start σ) (Except Error Unit)}
    {stop : Progress Stop (Except Error Unit)} (hinterval : c.watchInterval ≠ 0)
    (h : HoldsAt ⟨s, .again c, trail⟩ (.interrupted start stop)) :
    Holds ⟨(c.join start stop s).2, (c.join start stop s).1, trail⟩ := by
  obtain ⟨hstart, hstop, hstarted, hstopped, hshutdown⟩ := id h
  match start, stop with
  | .again start', _ => exact ⟨hinterval, h⟩
  | .done r, .again stop' => exact ⟨hinterval, h⟩
  | .done r, .done r' =>
    have hsettles := settles_of_interrupted hstart hstarted hshutdown
    exact ⟨_, rfl, Settles.ended (x := ⟨s, _, trail⟩) hsettles hstop hstopped⟩

/-- The start of an interrupted run goes on. -/
theorem holds_interrupted_start (hhost : host.KeepsErrors)
    {start : Progress (Start σ) (Except Error Unit)} {stop : Progress Stop (Except Error Unit)}
    (hinterval : c.watchInterval ≠ 0)
    (hstage : c.stage = .interrupted start stop)
    (hfirst : (choice.startFirst || isNew start) = true)
    (h : HoldsAt x (.interrupted start stop)) :
    Holds (x.goOn host choice shutdown c) := by
  obtain ⟨hstart, hstop, hstarted, hstopped, hshutdown⟩ := h
  have htrail : x.trail.after host choice shutdown c x.session =
      { x.trail with started := (stepStart host choice.notice start x.session).1.result? } := by
    unfold Trail.after startThatGoes stopThatGoes looks heedsShutdown stepStart
    rw [hstage]
    match start, stop with
    | .again start', .again stop' => simp [hfirst, hstarted, Progress.result?]
    | .again start', .done r' => simp [hfirst, hstarted, Progress.result?]
    | .done r, .again stop' => simp [hfirst, hstarted, Progress.result?]
    | .done r, .done r' => simp [hstarted, Progress.result?]
  have hboth : Start.Holds (stepStart host choice.notice start x.session).2
      (stepStart host choice.notice start x.session).1 ∧
      Stop.Holds (stepStart host choice.notice start x.session).2 stop := by
    match start, hstart with
    | .again start', hstart =>
      exact ⟨hstart.step hhost hstop choice.notice,
        hstop.beside (start'.beside_step host choice.notice x.session)⟩
    | .done r, hstart => exact ⟨hstart, hstop⟩
  unfold Run.goOn Foreground.step
  rw [htrail, hstage]
  dsimp only
  rw [if_pos hfirst]
  exact holds_join hinterval ⟨hboth.1, hboth.2, rfl, hstopped, hshutdown⟩

/-- The stop of an interrupted run goes on. -/
theorem holds_interrupted_stop {start : Progress (Start σ) (Except Error Unit)}
    {stop : Progress Stop (Except Error Unit)} (hinterval : c.watchInterval ≠ 0)
    (hstage : c.stage = .interrupted start stop)
    (hlater : (choice.startFirst || isNew start) = false)
    (h : HoldsAt x (.interrupted start stop)) :
    Holds (x.goOn host choice shutdown c) := by
  obtain ⟨hstart, hstop, hstarted, hstopped, hshutdown⟩ := h
  have hnew : isNew start = false := (Bool.or_eq_false_iff.mp hlater).2
  have htrail : x.trail.after host choice shutdown c x.session =
      { x.trail with stopped := (stepStop host stop x.session).1.result? } := by
    unfold Trail.after startThatGoes stopThatGoes looks heedsShutdown stepStop
    rw [hstage]
    match start, stop with
    | .again start', .again stop' => simp [hlater, hstopped, Progress.result?]
    | .again start', .done r' => simp [hlater, hstopped, Progress.result?]
    | .done r, .again stop' => simp [hlater, hstopped, Progress.result?]
    | .done r, .done r' => simp [hstopped, Progress.result?]
  have hboth : Start.Holds (stepStop host stop x.session).2 start ∧
      Stop.Holds (stepStop host stop x.session).2 (stepStop host stop x.session).1 := by
    match stop, hstop with
    | .again stop', hstop =>
      obtain ⟨hstop', hends⟩ := hstop.step host
      exact ⟨hstart.beside_stop hnew hends, hstop'⟩
    | .done r, hstop => exact ⟨hstart, hstop⟩
  unfold Run.goOn Foreground.step
  rw [htrail, hstage]
  dsimp only
  rw [if_neg (Bool.not_eq_true _ ▸ hlater)]
  exact holds_join hinterval ⟨hboth.1, hboth.2, hstarted, rfl, hshutdown⟩

theorem holds_interrupted (hhost : host.KeepsErrors)
    {start : Progress (Start σ) (Except Error Unit)} {stop : Progress Stop (Except Error Unit)}
    (hinterval : c.watchInterval ≠ 0)
    (hstage : c.stage = .interrupted start stop) (h : HoldsAt x (.interrupted start stop)) :
    Holds (x.goOn host choice shutdown c) := by
  cases hfirst : choice.startFirst || isNew start with
  | true => exact holds_interrupted_start hhost hinterval hstage hfirst h
  | false => exact holds_interrupted_stop hinterval hstage hfirst h

/-- What happens outside changes nothing about it. -/
theorem Holds.outside (h : Holds x) (passed : Duration) (change : σ → σ) :
    Holds (x.step host (.outside passed change)) := by
  have hbeside := x.session.beside_outside passed change
  unfold Holds at h ⊢
  show match x.call with | .again c => _ | .done ending => _
  cases hcall : x.call with
  | again c =>
    rw [hcall] at h
    refine ⟨h.1, ?_⟩
    have hat := h.2
    cases hstage : c.stage with
    | starting start =>
      rw [hstage] at hat
      exact ⟨⟨hat.1.fits, hat.1.isNew, hat.1.excused⟩, hat.2.1.beside hbeside, hat.2.2⟩
    | watching due =>
      rw [hstage] at hat
      exact ⟨hat.1, hat.2.1.beside hbeside, hat.2.2⟩
    | closing outcome stop =>
      rw [hstage] at hat
      exact ⟨hat.1.beside hbeside, hat.2⟩
    | interrupted start stop =>
      rw [hstage] at hat
      exact ⟨⟨hat.1.fits, hat.1.isNew, hat.1.excused⟩, hat.2.1.beside hbeside, hat.2.2⟩
  | done ending =>
    rw [hcall] at h
    obtain ⟨result, hresult, he⟩ := h
    exact ⟨result, hresult, he.phase, he.called, he.empty, he.stopFailed, he.startFailed,
      he.succeeded, he.gaveUp, he.shutdown, he.exited, he.foreign⟩

theorem Holds.step (hhost : host.KeepsErrors) (h : Holds x) (m : Run.Move σ) :
    Holds (x.step host m) := by
  cases m with
  | goes choice shutdown =>
    unfold Run.step
    dsimp only
    split
    · next c hcall =>
      unfold Holds at h
      rw [hcall] at h
      obtain ⟨hinterval, hat⟩ := h
      cases hstage : c.stage with
      | starting start =>
        rw [hstage] at hat
        exact holds_starting hhost hstage hinterval hat
      | watching due =>
        rw [hstage] at hat
        exact holds_watching hinterval hstage hat
      | closing outcome stop =>
        rw [hstage] at hat
        exact holds_closing hinterval hstage hat
      | interrupted start stop =>
        rw [hstage] at hat
        exact holds_interrupted hhost hinterval hstage hat
    · exact h
  | outside passed change => exact h.outside passed change

theorem Holds.run (hhost : host.KeepsErrors) (h : Holds x) (ms : List (Run.Move σ)) :
    Holds (x.run host ms) := by
  induction ms generalizing x with
  | nil => exact h
  | cons m ms ih => exact ih (h.step hhost m)

end Step

theorem holds_new (world : σ) (now : Instant) (config : LaunchConfig)
    (probes : PerComponent (Probe σ)) {watchInterval : Duration} (h : watchInterval ≠ 0) :
    Holds (.new world now config probes watchInterval) := by
  have hopen : ¬ Phase.idle.Ends := by simp [Phase.Ends]
  refine ⟨h, ⟨fun _ => rfl, fun _ => hopen, ?_⟩, ⟨hopen, rfl, rfl⟩, rfl, rfl⟩
  intro e he
  cases he

/-- A foreground run that comes to its end returns, with its session stopped and a result that
follows from what has come of its start, of its last look and of its stop. -/
theorem run_ends_stopped (hhost : host.KeepsErrors) {world : σ} {now : Instant}
    {config : LaunchConfig}
    {probes : PerComponent (Probe σ)} {watchInterval : Duration} {ms : List (Run.Move σ)}
    {x : Run σ} {ending : RunEnding} (hinterval : watchInterval ≠ 0)
    (hx : (Run.new world now config probes watchInterval).run host ms = x)
    (hend : x.call = .done ending) : ∃ result, ending = .returned result ∧ Ended x result := by
  have hholds : Holds x := hx ▸ Holds.run hhost (holds_new world now config probes hinterval) ms
  unfold Holds at hholds
  rwa [hend] at hholds

section Example

open Scripted

/-- A run on a machine whose search engine ignores every signal and whose connectors are missing. -/
def brokenRun : Run World :=
  .new Interleaving.brokenSession.supervisor.world 0 hasty (.const .always) 1

/-- The start fails, and the shutdown is requested while it is taken back. -/
def shutDownInRollBack : List (Run.Move World) :=
  List.replicate 6 (.goes {} false) ++ [.goes {} true] ++ List.replicate 4 (.goes {} false) ++
    List.replicate 7 (.goes { startFirst := false } false) ++ [.outside exitPollInterval id] ++
    List.replicate 2 (.goes {} false) ++ List.replicate 2 (.goes { startFirst := false } false)

theorem stop_outweighs_failed_start :
    ∃ x failures, brokenRun.run plainHost shutDownInRollBack = x ∧
      x.call = .done (.returned (.error (.termination failures))) ∧
      x.trail.started = some (.error (.launch .connectorRuntime ⟨"run"⟩ .notFound)) ∧
      x.trail.stopped = some (.error (.termination failures)) ∧ x.trail.shutdown = true ∧
      x.session.phase = .stopped ∧ Ended x (.error (.termination failures)) := by
  have hend : (brokenRun.run plainHost shutDownInRollBack).call = .done (.returned
      (.error (.termination [Termination.failureOf .searchEngine (.ofNat 101)]))) := rfl
  obtain ⟨result, hresult, hended⟩ := run_ends_stopped keepsErrors_plain (by decide) rfl hend
  cases hresult
  exact ⟨_, _, rfl, hend, rfl, rfl, rfl, hended.phase, hended⟩

end Example

end Foreground

end Launchpad
