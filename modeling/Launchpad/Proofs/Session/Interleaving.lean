import Launchpad.Proofs.Session.Steps
import Mathlib.Logic.Function.Basic

/-!
# Calls of a session beside each other

An `Interleaving` is a session with any number of starts and stops, each of them where it stands. A
move lets one of them go on by a step, reports, or lets something happen on the machine; a run is any
list of moves. No step of a call waits for anything, so that these are all orders in which the calls
can go on between their waits. A move of a call that has returned changes nothing.

What holds of all runs on any host: a session that has been shut stays so, and none that has left
the idle phase is idle again (`Session.Onward`).
-/

namespace Launchpad

open Supervisor

variable {σ : Type} {host : Host σ}

/-- Whether a phase is one of the last two, of a session that a stop has been called for. -/
def Phase.Ends (p : Phase) : Prop := p = .stopping ∨ p = .stopped

namespace Session

variable {s s' s'' : Session σ}

/-- The ways that are never gone back. -/
structure Onward (s s' : Session σ) : Prop where
  closed : s.supervisor.closed = true → s'.supervisor.closed = true
  ends : s.phase.Ends → s'.phase.Ends
  begun : s'.phase.Ends → s.phase.Ends ∨ s'.supervisor.closed = true
  cancelled : s'.cancelled = true → s.cancelled = true ∨ s'.phase.Ends
  stopped : s.phase = .stopped → s'.phase = .stopped
  idle : s'.phase = .idle → s.phase = .idle

theorem Onward.refl (s : Session σ) : Onward s s := ⟨id, id, .inl, .inl, id, id⟩

theorem Onward.of_phase (hc : s.supervisor.closed = true → s'.supervisor.closed = true)
    (hp : s'.phase = s.phase) (hcancelled : s'.cancelled = s.cancelled) : Onward s s' :=
  ⟨hc, (hp ▸ ·), fun h => .inl (hp ▸ h), fun h => .inl (hcancelled ▸ h), hp.trans, hp.symm.trans⟩

/-- From one phase to another that are both before a stop. -/
theorem Onward.of_open (hc : s.supervisor.closed = true → s'.supervisor.closed = true)
    (hp : ¬ s.phase.Ends) (hp' : ¬ s'.phase.Ends) (hcancelled : s'.cancelled = s.cancelled)
    (hidle : s'.phase = .idle → s.phase = .idle) : Onward s s' :=
  ⟨hc, fun h => absurd h hp, fun h => absurd h hp', fun h => .inl (hcancelled ▸ h),
    fun h => absurd (.inr h) hp, hidle⟩

theorem Quiet.onward (h : Quiet s s') : Onward s s' := .of_phase h.closed h.phase h.cancelled

/-- Whether a report may lead from one phase to the other. -/
def Ages (phase phase' : Phase) : Prop :=
  phase' = phase ∨ ((phase = .running ∨ ∃ exited, phase = .degraded exited) ∧
    ∃ exited, phase' = .degraded exited)

theorem ages_phaseAfter (phase : Phase) (components : List ComponentStatus) :
    Ages phase (phaseAfter phase components) := by
  unfold phaseAfter
  dsimp only
  split
  · split
    · exact .inl rfl
    · exact .inr ⟨.inl rfl, _, rfl⟩
  · split
    · exact .inl rfl
    · exact .inr ⟨.inr ⟨_, rfl⟩, _, rfl⟩
  · exact .inl rfl

theorem Onward.of_ages (hc : s.supervisor.closed = true → s'.supervisor.closed = true)
    (hp : Ages s.phase s'.phase) (hcancelled : s'.cancelled = s.cancelled) : Onward s s' := by
  rcases hp with hp | ⟨hp, exited, hp'⟩
  · exact .of_phase hc hp hcancelled
  · refine .of_open hc ?_ ?_ hcancelled ?_
    · rcases hp with hp | ⟨_, hp⟩ <;> simp [hp, Phase.Ends]
    · simp [hp', Phase.Ends]
    · simp [hp']

end Session

theorem Start.Does.onward {notice : Bool} {c : Start σ} {s s' : Session σ}
    {p : Progress (Start σ) (Except Error Unit)} (hd : c.Does host notice s p s') :
    s.Onward s' := by
  cases hd with
  | conflicts => exact .refl s
  | refuses => exact .refl s
  | begins _ hphase _ hquiet _ =>
    refine .of_open hquiet.closed ?_ ?_ hquiet.cancelled fun _ => hphase
    · simp [hphase, Phase.Ends]
    · simp [hquiet.phase, letIn, Phase.Ends]
  | fails _ hquiet => exact hquiet.onward
  | waitsForJava => exact .refl s
  | acceptsJava => exact .refl s
  | launches _ _ hext _ _ => exact .of_phase (fun hc => (hext.closed hc).1) rfl rfl
  | awaits _ _ hquiet => exact hquiet.onward
  | advances _ _ hquiet => exact hquiet.onward
  | completes _ hphase hsteady _ =>
    refine .of_open hsteady.closed ?_ ?_ rfl nofun <;> simp [hphase, Phase.Ends]
  | comesLate _ _ hquiet => exact hquiet.onward
  | opensBrowser _ hquiet => exact hquiet.onward
  | @rollsBack e w w' supervisor _ hstep =>
    have hdoes := w.step_does host s.supervisor
    rw [hstep] at hdoes
    have hs := hdoes.startsNothing
    exact .of_phase hs.closed rfl rfl
  | @rolledBack e w r supervisor _ hstep =>
    have hdoes := w.step_does host s.supervisor
    rw [hstep] at hdoes
    have hs := hdoes.startsNothing
    unfold leaveStarting
    dsimp only
    split
    · next hphase => refine .of_open hs.closed ?_ ?_ rfl nofun <;> simp [hphase, Phase.Ends]
    · exact .of_phase hs.closed rfl rfl

theorem Stop.Does.onward {c : Stop} {s s' : Session σ} {p : Progress Stop (Except Error Unit)}
    (hd : c.Does host s p s') (hbegun : c ≠ .entry → s.phase.Ends) : s.Onward s' := by
  cases hd with
  | findsStopped => exact .refl s
  | conflicts => exact .refl s
  | shuts _ hstopped hstopping =>
    exact ⟨fun _ => rfl, fun _ => .inl rfl, fun _ => .inr rfl, fun _ => .inr (.inl rfl),
      fun h => absurd h hstopped, nofun⟩
  | @sweeps w w' supervisor _ hstep =>
    have hdoes := w.step_does host s.supervisor
    rw [hstep] at hdoes
    have hs := hdoes.startsNothing
    exact .of_phase hs.closed rfl rfl
  | @swept w r supervisor hcall hstep =>
    have hdoes := w.step_does host s.supervisor
    rw [hstep] at hdoes
    have hs := hdoes.startsNothing
    have hends : s.phase.Ends := hbegun (by simp [hcall])
    exact ⟨hs.closed, fun _ => .inr rfl, fun _ => .inl hends, fun _ => .inr (.inr rfl),
      fun _ => rfl, nofun⟩

/-- Calls of a session. Starts and stops are numbered in any way. -/
structure Interleaving (σ : Type) where
  session : Session σ
  starts : Nat → Progress (Start σ) (Except Error Unit)
  stops : Nat → Progress Stop (Except Error Unit)

namespace Interleaving

inductive Move (σ : Type) where
  /-- A start goes on; `notice` tells whether a wait that has been cancelled notices it. -/
  | start (i : Nat) (notice : Bool)
  | stop (i : Nat)
  | status
  /-- Time passes, and the machine is not the same afterwards. -/
  | outside (passed : Duration) (change : σ → σ)

abbrev supervisor (x : Interleaving σ) : Supervisor σ := x.session.supervisor

/-- A session of which nothing has happened yet. Every start has a configuration of its own. -/
def new (world : σ) (now : Instant) (config : Nat → LaunchConfig)
    (probes : Nat → PerComponent (Probe σ)) : Interleaving σ where
  session := { supervisor := { world, now } }
  starts i := .again { config := config i, probes := probes i }
  stops _ := .again .entry

def step (host : Host σ) (m : Move σ) (x : Interleaving σ) : Interleaving σ :=
  match m with
  | .start i notice =>
    match x.starts i with
    | .again c =>
      let (p, session) := c.step host notice x.session
      { x with session, starts := Function.update x.starts i p }
    | .done _ => x
  | .stop i =>
    match x.stops i with
    | .again c =>
      let (p, session) := c.step host x.session
      { x with session, stops := Function.update x.stops i p }
    | .done _ => x
  | .status => { x with session := (x.session.status host).2 }
  | .outside passed change =>
    let s := x.supervisor
    let supervisor := { s with now := s.now + passed, world := change s.world }
    { x with session := { x.session with supervisor } }

def run (host : Host σ) (x : Interleaving σ) (ms : List (Move σ)) : Interleaving σ :=
  ms.foldl (fun x m => x.step host m) x

variable {x y : Interleaving σ} {m : Move σ} {ms ms' : List (Move σ)} {i j : Nat}

@[simp] theorem run_append (host : Host σ) (x : Interleaving σ) (ms ms' : List (Move σ)) :
    x.run host (ms ++ ms') = (x.run host ms).run host ms' := List.foldl_append

theorem run_concat (host : Host σ) (x : Interleaving σ) (ms : List (Move σ)) (m : Move σ) :
    x.run host (ms ++ [m]) = (x.run host ms).step host m := run_append host x ms [m]

/-! ## The past of a run -/

/-- Whether a move of a run met a condition, on what it found. -/
def Happened (host : Host σ) (x : Interleaving σ) (ms : List (Move σ))
    (P : Interleaving σ → Move σ → Prop) : Prop :=
  ∃ before m after, ms = before ++ m :: after ∧ P (x.run host before) m

theorem Happened.append {P : Interleaving σ → Move σ → Prop} (h : Happened host x ms P)
    (ms' : List (Move σ)) : Happened host x (ms ++ ms') P := by
  obtain ⟨before, m, after, rfl, hm⟩ := h
  exact ⟨before, m, after ++ ms', by simp, hm⟩

theorem happened_concat {P : Interleaving σ → Move σ → Prop} (h : P (x.run host ms) m) :
    Happened host x (ms ++ [m]) P := ⟨ms, m, [], rfl, h⟩

/-- A move of a run is the last one or one before it. -/
theorem split_concat {before after : List (Move σ)} {m' : Move σ}
    (h : ms ++ [m] = before ++ m' :: after) :
    before = ms ∧ m' = m ∨ ∃ after', ms = before ++ m' :: after' := by
  rcases List.eq_nil_or_concat after with rfl | ⟨after', m'', rfl⟩
  · obtain ⟨rfl, hm⟩ := List.append_inj' h rfl
    exact .inl ⟨rfl, (List.singleton_inj.mp hm).symm⟩
  · have h' : ms ++ [m] = (before ++ m' :: after') ++ [m''] := by simpa using h
    exact .inr ⟨after', (List.append_inj' h' rfl).1⟩

/-! ## Moves -/

/-- A call is the one that has gone on, or stands where it was. -/
theorem update_eq {α : Type} {f : Nat → α} {a b : α} (h : Function.update f i a j = b) :
    j = i ∧ a = b ∨ j ≠ i ∧ f j = b := by
  by_cases hj : j = i
  · subst hj
    rw [Function.update_self] at h
    exact .inl ⟨rfl, h⟩
  · rw [Function.update_of_ne hj] at h
    exact .inr ⟨hj, h⟩

inductive Does (host : Host σ) (x : Interleaving σ) : Move σ → Interleaving σ → Prop
  | start {i : Nat} {notice : Bool} {c : Start σ} {p : Progress (Start σ) (Except Error Unit)}
      {session : Session σ} (hcall : x.starts i = .again c)
      (hdoes : c.Does host notice x.session p session) :
      Does host x (.start i notice) { x with session, starts := Function.update x.starts i p }
  | stop {i : Nat} {c : Stop} {p : Progress Stop (Except Error Unit)} {session : Session σ}
      (hcall : x.stops i = .again c) (hdoes : c.Does host x.session p session) :
      Does host x (.stop i) { x with session, stops := Function.update x.stops i p }
  /-- The call has returned. -/
  | idles {m : Move σ} : Does host x m x
  | reports {session : Session σ} (hsteady : Steady x.supervisor session.supervisor)
      (hages : Session.Ages x.session.phase session.phase)
      (hcancelled : session.cancelled = x.session.cancelled) :
      Does host x .status { x with session }
  | passes {passed : Duration} {change : σ → σ} {supervisor : Supervisor σ}
      (hsteady : Steady x.supervisor supervisor) :
      Does host x (.outside passed change) { x with session := { x.session with supervisor } }

theorem step_does (host : Host σ) (m : Move σ) (x : Interleaving σ) :
    Does host x m (x.step host m) := by
  cases m with
  | start i notice =>
    unfold step
    dsimp only
    split
    · next c hcall => exact .start hcall (c.step_does host notice x.session)
    · exact .idles
  | stop i =>
    unfold step
    dsimp only
    split
    · next c hcall => exact .stop hcall (c.step_does host x.session)
    · exact .idles
  | status =>
    exact .reports (steady_refresh host x.supervisor) (Session.ages_phaseAfter _ _) rfl
  | outside passed change => exact .passes (steady_world x.supervisor _ _)

theorem step_start {notice : Bool} {c : Start σ} (hcall : x.starts i = .again c) :
    x.step host (.start i notice) =
      { x with
        session := (c.step host notice x.session).2
        starts := Function.update x.starts i (c.step host notice x.session).1 } := by
  unfold step
  dsimp only
  rw [hcall]

/-! ## Runs on any host -/

/-- A stop that has begun has closed the session or found it closed. -/
structure Heeded (x : Interleaving σ) : Prop where
  closed : x.session.phase.Ends → x.supervisor.closed = true
  cancelled : x.session.cancelled = true → x.session.phase.Ends
  begun : ∀ i, x.stops i ≠ .again .entry → x.session.phase.Ends

theorem heeded_new (world : σ) (now : Instant) (config : Nat → LaunchConfig)
    (probes : Nat → PerComponent (Probe σ)) : (new world now config probes).Heeded :=
  ⟨by simp [new, Phase.Ends], nofun, fun _ h => absurd rfl h⟩

theorem Heeded.begun_of_again (hx : x.Heeded) {c : Stop} (hcall : x.stops i = .again c)
    (hc : c ≠ .entry) : x.session.phase.Ends :=
  hx.begun i (by simpa [hcall] using hc)

theorem Does.onward (hd : Does host x m y) (hx : x.Heeded) : x.session.Onward y.session := by
  cases hd with
  | start _ hdoes => exact hdoes.onward
  | stop hcall hdoes => exact hdoes.onward (hx.begun_of_again hcall)
  | idles => exact .refl x.session
  | reports hsteady hages hcancelled => exact .of_ages hsteady.closed hages hcancelled
  | passes hsteady => exact .of_phase hsteady.closed rfl rfl

theorem Does.heeded (hd : Does host x m y) (hx : x.Heeded) : y.Heeded := by
  have hon := hd.onward hx
  refine ⟨fun h => ?_, fun h => ?_, ?_⟩
  · exact (hon.begun h).elim (fun h => hon.closed (hx.closed h)) id
  · exact (hon.cancelled h).elim (fun h => hon.ends (hx.cancelled h)) id
  · cases hd with
    | start => exact fun i hne => hon.ends (hx.begun i hne)
    | @stop i c p session hcall hdoes =>
      intro j hne
      by_cases hj : j = i
      · subst hj
        cases hdoes with
        | findsStopped _ hphase => exact .inr hphase
        | conflicts _ hphase => exact .inl hphase
        | shuts => exact .inl rfl
        | sweeps hc => exact hon.ends (hx.begun_of_again hcall (by simp [hc]))
        | swept => exact .inr rfl
      · exact hon.ends (hx.begun j (by simpa [hj] using hne))
    | idles => exact hx.begun
    | reports => exact fun i hne => hon.ends (hx.begun i hne)
    | passes => exact fun i hne => hon.ends (hx.begun i hne)

/-- A closed supervisor starts nothing. -/
theorem Does.of_closed (hd : Does host x m y) (hc : x.supervisor.closed = true) :
    StartsNothing x.supervisor y.supervisor := by
  cases hd with
  | start _ hdoes =>
    refine hdoes.spawns.resolve_right ?_
    rintro ⟨_, _, _, _, _, _, hopen, _⟩
    exact absurd (hopen.symm.trans hc) Bool.false_ne_true
  | stop _ hdoes => exact hdoes.startsNothing
  | idles => exact .refl x.supervisor
  | reports hsteady => exact hsteady.toStartsNothing
  | passes hsteady => exact hsteady.toStartsNothing

/-- What every step keeps, every run keeps. -/
theorem run_keeps {P : Interleaving σ → Prop} (hstep : ∀ x m, P x → P (x.step host m)) (h : P x)
    (ms : List (Move σ)) : P (x.run host ms) := by
  induction ms generalizing x with
  | nil => exact h
  | cons m ms ih => exact ih (hstep x m h)

/-- A start that has returned does not go on. -/
theorem Does.starts_done (hd : Does host x m y) {r : Except Error Unit}
    (h : x.starts i = .done r) : y.starts i = .done r := by
  cases hd with
  | @start j notice c p session hcall hdoes =>
    have hj : i ≠ j := by
      rintro rfl
      cases hcall.symm.trans h
    exact (Function.update_of_ne hj ..).trans h
  | stop => exact h
  | idles => exact h
  | reports => exact h
  | passes => exact h

theorem startsNothing_run (hc : x.supervisor.closed = true) (host : Host σ) (ms : List (Move σ)) :
    StartsNothing x.supervisor (x.run host ms).supervisor := by
  refine run_keeps (fun y m (hy : StartsNothing x.supervisor y.supervisor) => ?_)
    (.refl x.supervisor) ms
  exact hy.trans ((step_does host m y).of_closed (hy.closed hc))

theorem Heeded.run (hx : x.Heeded) (host : Host σ) (ms : List (Move σ)) : (x.run host ms).Heeded :=
  run_keeps (fun x m hx => (step_does host m x).heeded hx) hx ms

end Interleaving

end Launchpad
