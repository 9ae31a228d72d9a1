import Launchpad.Proofs.Session.RollBack

/-!
# The phases of a session

Whatever starts, stops and reports go on beside each other, a session goes from phase to phase only
in the ways of `Phase.Leads`. One start at most lets it begin, one stop at most ends its processes,
and a start that a stop has overtaken has no say any more (`phases_in_order`).

The phase is used under a lock of its own, and between two uses of it anything may happen to the
rest of the session. So the runs of this module are wider than those of moves alone: a `Turn` is a
move, any change that leaves the phase as it is, or the end of a report on components that were
looked at some time before. What carries the results is `Ruled`: only one stop at a time ends the
processes, and the session is stopping then.
-/

namespace Launchpad

variable {σ : Type} {host : Host σ}

/-- The ways from one phase to the next. -/
inductive Phase.Leads : Phase → Phase → Prop
  | begins : Leads .idle .starting
  | succeeds : Leads .starting .running
  | fails (reason : String) : Leads .starting (.failed reason)
  | degrades (exited : List Component) : Leads .running (.degraded exited)
  | degradesMore (exited exited' : List Component) : Leads (.degraded exited) (.degraded exited')
  | shuts {p : Phase} (h : ¬ p.Ends) : Leads p .stopping
  | stops : Leads .stopping .stopped

/-! ## What a step does to the phase -/

/-- A start uses the phase to begin, and to tell how it has gone while the session is starting. -/
theorem Start.Does.phase {notice : Bool} {c : Start σ} {s s' : Session σ}
    {p : Progress (Start σ) (Except Error Unit)} (hd : c.Does host notice s p s') :
    s'.phase = s.phase ∨ (s.phase = .idle ∧ s'.phase = .starting) ∨
      (s.phase = .starting ∧ (s'.phase = .running ∨ ∃ reason, s'.phase = .failed reason)) := by
  cases hd with
  | conflicts => exact .inl rfl
  | refuses => exact .inl rfl
  | begins _ hphase _ hquiet _ => exact .inr (.inl ⟨hphase, hquiet.phase⟩)
  | fails _ hquiet => exact .inl hquiet.phase
  | waitsForJava => exact .inl rfl
  | acceptsJava => exact .inl rfl
  | launches => exact .inl rfl
  | awaits _ _ hquiet => exact .inl hquiet.phase
  | advances _ _ hquiet => exact .inl hquiet.phase
  | completes _ hphase => exact .inr (.inr ⟨hphase, .inl rfl⟩)
  | comesLate _ _ hquiet => exact .inl hquiet.phase
  | opensBrowser _ hquiet => exact .inl hquiet.phase
  | rollsBack => exact .inl rfl
  | @rolledBack e =>
    unfold leaveStarting
    split
    · next hphase => exact .inr (.inr ⟨hphase, .inr ⟨e.message, rfl⟩⟩)
    · exact .inl rfl

/-- The phase of a session that a stop has been called for is out of reach of a start. -/
theorem Start.Does.phase_of_ends {notice : Bool} {c : Start σ} {s s' : Session σ}
    {p : Progress (Start σ) (Except Error Unit)} (hd : c.Does host notice s p s')
    (hends : s.phase.Ends) : s'.phase = s.phase := by
  rcases hd.phase with h | ⟨h, -⟩ | ⟨h, -⟩
  · exact h
  · rcases hends with h' | h' <;> cases h.symm.trans h'
  · rcases hends with h' | h' <;> cases h.symm.trans h'

theorem Session.Ages.eq_of_ends {p p' : Phase} (h : Ages p p') (hends : p.Ends) : p' = p := by
  rcases h with h | ⟨h | ⟨exited, h⟩, -⟩
  · exact h
  · rcases hends with h' | h' <;> cases h.symm.trans h'
  · rcases hends with h' | h' <;> cases h.symm.trans h'

/-- A stop that comes too late has no effect, and tells whether the session is still stopping. -/
theorem Stop.step_of_stopped (host : Host σ) {s : Session σ} (h : s.phase = .stopped) :
    Stop.entry.step host s = (.done (.ok ()), s) := by
  unfold step enter
  rw [h]

theorem Stop.step_of_stopping (host : Host σ) {s : Session σ} (h : s.phase = .stopping) :
    Stop.entry.step host s = (.done (.error (.phaseConflict .stopping "stop")), s) := by
  unfold step enter
  rw [h]

namespace Interleaving

/-! ## Turns -/

/-- What can happen between two uses of the phase, and what uses it. -/
inductive Turn (σ : Type) where
  | move (m : Move σ)
  /-- Something happens to the session beside its phase. -/
  | beside (change : Session σ → Session σ)
  /-- A report tells the phase of components that may have changed since. -/
  | tells (components : List ComponentStatus)

variable {x y : Interleaving σ} {m : Move σ} {i j : Nat}

def turn (host : Host σ) (t : Turn σ) (x : Interleaving σ) : Interleaving σ :=
  match t with
  | .move m => x.step host m
  | .beside change =>
    { x with session := { change x.session with phase := x.session.phase } }
  | .tells components =>
    { x with session := { x.session with
        phase := Session.phaseAfter x.session.phase components } }

def turns (host : Host σ) (x : Interleaving σ) (ts : List (Turn σ)) : Interleaving σ :=
  ts.foldl (fun x t => x.turn host t) x

/-- What every turn keeps is kept for good. -/
theorem turns_keep {P : Interleaving σ → Prop} (hturn : ∀ x t, P x → P (x.turn host t)) (h : P x)
    (ts : List (Turn σ)) : P (x.turns host ts) := by
  induction ts generalizing x with
  | nil => exact h
  | cons t ts ih => exact ih (hturn x t h)

/-- Whether a stop is ending the processes. -/
def Sweeps (i : Nat) (x : Interleaving σ) : Prop := ∃ w, x.stops i = .again (.sweeping w)

/-- One stop at a time ends the processes of a session, which is stopping meanwhile. -/
structure Ruled (x : Interleaving σ) : Prop where
  stopping : ∀ i, x.Sweeps i → x.session.phase = .stopping
  one : ∀ i j, x.Sweeps i → x.Sweeps j → i = j

theorem ruled_new (world : σ) (now : Instant) (config : Nat → LaunchConfig)
    (probes : Nat → PerComponent (Probe σ)) : (new world now config probes).Ruled := by
  have hnone (i : Nat) : ¬ (new world now config probes).Sweeps i := by
    rintro ⟨w, hw⟩
    cases hw
  exact ⟨fun i h => absurd h (hnone i), fun i _ h => absurd h (hnone i)⟩

/-- Nothing is lost as long as no other stop begins to end the processes. -/
theorem Ruled.of_sweeps (hx : x.Ruled) (hsub : ∀ j, y.Sweeps j → x.Sweeps j)
    (hphase : x.session.phase = .stopping → y.session.phase = .stopping) : y.Ruled :=
  ⟨fun j h => hphase (hx.stopping j (hsub j h)),
    fun j k hj hk => hx.one j k (hsub j hj) (hsub k hk)⟩

theorem sweeps_of_stops (hstops : y.stops = x.stops) (h : y.Sweeps j) : x.Sweeps j := by
  unfold Sweeps at h ⊢
  rwa [← hstops]

/-- What becomes of the sweeping stops when one of them goes on. -/
theorem sweeps_update {p : Progress Stop (Except Error Unit)} {session : Session σ}
    (h : Sweeps j { x with session, stops := Function.update x.stops i p }) :
    j = i ∧ (∃ w, p = .again (.sweeping w)) ∨ j ≠ i ∧ x.Sweeps j := by
  obtain ⟨w, hw⟩ := h
  rcases update_eq hw with ⟨hj, hp⟩ | ⟨hj, hw⟩
  · exact .inl ⟨hj, w, hp⟩
  · exact .inr ⟨hj, w, hw⟩

/-- The phase stays, or leads to the next one. -/
def Steps (x y : Interleaving σ) : Prop :=
  y.session.phase = x.session.phase ∨ x.session.phase.Leads y.session.phase

theorem steps_of_ages (h : Session.Ages x.session.phase y.session.phase) : x.Steps y := by
  rcases h with h | ⟨h | ⟨exited, h⟩, exited', h'⟩
  · exact .inl h
  all_goals
    refine .inr ?_
    rw [h, h']
  · exact .degrades exited'
  · exact .degradesMore exited exited'

theorem Does.steps (hd : Does host x m y) (hx : x.Ruled) : x.Steps y := by
  cases hd with
  | start _ hdoes =>
    rcases hdoes.phase with h | ⟨h, h'⟩ | ⟨h, h' | ⟨reason, h'⟩⟩
    · exact .inl h
    all_goals
      refine .inr ?_
      dsimp only
      rw [h, h']
    · exact .begins
    · exact .succeeds
    · exact .fails reason
  | stop hcall hdoes =>
    cases hdoes with
    | findsStopped => exact .inl rfl
    | conflicts => exact .inl rfl
    | shuts _ hstopped hstopping => exact .inr (.shuts fun h => h.elim hstopping hstopped)
    | sweeps => exact .inl rfl
    | swept hc =>
      subst hc
      refine .inr ?_
      rw [hx.stopping _ ⟨_, hcall⟩]
      exact .stops
  | idles => exact .inl rfl
  | reports _ hages => exact steps_of_ages hages
  | passes => exact .inl rfl

theorem Does.ruled (hd : Does host x m y) (hx : x.Ruled) : y.Ruled := by
  have hbeside (hstops : y.stops = x.stops)
      (hphase : x.session.phase = .stopping → y.session.phase = .stopping) : y.Ruled :=
    hx.of_sweeps (fun _ => sweeps_of_stops hstops) hphase
  cases hd with
  | start _ hdoes => exact hbeside rfl fun h => (hdoes.phase_of_ends (.inl h)).trans h
  | @stop i c p session hcall hdoes =>
    -- A stop that has returned is no sweeping one, whatever it was before.
    have hdone {r : Except Error Unit} {session : Session σ} (j : Nat)
        (h : Sweeps j { x with session, stops := Function.update x.stops i (.done r) }) :
        j ≠ i ∧ x.Sweeps j := by
      rcases sweeps_update h with ⟨-, w, hw⟩ | h
      · cases hw
      · exact h
    cases hdoes with
    | findsStopped => exact hx.of_sweeps (fun j h => (hdone j h).2) id
    | conflicts => exact hx.of_sweeps (fun j h => (hdone j h).2) id
    | shuts _ _ hstopping =>
      have heq (j : Nat) (h : Sweeps j { x with
          session := Stop.shut x.session
          stops := Function.update x.stops i (.again (.sweeping
            (.start x.session.termination x.session.supervisor.close))) }) : j = i := by
        rcases sweeps_update h with ⟨h, -⟩ | ⟨-, h⟩
        · exact h
        · exact absurd (hx.stopping j h) hstopping
      exact ⟨fun _ _ => rfl, fun j k hj hk => (heq j hj).trans (heq k hk).symm⟩
    | sweeps hc =>
      subst hc
      refine hx.of_sweeps (fun j h => ?_) id
      rcases sweeps_update h with ⟨rfl, -⟩ | ⟨-, h⟩
      · exact ⟨_, hcall⟩
      · exact h
    | swept hc =>
      subst hc
      -- It was the only one.
      have hnone {j : Nat} (h : j ≠ i ∧ x.Sweeps j) : False := h.1 (hx.one j i h.2 ⟨_, hcall⟩)
      exact ⟨fun j h => (hnone (hdone j h)).elim, fun j _ h => (hnone (hdone j h)).elim⟩
  | idles => exact hx
  | reports _ hages => exact hbeside rfl fun h => (hages.eq_of_ends (.inl h)).trans h
  | passes => exact hbeside rfl id

theorem turn_steps (host : Host σ) (t : Turn σ) (hx : x.Ruled) : x.Steps (x.turn host t) := by
  cases t with
  | move m => exact (step_does host m x).steps hx
  | beside change => exact .inl rfl
  | tells components => exact steps_of_ages (Session.ages_phaseAfter _ components)

theorem turn_ruled (host : Host σ) (t : Turn σ) (hx : x.Ruled) : (x.turn host t).Ruled := by
  cases t with
  | move m => exact (step_does host m x).ruled hx
  | beside change => exact hx.of_sweeps (fun _ => sweeps_of_stops rfl) id
  | tells components =>
    have hages := Session.ages_phaseAfter x.session.phase components
    exact hx.of_sweeps (fun _ => sweeps_of_stops rfl) fun h => (hages.eq_of_ends (.inl h)).trans h

/-! ## Ways that are never gone back -/

theorem Steps.ne_idle (h : x.Steps y) (hx : x.session.phase ≠ .idle) :
    y.session.phase ≠ .idle := by
  rcases h with h | h
  · rwa [h]
  · intro hidle
    rw [hidle] at h
    generalize x.session.phase = p at h
    cases h

theorem Steps.ends (h : x.Steps y) (hx : x.session.phase.Ends) : y.session.phase.Ends := by
  rcases h with h | h
  · rwa [h]
  · generalize x.session.phase = p at h hx
    generalize y.session.phase = q at h
    cases h with
    | shuts => exact .inl rfl
    | stops => exact .inr rfl
    | _ => rcases hx with hx | hx <;> cases hx

theorem Steps.stopped (h : x.Steps y) (hx : x.session.phase = .stopped) :
    y.session.phase = .stopped := by
  rcases h with h | h
  · exact h.trans hx
  · rw [hx] at h
    generalize y.session.phase = q at h
    cases h with
    | shuts h => exact absurd (.inr rfl) h

/-- What is kept by every way from phase to phase is kept for good. -/
theorem Ruled.phase_turns {P : Phase → Prop} (hx : x.Ruled) (h : P x.session.phase)
    (hsteps : ∀ y z : Interleaving σ, y.Steps z → P y.session.phase → P z.session.phase)
    (host : Host σ) (ts : List (Turn σ)) : P (x.turns host ts).session.phase :=
  (turns_keep (P := fun y => y.Ruled ∧ P y.session.phase)
    (fun _ t hy => ⟨turn_ruled host t hy.1, hsteps _ _ (turn_steps host t hy.1) hy.2⟩) ⟨hx, h⟩ ts).2

/-- No other stop ends the processes while one does, nor after it. -/
structure Held (i : Nat) (x : Interleaving σ) : Prop extends x.Ruled where
  ends : x.session.phase.Ends
  only : ∀ j, x.Sweeps j → i = j

theorem Held.turn (hx : x.Held i) (host : Host σ) (t : Turn σ) : (x.turn host t).Held i := by
  refine ⟨turn_ruled host t hx.toRuled, (turn_steps host t hx.toRuled).ends hx.ends, ?_⟩
  cases t with
  | move m =>
    show ∀ j, (x.step host m).Sweeps j → i = j
    have hd := step_does host m x
    generalize x.step host m = y at hd
    cases hd with
    | start => exact fun j h => hx.only j (sweeps_of_stops rfl h)
    | @stop k c p session hcall hdoes =>
      intro j h
      rcases sweeps_update h with ⟨rfl, w, rfl⟩ | ⟨-, h⟩
      · cases hdoes with
        | shuts _ hstopped hstopping => exact absurd hx.ends fun h => h.elim hstopping hstopped
        | sweeps hc => exact hx.only j ⟨_, hc ▸ hcall⟩
      · exact hx.only j h
    | idles => exact hx.only
    | reports => exact fun j h => hx.only j (sweeps_of_stops rfl h)
    | passes => exact fun j h => hx.only j (sweeps_of_stops rfl h)
  | beside change => exact fun j h => hx.only j (sweeps_of_stops rfl h)
  | tells components => exact fun j h => hx.only j (sweeps_of_stops rfl h)

/-! ## The phases in order -/

/-- A turn lets the session begin. -/
def Begins (host : Host σ) (t : Turn σ) (x : Interleaving σ) : Prop :=
  x.session.phase ≠ .starting ∧ (x.turn host t).session.phase = .starting

/-- Only an idle session begins. -/
theorem Ruled.idle_of_begins (hx : x.Ruled) {t : Turn σ} (h : x.Begins host t) :
    x.session.phase = .idle := by
  rcases turn_steps host t hx with hsame | hleads
  · exact absurd (hsame.symm.trans h.2) h.1
  · rw [h.2] at hleads
    generalize x.session.phase = p at hleads
    cases hleads
    rfl

/-- What holds of a session at any time, of what can happen next and of what can happen later. -/
structure Orderly (host : Host σ) (x : Interleaving σ) : Prop where
  leads : ∀ t, (x.turn host t).session.phase ≠ x.session.phase →
    x.session.phase.Leads (x.turn host t).session.phase
  stopped : x.session.phase = .stopped → ∀ ts, (x.turns host ts).session.phase = .stopped
  beginsOnce : ∀ t ts t', x.Begins host t → ¬ (x.turns host (t :: ts)).Begins host t'
  /-- A start that is called for is refused by a session that is not idle, and with a configuration
  that is not valid. -/
  refusesStart : ∀ i c, x.starts i = .again c → c.stage = .entry →
    (x.session.phase ≠ .idle → Refuses c (.phaseConflict x.session.phase "start") x.session) ∧
    (∀ fault, x.session.phase = .idle → c.config.validate = .error fault →
      Refuses c (.configuration fault) x.session)
  /-- One stop at most ever ends the processes. -/
  sweepsOnce : ∀ i j ts, x.Sweeps i → (x.turns host ts).Sweeps j → i = j
  refusesStop : ∀ host' : Host σ,
    (x.session.phase = .stopped → Stop.entry.step host' x.session = (.done (.ok ()), x.session)) ∧
    (x.session.phase = .stopping → Stop.entry.step host' x.session =
      (.done (.error (.phaseConflict .stopping "stop")), x.session))
  /-- What becomes of a start that a stop has overtaken has no effect on the phase. -/
  overtaken : x.session.phase.Ends → ∀ ts i notice,
    ((x.turns host ts).turn host (.move (.start i notice))).session.phase =
      (x.turns host ts).session.phase

theorem Ruled.orderly (hx : x.Ruled) (host : Host σ) : x.Orderly host where
  leads t h := (turn_steps host t hx).resolve_left h
  stopped h := hx.phase_turns (P := (· = .stopped)) h (fun _ _ hs => hs.stopped) host
  beginsOnce t ts t' h h' := by
    have hbegun : (x.turn host t).session.phase ≠ .idle := by
      rw [h.2]
      exact nofun
    have hruled := turn_ruled host t hx
    have hne : (x.turns host (t :: ts)).session.phase ≠ .idle :=
      hruled.phase_turns (P := (· ≠ .idle)) hbegun (fun _ _ hs => hs.ne_idle) host ts
    exact hne ((turns_keep (fun _ t => turn_ruled host t) hruled ts).idle_of_begins h')
  refusesStart i c _ hstage :=
    ⟨fun h host' notice => c.step_of_begun host' notice hstage h,
      fun _ hidle hvalid host' notice => c.step_of_invalid host' notice hstage hidle hvalid⟩
  sweepsOnce i j ts h h' := by
    have hheld : x.Held i := ⟨hx, .inl (hx.stopping i h), fun k hk => hx.one i k h hk⟩
    exact (turns_keep (fun _ t hy => hy.turn host t) hheld ts).only j h'
  refusesStop host' := ⟨Stop.step_of_stopped host', Stop.step_of_stopping host'⟩
  overtaken h ts i notice := by
    have hends := hx.phase_turns h (fun _ _ hs => hs.ends) host ts
    generalize x.turns host ts = y at hends
    have hd : Does host y (.start i notice) (y.turn host (.move (.start i notice))) :=
      step_does host (.start i notice) y
    generalize y.turn host (.move (.start i notice)) = z at hd
    cases hd with
    | start _ hdoes => exact hdoes.phase_of_ends hends
    | idles => rfl

/-- Whatever has been called for, and in whatever order the calls have gone on: the phases of a
session are in order. -/
theorem phases_in_order (host : Host σ) (world : σ) (now : Instant) (config : Nat → LaunchConfig)
    (probes : Nat → PerComponent (Probe σ)) (ts : List (Turn σ)) :
    Orderly host ((new world now config probes).turns host ts) :=
  (turns_keep (fun _ t => turn_ruled host t) (ruled_new world now config probes) ts).orderly host

end Interleaving

end Launchpad
