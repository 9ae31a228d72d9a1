import Launchpad.Proofs.Session.Interleaving

/-!
# Every root is accounted for

`Kept` is the invariant of a session with all its calls: a root that runs has its record, whoever
ends processes holds on to the roots that are left to it, and the sweep of a stop covers them all.
It is kept by every move that lets no root run again that has ended (`Does.kept`), and so by every
run that does so throughout (`StaysEnded`, step by step).
-/

namespace Launchpad

open Supervisor

variable {σ : Type} {host : Host σ}

section Start

variable {notice : Bool} {c : Start σ} {s s' : Session σ}
  {p : Progress (Start σ) (Except Error Unit)}

/-- The sweep with which a call takes a start back. -/
def Start.sweep? (c : Start σ) : Option Sweep :=
  match c.stage with
  | .rollingBack _ w => some w
  | _ => none

variable (hhost : host.TreesHoldRoots) (ha : Accounted host s.supervisor)
  (hw : ∀ w, c.sweep? = some w → w.Sound host s.supervisor)

include hhost ha hw

/-- A step of a start begins to manage at most what it starts. -/
theorem Start.Does.extends (hd : c.Does host notice s p s') :
    ∃ new, Extends host new s.supervisor s'.supervisor := by
  have hsame : ∃ new, Extends host new s.supervisor s.supervisor :=
    ⟨[], (Steady.refl s.supervisor).extends⟩
  have hsweep {e : Error} {w : Sweep} {q : Progress Sweep Termination.Result}
      {supervisor : Supervisor σ} (hstage : c.stage = .rollingBack e w)
      (hstep : w.step host s.supervisor = (q, supervisor)) :
      Extends host [] s.supervisor supervisor := by
    have hdoes := w.step_does host s.supervisor
    rw [hstep] at hdoes
    exact hdoes.extends hhost ha (hw w (by rw [sweep?, hstage]))
  cases hd with
  | conflicts => exact hsame
  | refuses => exact hsame
  | begins _ _ _ hquiet _ => exact ⟨[], hquiet.extends⟩
  | fails _ hquiet => exact ⟨[], hquiet.extends⟩
  | waitsForJava => exact hsame
  | acceptsJava => exact hsame
  | launches _ _ hext _ _ => exact ⟨_, hext⟩
  | awaits _ _ hquiet => exact ⟨[], hquiet.extends⟩
  | advances _ _ hquiet => exact ⟨[], hquiet.extends⟩
  | completes _ _ hsteady _ => exact ⟨[], hsteady.extends⟩
  | comesLate _ _ hquiet => exact ⟨[], hquiet.extends⟩
  | opensBrowser _ hquiet => exact ⟨[], hquiet.extends⟩
  | rollsBack hstage hstep => exact ⟨[], hsweep hstage hstep⟩
  | rolledBack hstage hstep =>
    refine ⟨[], ?_⟩
    unfold leaveStarting
    split <;> exact hsweep hstage hstep

/-- A start that fails begins to take back what is tracked then. -/
theorem Start.Does.sound (hd : c.Does host notice s p s')
    (hend : StaysEnded host s.supervisor s'.supervisor) {c' : Start σ} (hp : p = .again c')
    {w : Sweep} (hw' : c'.sweep? = some w) : w.Sound host s'.supervisor := by
  obtain ⟨new, he⟩ := hd.extends hhost ha hw
  have ha' := ha.extends he hend
  have hfail {e : Error} (hp : (c.fail e s').1 = .again c') : w.Sound host s'.supervisor := by
    rcases (fail_eq c e s').2 with ⟨heq, -⟩ | heq
    · cases heq.symm.trans hp
    · cases heq.symm.trans hp
      cases hw'
      exact Sweep.sound_start ha' _
  cases hd with
  | conflicts => cases hp
  | refuses => cases hp
  | begins _ _ _ _ hfound =>
    cases hfound with
    | fails e => exact hfail hp
    | asks => cases hp; cases hw'
    | goes => cases hp; cases hw'
  | fails => exact hfail hp
  | waitsForJava => cases hp; cases hw'
  | acceptsJava => cases hp; cases hw'
  | launches => cases hp; cases hw'
  | awaits => cases hp; cases hw'
  | advances => cases hp; cases hw'
  | completes _ _ _ hp' =>
    rcases hp' with rfl | rfl
    · cases hp; cases hw'
    · cases hp
  | comesLate => cases hp
  | opensBrowser => cases hp
  | @rollsBack e w₀ w₁ supervisor hstage hstep =>
    have hdoes := w₀.step_does host s.supervisor
    rw [hstep] at hdoes
    cases hp
    cases hw'
    exact hdoes.sound hhost ha (hw w₀ (by rw [sweep?, hstage])) hend
  | rolledBack => cases hp

end Start

section Stop

variable {c : Stop} {s s' : Session σ} {p : Progress Stop (Except Error Unit)}

def Stop.sweep? : Stop → Option Sweep
  | .entry => none
  | .sweeping w => some w

variable (hhost : host.TreesHoldRoots) (ha : Accounted host s.supervisor)
  (hw : ∀ w, c.sweep? = some w → w.Sound host s.supervisor)

include hhost ha hw

theorem Stop.Does.extends (hd : c.Does host s p s') :
    Extends host [] s.supervisor s'.supervisor := by
  have hsweep {w : Sweep} {q : Progress Sweep Termination.Result} {supervisor : Supervisor σ}
      (hcall : c = .sweeping w) (hstep : w.step host s.supervisor = (q, supervisor)) :
      Extends host [] s.supervisor supervisor := by
    have hdoes := w.step_does host s.supervisor
    rw [hstep] at hdoes
    exact hdoes.extends hhost ha (hw w (by rw [hcall]; rfl))
  cases hd with
  | findsStopped => exact (Steady.refl s.supervisor).extends
  | conflicts => exact (Steady.refl s.supervisor).extends
  | shuts => exact (steady_close s.supervisor).extends
  | sweeps hcall hstep => exact hsweep hcall hstep
  | swept hcall hstep => exact hsweep hcall hstep

omit hw in
/-- A stop begins to end what is tracked then, and goes on to cover it all. -/
theorem Stop.Does.covers (hd : c.Does host s p s')
    (hend : StaysEnded host s.supervisor s'.supervisor)
    (hw : ∀ w, c.sweep? = some w → w.Covers host s.supervisor) {c' : Stop} (hp : p = .again c')
    {w : Sweep} (hw' : c'.sweep? = some w) : w.Covers host s'.supervisor := by
  cases hd with
  | findsStopped => cases hp
  | conflicts => cases hp
  | shuts =>
    cases hp
    cases hw'
    exact Sweep.covers_start (ha.extends (steady_close s.supervisor).extends hend) _
  | @sweeps w₀ w₁ supervisor hcall hstep =>
    have hdoes := w₀.step_does host s.supervisor
    rw [hstep] at hdoes
    cases hp
    cases hw'
    exact hdoes.covers hhost ha hend (hw w₀ (by rw [hcall]; rfl))
  | swept => cases hp

end Stop

namespace Interleaving

variable {x y : Interleaving σ} {m : Move σ} {ms ms' : List (Move σ)} {i : Nat}

/-- The invariant of a session and its calls. -/
structure Kept (host : Host σ) (x : Interleaving σ) : Prop extends Heeded x where
  accounted : Accounted host x.supervisor
  rollBacks : ∀ i c, x.starts i = .again c → ∀ w, c.sweep? = some w → w.Sound host x.supervisor
  sweeps : ∀ i c, x.stops i = .again c → ∀ w, c.sweep? = some w → w.Covers host x.supervisor

theorem kept_new (host : Host σ) (world : σ) (now : Instant) (config : Nat → LaunchConfig)
    (probes : Nat → PerComponent (Probe σ)) : (new world now config probes).Kept host where
  toHeeded := heeded_new world now config probes
  accounted := by
    refine ⟨fun h ⟨r, hr, _⟩ => ?_, fun h hm => absurd hm List.not_mem_nil⟩
    simp [new, record?] at hr
  rollBacks i c hc w hw := by
    cases hc
    cases hw
  sweeps i c hc w hw := by
    cases hc
    cases hw

theorem Kept.begun_of_sweep (hx : x.Kept host) {c : Stop} {w : Sweep}
    (hcall : x.stops i = .again c) (hw : c.sweep? = some w) : x.session.phase.Ends := by
  refine hx.begun_of_again hcall fun hc => ?_
  rw [hc] at hw
  cases hw

theorem Does.extends (hhost : host.TreesHoldRoots) (hx : x.Kept host) (hd : Does host x m y) :
    ∃ new, Extends host new x.supervisor y.supervisor := by
  cases hd with
  | start hcall hdoes => exact hdoes.extends hhost hx.accounted (hx.rollBacks _ _ hcall)
  | stop hcall hdoes =>
    exact ⟨[], hdoes.extends hhost hx.accounted fun w hw => (hx.sweeps _ _ hcall w hw).toSound⟩
  | idles => exact ⟨[], (Steady.refl x.supervisor).extends⟩
  | reports hsteady => exact ⟨[], hsteady.extends⟩
  | passes hsteady => exact ⟨[], hsteady.extends⟩

theorem Does.extends_nil (hhost : host.TreesHoldRoots) (hx : x.Kept host) (hd : Does host x m y)
    (hends : x.session.phase.Ends) : Extends host [] x.supervisor y.supervisor := by
  obtain ⟨new, he⟩ := hd.extends hhost hx
  cases (he.closed (hx.closed hends)).2
  exact he

/-- Every move keeps the invariant, given that no root that has ended runs again. -/
theorem Does.kept (hhost : host.TreesHoldRoots) (hx : x.Kept host) (hd : Does host x m y)
    (hend : StaysEnded host x.supervisor y.supervisor) : y.Kept host := by
  obtain ⟨new, he⟩ := hd.extends hhost hx
  have hrest : ∀ i c, x.stops i = .again c → ∀ w, c.sweep? = some w → w.Covers host y.supervisor :=
    fun i c hc w hw => (hx.sweeps i c hc w hw).beside
      (hd.extends_nil hhost hx (hx.begun_of_sweep hc hw)) hend
  have hback : ∀ i c, x.starts i = .again c → ∀ w, c.sweep? = some w → w.Sound host y.supervisor :=
    fun i c hc w hw => (hx.rollBacks i c hc w hw).extends he hend
  refine ⟨hd.heeded hx.toHeeded, hx.accounted.extends he hend, ?_, ?_⟩
  · cases hd with
    | @start i notice c p session hcall hdoes =>
      intro j c' hc' w hw
      rcases update_eq hc' with ⟨rfl, hp⟩ | ⟨-, hc'⟩
      · exact hdoes.sound hhost hx.accounted (hx.rollBacks _ _ hcall) hend hp hw
      · exact hback j c' hc' w hw
    | stop => exact hback
    | idles => exact hback
    | reports => exact hback
    | passes => exact hback
  · cases hd with
    | @stop i c p session hcall hdoes =>
      intro j c' hc' w hw
      rcases update_eq hc' with ⟨rfl, hp⟩ | ⟨-, hc'⟩
      · exact hdoes.covers hhost hx.accounted hend (hx.sweeps _ _ hcall) hp hw
      · exact hrest j c' hc' w hw
    | start => exact hrest
    | idles => exact hrest
    | reports => exact hrest
    | passes => exact hrest

theorem Kept.run (hhost : host.TreesHoldRoots) (hx : x.Kept host)
    (hrun : EachStep supervisor (Interleaving.step host) (StaysEnded host) x ms) :
    (x.run host ms).Kept host :=
  hrun.keeps (fun x m hx hend => (step_does host m x).kept hhost hx hend) hx

end Interleaving

end Launchpad
