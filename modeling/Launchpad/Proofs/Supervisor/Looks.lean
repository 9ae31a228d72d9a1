import Launchpad.Proofs.Supervisor.Roots
import Launchpad.Supervisor.ExitWait

/-!
# What a look at the members of a tree finds

`ExitWait.findsAlive` says of one process whether a look finds it alive. A look changes nothing that
the answer depends on, so that the survivors of a look are those members that it finds alive in the
state before it (`survivors_eq`), in their order.
-/

namespace Launchpad

namespace Supervisor

variable {σ : Type} {host : Host σ} {s s' s'' : Supervisor σ} {h : Handle}

/-- A steady operation that leaves the machine as it is. -/
structure Still (s s' : Supervisor σ) : Prop extends Steady s s' where
  world : s'.world = s.world
  now : s'.now = s.now

theorem Still.refl (s : Supervisor σ) : Still s s := ⟨.refl s, rfl, rfl⟩

theorem Still.trans (h₁ : Still s s') (h₂ : Still s' s'') : Still s s'' :=
  ⟨h₁.toSteady.trans h₂.toSteady, h₂.world.trans h₁.world, h₂.now.trans h₁.now⟩

theorem Still.tracked_iff (hs : Still s s') : s'.Tracked h ↔ s.Tracked h :=
  ⟨hs.tracked_of, hs.tracked h⟩

theorem Still.runs_iff (hs : Still s s') : Runs host h s' ↔ Runs host h s := by
  unfold Runs
  rw [hs.world, hs.now]

theorem still_note {call : HostCall} (hc : call.root? = none) (s : Supervisor σ) :
    Still s (s.note call) := ⟨steady_note hc s, rfl, rfl⟩

theorem still_observe (host : Host σ) (c : Component) (s : Supervisor σ) :
    Still s (s.observe host c).2 :=
  ⟨steady_observe host c s, (observe_world host c s).1, (observe_world host c s).2.1⟩

theorem still_observeTracked (host : Host σ) (h : Handle) (s : Supervisor σ) :
    Still s (s.observeTracked host h).2 := by
  unfold observeTracked
  split
  · exact .refl s
  · exact still_observe host h.component s

theorem observeTracked_of_tracked (ht : s.Tracked h) :
    (s.observeTracked host h).1 = some (decide (Runs host h s)) := by
  obtain ⟨r, hr, hp⟩ := ht
  have hsome : s.tracked? h = some r := tracked?_eq_some.mpr ⟨hr, hp⟩
  unfold observeTracked
  rw [hsome]
  simp only [observe_alive hr, Runs, hp]
  rfl

theorem observeTracked_of_not_tracked (ht : ¬ s.Tracked h) :
    s.observeTracked host h = (none, s) := by
  unfold observeTracked
  rw [tracked?_eq_none.mpr ht]

end Supervisor

namespace ExitWait

open Supervisor

variable {σ : Type} {host : Host σ} {s s' : Supervisor σ} {h : Handle} {p : Pid}

/-- Whether a look finds a member alive: the root by its record, every other one by itself. -/
def findsAlive (host : Host σ) (h : Handle) (s : Supervisor σ) (p : Pid) : Bool :=
  if p = h.pid then (s.tracked? h).isSome && decide (Runs host h s)
  else host.isAlive s.now p s.world

theorem findsAlive_root : findsAlive host h s h.pid = true ↔ s.Tracked h ∧ Runs host h s := by
  unfold findsAlive
  rw [if_pos rfl, Bool.and_eq_true, isSome_tracked?, decide_eq_true_iff]

theorem findsAlive_still (hs : Still s s') : findsAlive host h s' = findsAlive host h s := by
  funext p
  by_cases hp : p = h.pid
  · rw [hp, Bool.eq_iff_iff, findsAlive_root, findsAlive_root, hs.tracked_iff, hs.runs_iff]
  · unfold findsAlive
    rw [if_neg hp, if_neg hp, hs.world, hs.now]

theorem isMemberAlive_eq (host : Host σ) (h : Handle) (p : Pid) (s : Supervisor σ) :
    (isMemberAlive host h p s).1 = findsAlive host h s p := by
  unfold isMemberAlive
  split
  · next hp =>
    rw [hp, Bool.eq_iff_iff, findsAlive_root]
    by_cases ht : s.Tracked h
    · simp [observeTracked_of_tracked ht, ht]
    · simp [observeTracked_of_not_tracked ht, ht]
  · next hp =>
    unfold findsAlive
    rw [if_neg hp]

theorem still_isMemberAlive (host : Host σ) (h : Handle) (p : Pid) (s : Supervisor σ) :
    Still s (isMemberAlive host h p s).2 := by
  unfold isMemberAlive
  split
  · exact still_observeTracked host h s
  · exact .refl s

theorem still_survivors (host : Host σ) (h : Handle) (ps : List Pid) (s : Supervisor σ) :
    Still s (survivors host h ps s).2 := by
  induction ps generalizing s with
  | nil => exact .refl s
  | cons p ps ih => exact (still_isMemberAlive host h p s).trans (ih _)

/-- A look finds those members that are alive when it begins, in their order. -/
theorem survivors_eq (host : Host σ) (h : Handle) (ps : List Pid) (s : Supervisor σ) :
    (survivors host h ps s).1 = ps.filter (findsAlive host h s) := by
  induction ps generalizing s with
  | nil => rfl
  | cons p ps ih =>
    unfold survivors
    dsimp only
    rw [ih, findsAlive_still (still_isMemberAlive host h p s), isMemberAlive_eq, List.filter_cons]

/-- What a step of a wait gives: those of its members that are alive, or the wait itself. -/
def Looked (host : Host σ) (w : ExitWait) (s : Supervisor σ) (p : Progress ExitWait (List Pid)) :
    Prop :=
  p = .done (w.pids.filter (findsAlive host w.handle s)) ∨ ∃ wakeAt, p = .again { w with wakeAt }

theorem look_eq (host : Host σ) (w : ExitWait) (s : Supervisor σ) :
    ∃ p s', w.look host s = (p, s') ∧ Still s s' ∧ Looked host w s p := by
  have hs := still_survivors host w.handle w.pids s
  unfold look
  dsimp only
  rw [survivors_eq]
  split
  · exact ⟨_, _, rfl, hs, .inl rfl⟩
  · exact ⟨_, _, rfl, hs, .inr ⟨_, rfl⟩⟩

/-- A step of a wait is a look, or nothing while it is too early for one. -/
theorem step_eq (host : Host σ) (w : ExitWait) (s : Supervisor σ) :
    ∃ p s', w.step host s = (p, s') ∧ Still s s' ∧ Looked host w s p := by
  unfold step
  split
  · exact look_eq host w s
  · exact ⟨_, s, rfl, .refl s, .inr ⟨w.wakeAt, rfl⟩⟩

end ExitWait

end Launchpad
