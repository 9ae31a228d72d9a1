import Launchpad.Proofs.Supervisor.Roots

/-!
# Waiting starts nothing

Running a tool and waiting for a component to be ready are steady: whatever they find, no process of
a component is started and no record is let go.
-/

namespace Launchpad

open Supervisor

variable {σ : Type}

namespace ToolWait

theorem steady_start (host : Host σ) (command : Command) (limit : Duration) (s : Supervisor σ) :
    Steady s (ToolWait.start host command limit s).2 := by
  have hnote : Steady s (s.note (.prepare command)) := steady_note rfl s
  unfold start
  dsimp only
  split
  · exact hnote
  · split <;> exact hnote.trans (steady_world _ _ _)

end ToolWait

namespace ReadinessWait

variable {w w' : ReadinessWait σ} {s : Supervisor σ}

/-- What a step of a wait leaves: a wait for the same process. -/
def Goes (w : ReadinessWait σ) (s : Supervisor σ) (x : Step σ) : Prop :=
  Steady s x.2 ∧ ∀ w', x.1 = .again w' → w'.handle = w.handle

theorem goes_conclude (w : ReadinessWait σ) (ready : Bool) (s : Supervisor σ) :
    w.Goes s (w.conclude host ready s) := by
  unfold conclude
  split
  · exact ⟨steady_setStatus _ _ s, nofun⟩
  · split
    · exact ⟨.refl s, nofun⟩
    · refine ⟨.refl s, ?_⟩
      rintro _ ⟨rfl⟩
      rfl

theorem goes_askProbe (w : ReadinessWait σ) (s : Supervisor σ) : w.Goes s (w.askProbe host s) := by
  have hs : Steady s { s with world := (w.probe.ask s.now s.world).2 } := steady_world s s.now _
  unfold askProbe
  dsimp only
  split
  · exact (goes_conclude w _ _).imp_left hs.trans
  · refine ⟨hs, ?_⟩
    rintro _ ⟨rfl⟩
    rfl

theorem goes_attempt (host : Host σ) (w : ReadinessWait σ) (s : Supervisor σ) :
    w.Goes s (w.attempt host s) := by
  have hs : Steady s (s.observeTracked host w.handle).2 := steady_observeTracked host _ s
  unfold attempt
  dsimp only
  split
  · split
    · exact (goes_askProbe w _).imp_left hs.trans
    · exact ⟨hs, nofun⟩
  · exact (goes_askProbe w _).imp_left hs.trans

theorem goes_checkDeadline (w : ReadinessWait σ) (s : Supervisor σ) :
    w.Goes s (w.checkDeadline s) := by
  unfold checkDeadline
  split
  · exact ⟨.refl s, nofun⟩
  · refine ⟨.refl s, ?_⟩
    rintro _ ⟨rfl⟩
    rfl

theorem goes_step (host : Host σ) (cancelled : Bool) (w : ReadinessWait σ) (s : Supervisor σ) :
    w.Goes s (w.step host cancelled s) := by
  unfold step
  split
  · exact ⟨.refl s, nofun⟩
  · split
    · exact goes_attempt host w s
    · split
      · exact goes_conclude w _ s
      · exact goes_checkDeadline w s
    · split
      · exact goes_attempt host w s
      · exact goes_checkDeadline w s

end ReadinessWait

end Launchpad
