import Launchpad.Proofs.Scripted.Host
import Launchpad.Proofs.Session.Accounting
import Launchpad.Proofs.Session.LaunchOrder

/-!
# What a start that fails leaves

A start that fails without a stop beside it has been refused and has changed nothing, or it has been
taken back: every process that was launched has gone through a termination, and what is left has
failed (`failed_start_leaves_nothing`). `Start.TakesBack` follows the start to that end. As long as
it works every root has its record; from its failure on every root is pending in the sweep or has
been terminated. This is so on any host; that what still runs has its record rests on `Kept`.
-/

namespace Launchpad

open Supervisor

variable {σ : Type} {host : Host σ} {ended ended' : Handle → Termination.Result → Prop}

/-! ## The sweep that takes a start back -/

namespace Sweep

variable {w w' : Sweep} {s s' : Supervisor σ}

/-- A sweep of everything in which every root is still to be terminated or has been. `ended` are the
results of the terminations so far. -/
structure Unwinds (ended : Handle → Termination.Result → Prop) (w : Sweep) (s : Supervisor σ) :
    Prop where
  reported : w.ReportsAll s
  attempted : ∀ h ∈ s.roots, w.Pending h ∨ ∃ r, ended h r
  faultless : (∀ h r, ended h r → r = .ok ()) → w.failures = []

/-- What is left when such a sweep has ended. -/
structure Unwound (ended : Handle → Termination.Result → Prop)
    (failures : List TerminationFailure) (s : Supervisor σ) : Prop where
  reported : AllReported failures s
  attempted : ∀ h ∈ s.roots, ∃ r, ended h r
  faultless : (∀ h r, ended h r → r = .ok ()) → failures = []

theorem Unwinds.beside (hu : w.Unwinds ended s) (hs : StartsNothing s s')
    (hgrow : ∀ h r, ended h r → ended' h r) : w.Unwinds ended' s' where
  reported := hu.reported.beside hs
  attempted h hm := by
    rw [hs.roots] at hm
    exact (hu.attempted h hm).imp_right fun ⟨r, hr⟩ => ⟨r, hgrow h r hr⟩
  faultless hok := hu.faultless fun h r hr => hok h r (hgrow h r hr)

theorem Unwound.beside {failures : List TerminationFailure} (hu : Unwound ended failures s)
    (hs : StartsNothing s s') (hgrow : ∀ h r, ended h r → ended' h r) :
    Unwound ended' failures s' where
  reported := hu.reported.beside hs
  attempted h hm := by
    rw [hs.roots] at hm
    obtain ⟨r, hr⟩ := hu.attempted h hm
    exact ⟨r, hgrow h r hr⟩
  faultless hok := hu.faultless fun h r hr => hok h r (hgrow h r hr)

/-- A sweep that has just begun on everything. -/
theorem unwinds_start (config : TerminationConfig) (ht : ∀ h ∈ s.roots, s.Tracked h) :
    (Sweep.start config s).Unwinds ended s :=
  ⟨reportsAll_start config s, fun h hm => .inl (pending_start config (ht h hm)), fun _ => rfl⟩

theorem Unwinds.step (hu : w.Unwinds ended s) (hd : Does host w s (.again w') s')
    (hgrow : ∀ h r, ended h r → ended' h r)
    (hnew : ∀ t r, w.current = some t → t.step host s = (.done r, s') → ended' t.handle r) :
    w'.Unwinds ended' s' where
  reported := hd.reportsAll hu.reported
  attempted h hm := by
    rw [hd.startsNothing.roots] at hm
    rcases hu.attempted h hm with hp | ⟨r, hr⟩
    · refine (hd.pending hp).imp_right ?_
      rintro ⟨t, r, ht, rfl, hstep, -⟩
      exact ⟨r, hnew t r ht hstep⟩
    · exact .inr ⟨r, hgrow h r hr⟩
  faultless hok := by
    have hnil := hu.faultless fun h r hr => hok h r (hgrow h r hr)
    cases hd with
    | terminates => exact hnil
    | @terminated t r s' ht hstep =>
      rw [hok _ r (hnew t r ht hstep), hnil]
      rfl
    | takes => exact hnil

theorem Unwinds.done (hu : w.Unwinds ended s) (hnone : ∀ h, ¬ w.Pending h) :
    Unwound ended w.failures s :=
  ⟨hu.reported.done hnone, fun h hm => (hu.attempted h hm).resolve_left (hnone h), hu.faultless⟩

end Sweep

/-! ## A start on its way to its failure -/

namespace Start

variable {s s' : Session σ} {c : Start σ} {p : Progress (Start σ) (Except Error Unit)}
  {notice : Bool}

/-- What holds of a session whose start stands somewhere or has returned, while no stop is called. -/
def TakesBack (ended : Handle → Termination.Result → Prop) (s : Session σ) :
    Progress (Start σ) (Except Error Unit) → Prop
  | .again c =>
    match c.stage with
    | .openingBrowser => True
    | .rollingBack _ w => s.phase = .starting ∧ w.Unwinds ended s.supervisor
    | _ => s.phase = .starting ∧ ∀ h ∈ s.supervisor.roots, s.supervisor.Tracked h
  | .done (.error e) =>
    s.phase = .failed e.message ∧ ∃ failures, Sweep.Unwound ended failures s.supervisor
  | .done (.ok ()) => True

/-- Steady operations beside the start change nothing about that. -/
theorem TakesBack.beside (h : TakesBack ended s p) (hs : Steady s.supervisor s'.supervisor)
    (hages : Session.Ages s.phase s'.phase) (hgrow : ∀ h r, ended h r → ended' h r) :
    TakesBack ended' s' p := by
  have hkeep {q : Phase} (hq : s.phase = q) (hrunning : q ≠ .running)
      (hdegraded : ∀ exited, q ≠ .degraded exited) : s'.phase = q := by
    subst hq
    rcases hages with h | ⟨h | ⟨exited, h⟩, -⟩
    · exact h
    · exact absurd h hrunning
    · exact absurd h (hdegraded exited)
  match p with
  | .again c =>
    unfold TakesBack at h ⊢
    dsimp only at h ⊢
    split at h
    · trivial
    · exact ⟨hkeep h.1 nofun nofun, h.2.beside hs.toStartsNothing hgrow⟩
    · exact ⟨hkeep h.1 nofun nofun, fun r hm => hs.tracked r (h.2 r (hs.roots ▸ hm))⟩
  | .done (.error e) =>
    obtain ⟨hp, failures, hu⟩ := h
    exact ⟨hkeep hp nofun nofun, failures, hu.beside hs.toStartsNothing hgrow⟩
  | .done (.ok ()) => trivial

/-- A failure while everything is tracked is taken back by a sweep of everything. -/
theorem takesBack_fail (c : Start σ) (e : Error) (hcancelled : s.cancelled = false)
    (hphase : s.phase = .starting) (ht : ∀ h ∈ s.supervisor.roots, s.supervisor.Tracked h) :
    TakesBack ended s (c.fail e s).1 := by
  rcases (fail_eq c e s).2 with ⟨-, h⟩ | heq
  · exact absurd (hcancelled.symm.trans h) Bool.false_ne_true
  · rw [heq]
    exact ⟨hphase, Sweep.unwinds_start _ ht⟩

/-- A start that begins has launched nothing yet. -/
theorem Found.takesBack (hfound : Found c s p) (hphase : s.phase = .starting)
    (hcancelled : s.cancelled = false) (hroots : s.supervisor.roots = []) :
    TakesBack ended s p := by
  have ht : ∀ h ∈ s.supervisor.roots, s.supervisor.Tracked h := by
    rw [hroots]
    exact nofun
  cases hfound with
  | fails e => exact takesBack_fail c e hcancelled hphase ht
  | asks => exact ⟨hphase, ht⟩
  | goes => exact ⟨hphase, ht⟩

/-- A step of a start on its course. -/
theorem Does.takesBack {config : LaunchConfig} {past : Past} (hd : c.Does host notice s p s')
    (hcancelled : s.cancelled = false) (hcourse : OnCourse config past s.supervisor.roots c)
    (h : TakesBack ended s (.again c)) (hgrow : ∀ h r, ended h r → ended' h r)
    (hnew : ∀ e w t r, c.stage = .rollingBack e w → w.current = some t →
      t.step host s.supervisor = (.done r, s'.supervisor) → ended' t.handle r) :
    TakesBack ended' s' p := by
  have hworks (hworks : c.stage.Works) :
      s.phase = .starting ∧ ∀ h ∈ s.supervisor.roots, s.supervisor.Tracked h := by
    unfold TakesBack at h
    dsimp only at h
    split at h
    · next hstage => rw [hstage] at hworks; exact hworks.elim
    · next hstage => rw [hstage] at hworks; exact hworks.elim
    · exact h
  have hquiet (hquiet : s.Quiet s')
      (h : s.phase = .starting ∧ ∀ h ∈ s.supervisor.roots, s.supervisor.Tracked h) :
      s'.phase = .starting ∧ ∀ h ∈ s'.supervisor.roots, s'.supervisor.Tracked h :=
    ⟨hquiet.phase.trans h.1, fun r hr => hquiet.tracked r (h.2 r (hquiet.roots ▸ hr))⟩
  cases hd with
  | conflicts hstage => simp [OnCourse, hstage] at hcourse
  | refuses hstage => simp [OnCourse, hstage] at hcourse
  | begins hstage => simp [OnCourse, hstage] at hcourse
  | fails hstage hq =>
    obtain ⟨hphase, ht⟩ := hquiet hq (hworks hstage)
    exact takesBack_fail c _ (hq.cancelled.trans hcancelled) hphase ht
  | waitsForJava hstage => exact hworks (by rw [hstage]; trivial)
  | acceptsJava hstage => exact hworks (by rw [hstage]; trivial)
  | @launches java k left pid wait supervisor hstage _ hext hkeep _ =>
    obtain ⟨hphase, ht⟩ := hworks (by rw [hstage]; trivial)
    obtain ⟨hall, -⟩ : launched s.supervisor.roots ++ k :: left = config.components ∧ _ := by
      simpa only [OnCourse, hstage] using hcourse.2
    refine ⟨hphase, fun h hm => ?_⟩
    have hm' : h ∈ [⟨k, pid⟩] ++ s.supervisor.roots := hext.roots ▸ hm
    rcases List.mem_append.mp hm' with hm | hm
    · exact hext.started h hm
    · -- The components of a configuration differ, so that no record is replaced.
      have hdistinct := config.nodup_components
      rw [← hall] at hdistinct
      refine hkeep h (fun hk => ?_) (ht h hm)
      refine (List.nodup_append.mp hdistinct).2.2 h.component ?_ k List.mem_cons_self hk
      exact List.mem_reverse.mpr (List.mem_map_of_mem hm)
  | awaits hstage _ hq => exact hquiet hq (hworks (by rw [hstage]; trivial))
  | advances hstage _ hq => exact hquiet hq (hworks (by rw [hstage]; trivial))
  | completes _ _ _ hp =>
    rcases hp with rfl | rfl
    · trivial
    · trivial
  | comesLate hstage hphase =>
    simp only [TakesBack, hstage] at h
    exact absurd h.1 hphase
  | opensBrowser => trivial
  | @rollsBack e w w' supervisor hstage hstep =>
    have hdoes := w.step_does host s.supervisor
    rw [hstep] at hdoes
    simp only [TakesBack, hstage] at h
    exact ⟨h.1, h.2.step hdoes hgrow fun t r ht hr => hnew e w t r hstage ht hr⟩
  | @rolledBack e w r supervisor hstage hstep =>
    have hdoes := w.step_does host s.supervisor
    rw [hstep] at hdoes
    simp only [TakesBack, hstage] at h
    obtain ⟨rfl, -, hnone⟩ := hdoes.done
    unfold leaveStarting
    rw [if_pos h.1]
    exact ⟨rfl, w.failures, (h.2.done hnone).beside (.refl _) hgrow⟩

end Start

/-! ## The session of a start that fails -/

namespace Interleaving

open Start

variable {x y : Interleaving σ} {m : Move σ} {config : Nat → LaunchConfig} {i : Nat}

/-- A start that is taken back sees the end of a termination. -/
def Terminates (host : Host σ) (i : Nat) (h : Handle) (r : Termination.Result)
    (x : Interleaving σ) (m : Move σ) : Prop :=
  ∃ notice c e w t s', m = .start i notice ∧ x.starts i = .again c ∧
    c.stage = .rollingBack e w ∧ w.current = some t ∧ t.handle = h ∧
    t.step host x.supervisor = (.done r, s')

/-- A past of which everything may be true. -/
def anyPast : Past := ⟨fun _ => True, True, True⟩

/-- A session whose start goes on or has returned, while no stop is called. -/
structure Alone (config : Nat → LaunchConfig) (i : Nat)
    (ended : Handle → Termination.Result → Prop) (x : Interleaving σ) : Prop extends Heeded x where
  course : Course config i anyPast x
  undisturbed : x.session.cancelled = false
  takesBack : TakesBack ended x.session (x.starts i)

theorem Alone.step (hx : Alone config i ended x) (hd : Does host x m y)
    (hstop : ∀ j, m ≠ .stop j) (hgrow : ∀ h r, ended h r → ended' h r)
    (hnew : ∀ h r, Terminates host i h r x m → ended' h r) : Alone config i ended' y := by
  have hcourse : Course config i anyPast y := by
    refine (hx.course.step hx.toHeeded hd ⟨fun _ => id, id, id⟩ fun notice c _ _ => ?_).1
    exact ⟨⟨fun _ => id, id, id⟩, fun _ _ _ _ _ => trivial, fun _ _ _ _ _ _ _ => trivial,
      fun _ _ => trivial⟩
  have hbeside {session : Session σ} (hs : Steady x.supervisor session.supervisor)
      (hages : Session.Ages x.session.phase session.phase) :
      TakesBack ended' session (x.starts i) := hx.takesBack.beside hs hages hgrow
  refine ⟨hd.heeded hx.toHeeded, hcourse, ?_, ?_⟩
  · cases hd with
    | start _ hdoes => exact hdoes.cancelled_eq.trans hx.undisturbed
    | @stop j => exact absurd rfl (hstop j)
    | idles => exact hx.undisturbed
    | reports _ _ hcancelled => exact hcancelled.trans hx.undisturbed
    | passes => exact hx.undisturbed
  · cases hd with
    | @start j notice c p session hcall hdoes =>
      show TakesBack ended' session (Function.update x.starts j p i)
      by_cases hj : i = j
      · subst hj
        rw [Function.update_self]
        have hstands := hx.course.stands
        have htakes := hx.takesBack
        rw [hcall] at hstands htakes
        refine hdoes.takesBack hx.undisturbed hstands htakes hgrow
          fun e w t r hstage ht hstep => ?_
        exact hnew t.handle r ⟨notice, c, e, w, t, _, rfl, hcall, hstage, ht, rfl, hstep⟩
      · rw [Function.update_of_ne hj]
        obtain ⟨hstage, -⟩ := (hx.course.waits j (Ne.symm hj)).of_again hcall
        rcases hdoes.of_entry hstage with ⟨-, -, rfl⟩ | ⟨_, hidle, -⟩ | ⟨hidle, -⟩
        · exact hbeside (.refl _) (.inl rfl)
        · exact absurd hidle hx.course.begun
        · exact absurd hidle hx.course.begun
    | @stop j => exact absurd rfl (hstop j)
    | idles => exact hbeside (.refl _) (.inl rfl)
    | reports hsteady hages _ => exact hbeside hsteady hages
    | passes hsteady => exact hbeside hsteady (.inl rfl)

/-- A start is refused: whatever the host, its first step returns the error and leaves the session
as it was. -/
def Refuses (c : Start σ) (e : Error) (s : Session σ) : Prop :=
  ∀ (host : Host σ) (notice : Bool), c.step host notice s = (.done (.error e), s)

section Example

open Scripted

/-- Calls of a session whose search engine ignores every signal and whose connectors are missing. -/
def brokenSession : Interleaving World :=
  new (machine { PerComponent.const stubborn with connectorRuntime := { refusal := some .missing } })
    0 (fun _ => hasty) fun _ => .const .always

end Example

end Interleaving

end Launchpad
