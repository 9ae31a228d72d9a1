import Launchpad.Proofs.Supervisor.Termination
import Launchpad.Supervisor.Sweep

/-!
# Sweeps leave nothing unsaid

While nothing is started, a sweep that was begun on all records accounts for every process: it is
still to be terminated, or it has been terminated and stands among the failures. For the processes
that have a record this is so on any host (`ReportsAll`), for all that run it takes a host that
gives trees that hold their root (`NamesAll`). Once nothing is to be terminated any more, the
failures alone tell all.
-/

namespace Launchpad

namespace Supervisor

variable {σ : Type} {s : Supervisor σ} {h : Handle}

theorem mem_handles : h ∈ s.handles ↔ s.Tracked h := by
  unfold handles
  rw [List.mem_filterMap]
  constructor
  · rintro ⟨c, -, hc⟩
    obtain ⟨r, hr, rfl⟩ := Option.map_eq_some_iff.mp hc
    exact ⟨r, hr, rfl⟩
  · rintro ⟨r, hr, hp⟩
    exact ⟨h.component, Component.mem_launchOrder _, by rw [hr, Option.map_some, hp]⟩

end Supervisor

namespace Sweep

open Supervisor Termination

variable {σ : Type} {host : Host σ} {s s' : Supervisor σ} {w w' : Sweep} {h : Handle}
  {failures failures' : List TerminationFailure} {p : Progress Sweep Result}

/-! ## What failures tell -/

/-- Whether failures tell of a process that it could not be ended, and its record does so too. -/
def Reports (failures : List TerminationFailure) (h : Handle) (s : Supervisor σ) : Prop :=
  (∃ f ∈ failures, f.component = h.component) ∧
    ∀ r, s.record? h.component = some r → r.HasFailed

def Names (failures : List TerminationFailure) (h : Handle) : Prop :=
  ∃ f ∈ failures, f.component = h.component ∧ f.pid = h.pid

theorem Reports.mono (hsub : failures ⊆ failures') (hr : Reports failures h s) :
    Reports failures' h s := by
  obtain ⟨⟨f, hf, hc⟩, hrec⟩ := hr
  exact ⟨⟨f, hsub hf, hc⟩, hrec⟩

theorem Reports.beside (hr : Reports failures h s) (hs : StartsNothing s s') :
    Reports failures h s' := by
  refine ⟨hr.1, fun r' hr' => ?_⟩
  obtain ⟨r, hrec, hb⟩ := hs.records _ r' hr'
  exact hb.failed (hr.2 r hrec)

theorem Names.mono (hsub : failures ⊆ failures') (hn : Names failures h) : Names failures' h := by
  obtain ⟨f, hf, hfh⟩ := hn
  exact ⟨f, hsub hf, hfh⟩

/-- Every record is that of a process that has been reported. -/
def AllReported (failures : List TerminationFailure) (s : Supervisor σ) : Prop :=
  ∀ h, s.Tracked h → Reports failures h s

/-- Every root that runs is named. -/
def AllNamed (host : Host σ) (failures : List TerminationFailure) (s : Supervisor σ) : Prop :=
  ∀ h ∈ s.roots, Runs host h s → Names failures h

theorem AllReported.beside (hf : AllReported failures s) (hs : StartsNothing s s') :
    AllReported failures s' :=
  fun h ht => (hf h (hs.tracked_of ht)).beside hs

theorem AllNamed.beside (hf : AllNamed host failures s) (hs : StartsNothing s s')
    (hend : StaysEnded host s s') : AllNamed host failures s' := by
  intro h hm hr
  rw [hs.roots] at hm
  exact hf h hm (hend h hm hr)

/-- Without failures no record is left. -/
theorem AllReported.record?_eq_none (hf : AllReported [] s) (c : Component) :
    s.record? c = none := by
  cases hrec : s.record? c with
  | none => rfl
  | some r =>
    obtain ⟨⟨f, hf, -⟩, -⟩ := hf ⟨c, r.pid⟩ ⟨r, hrec, rfl⟩
    exact absurd hf List.not_mem_nil

theorem eq_nil_of_toResult (h : TerminationFailure.toResult failures = .ok ()) :
    failures = [] := by
  unfold TerminationFailure.toResult at h
  split at h
  · next hnil => exact List.isEmpty_iff.mp hnil
  · cases h

/-! ## The processes of a sweep -/

/-- Whether a process is still to be terminated, or being so. -/
def Pending (w : Sweep) (h : Handle) : Prop :=
  h ∈ w.queue ∨ ∃ t, w.current = some t ∧ t.handle = h

/-- Every record is that of a process that is pending or has been reported. -/
def ReportsAll (w : Sweep) (s : Supervisor σ) : Prop :=
  ∀ h, s.Tracked h → w.Pending h ∨ Reports w.failures h s

/-- Every root that runs is pending or has been named. -/
def NamesAll (host : Host σ) (w : Sweep) (s : Supervisor σ) : Prop :=
  ∀ h ∈ s.roots, Runs host h s → w.Pending h ∨ Names w.failures h

structure Sound (host : Host σ) (w : Sweep) (s : Supervisor σ) : Prop where
  queue : ∀ h ∈ w.queue, h ∈ s.roots
  current : ∀ t, w.current = some t → t.Sound host s

theorem ReportsAll.beside (hw : w.ReportsAll s) (hs : StartsNothing s s') : w.ReportsAll s' :=
  fun h ht => (hw h (hs.tracked_of ht)).imp_right fun hr => hr.beside hs

theorem NamesAll.beside (hw : w.NamesAll host s) (hs : StartsNothing s s')
    (hend : StaysEnded host s s') : w.NamesAll host s' := by
  intro h hm hr
  rw [hs.roots] at hm
  exact hw h hm (hend h hm hr)

theorem Sound.extends {new : List Handle} (hw : Sound host w s) (he : Extends host new s s')
    (hend : StaysEnded host s s') : Sound host w s' where
  queue h hm := by
    rw [he.roots]
    exact List.mem_append_right _ (hw.queue h hm)
  current t ht := (hw.current t ht).extends he hend

theorem pending_start (config : TerminationConfig) (ht : s.Tracked h) :
    (Sweep.start config s).Pending h :=
  .inl (List.mem_reverse.mpr (mem_handles.mpr ht))

theorem reportsAll_start (config : TerminationConfig) (s : Supervisor σ) :
    (Sweep.start config s).ReportsAll s := fun _ ht => .inl (pending_start config ht)

theorem namesAll_start (ha : Accounted host s) (config : TerminationConfig) :
    (Sweep.start config s).NamesAll host s :=
  fun h hm hr => .inl (pending_start config (ha.tracked h hm hr))

theorem sound_start (ha : Accounted host s) (config : TerminationConfig) :
    Sound host (.start config s) s where
  queue h hm := ha.rooted h (mem_handles.mp (List.mem_reverse.mp hm))
  current t ht := by cases ht

/-- A sweep that accounts for every process. -/
structure Covers (host : Host σ) (w : Sweep) (s : Supervisor σ) : Prop
    extends Sound host w s where
  named : w.NamesAll host s
  reported : w.ReportsAll s

theorem covers_start (ha : Accounted host s) (config : TerminationConfig) :
    Covers host (.start config s) s :=
  ⟨sound_start ha config, namesAll_start ha config, reportsAll_start config s⟩

theorem Covers.beside (hw : Covers host w s) (he : Extends host [] s s')
    (hend : StaysEnded host s s') : Covers host w s' :=
  ⟨hw.toSound.extends he hend, hw.named.beside he.startsNothing hend,
    hw.reported.beside he.startsNothing⟩

/-! ## A step on any host -/

inductive Does (host : Host σ) (w : Sweep) (s : Supervisor σ) :
    Progress Sweep Result → Supervisor σ → Prop
  /-- The current termination goes on. -/
  | terminates {t t' : Termination} {s' : Supervisor σ} (ht : w.current = some t)
      (hstep : t.step host s = (.again t', s')) :
      Does host w s (.again { w with current := some t' }) s'
  /-- The current termination ends. -/
  | terminated {t : Termination} {r : Result} {s' : Supervisor σ} (ht : w.current = some t)
      (hstep : t.step host s = (.done r, s')) :
      Does host w s
        (.again { w with current := none, failures := w.failures ++ failuresOf r }) s'
  /-- The next termination begins. -/
  | takes {h : Handle} {rest : List Handle} (hc : w.current = none) (hq : w.queue = h :: rest) :
      Does host w s
        (.again { w with current := some { handle := h, config := w.config }, queue := rest }) s
  | ends (hc : w.current = none) (hq : w.queue = []) :
      Does host w s (.done (TerminationFailure.toResult w.failures)) s

theorem step_does (host : Host σ) (w : Sweep) (s : Supervisor σ) :
    Does host w s (w.step host s).1 (w.step host s).2 := by
  unfold step
  split
  · next t ht =>
    cases hstep : t.step host s with
    | mk p s' =>
      cases p with
      | again t' => exact .terminates ht hstep
      | done r => exact .terminated ht hstep
  · next hc =>
    split
    · next h rest hq => exact .takes hc hq
    · next hq => exact .ends hc hq

theorem Does.startsNothing (hd : Does host w s p s') : StartsNothing s s' := by
  cases hd with
  | @terminates t t' s' _ hstep =>
    have hl := (t.leaves_step host s).1
    rwa [hstep] at hl
  | @terminated t r s' _ hstep =>
    have hl := (t.leaves_step host s).1
    rwa [hstep] at hl
  | takes => exact .refl s
  | ends => exact .refl s

/-- What is pending stays so, or has been terminated with a result. -/
theorem Does.pending (hd : Does host w s (.again w') s') (hp : w.Pending h) :
    w'.Pending h ∨ ∃ t r, w.current = some t ∧ t.handle = h ∧ t.step host s = (.done r, s') ∧
      w'.failures = w.failures ++ failuresOf r ∧ Verdict h r s' := by
  cases hd with
  | @terminates t t' _ ht hstep =>
    rcases hp with hq | ⟨t₀, ht₀, rfl⟩
    · exact .inl (.inl hq)
    · cases ht.symm.trans ht₀
      have hl := (t.leaves_step host s).2
      rw [hstep] at hl
      exact .inl (.inr ⟨t', rfl, hl⟩)
  | @terminated t r _ ht hstep =>
    rcases hp with hq | ⟨t₀, ht₀, rfl⟩
    · exact .inl (.inl hq)
    · cases ht.symm.trans ht₀
      have hl := (t.leaves_step host s).2
      rw [hstep] at hl
      exact .inr ⟨t, r, ht, rfl, hstep, rfl, hl⟩
  | @takes h' rest hc hq =>
    rcases hp with hm | ⟨t, ht, -⟩
    · rw [hq] at hm
      rcases List.mem_cons.mp hm with rfl | hm
      · exact .inl (.inr ⟨_, rfl, rfl⟩)
      · exact .inl (.inl hm)
    · exact absurd (hc.symm.trans ht) (by simp)

/-- Failures are never taken back. -/
theorem Does.failures_subset (hd : Does host w s (.again w') s') : w.failures ⊆ w'.failures := by
  cases hd with
  | terminates => exact List.Subset.refl _
  | terminated => exact List.subset_append_left _ _
  | takes => exact List.Subset.refl _

/-- A process whose record has outlived its termination has been reported. -/
theorem Does.reportsAll (hd : Does host w s (.again w') s') (hw : w.ReportsAll s) :
    w'.ReportsAll s' := by
  intro h ht
  rcases hw.beside hd.startsNothing h ht with hp | hrep
  · refine (hd.pending hp).imp_right ?_
    rintro ⟨t, r, -, -, -, hf, hv⟩
    cases r with
    | ok => exact absurd ht (hv.gone rfl)
    | error failures =>
      obtain ⟨f, hmf⟩ := List.exists_mem_of_ne_nil _ (hv.nonempty failures rfl)
      refine ⟨⟨f, ?_, hv.component failures rfl f hmf⟩, fun q hq => ?_⟩
      · rw [hf]
        exact List.mem_append_right _ hmf
      · obtain ⟨q', hq', hpid⟩ := ht
        cases hq.symm.trans hq'
        exact hv.failed failures rfl q hq hpid
  · exact .inr (hrep.mono hd.failures_subset)

/-- A sweep ends when nothing is pending, with all its failures. -/
theorem Does.done {r : Result} (hd : Does host w s (.done r) s') :
    s' = s ∧ r = TerminationFailure.toResult w.failures ∧ ∀ h, ¬ w.Pending h := by
  cases hd with
  | ends hc hq =>
    refine ⟨rfl, rfl, ?_⟩
    rintro h (hm | ⟨t, ht, -⟩)
    · rw [hq] at hm
      exact List.not_mem_nil hm
    · exact absurd (hc.symm.trans ht) (by simp)

theorem ReportsAll.done (hw : w.ReportsAll s) (hnone : ∀ h, ¬ w.Pending h) :
    AllReported w.failures s :=
  fun h ht => (hw h ht).resolve_left (hnone h)

theorem NamesAll.done (hw : w.NamesAll host s) (hnone : ∀ h, ¬ w.Pending h) :
    AllNamed host w.failures s :=
  fun h hm hr => (hw h hm hr).resolve_left (hnone h)

/-! ## A step on a host whose trees hold their root -/

section Step

variable (hhost : host.TreesHoldRoots) (ha : Accounted host s) (hw : Sound host w s)

include hhost ha hw

theorem current_follows {t : Termination} (ht : w.current = some t) :
    Follows host t s (t.step host s) :=
  follows_step hhost ha (hw.current t ht)

theorem Does.extends (hd : Does host w s p s') : Extends host [] s s' := by
  cases hd with
  | terminates ht hstep =>
    have hf := (current_follows hhost ha hw ht).1
    rwa [hstep] at hf
  | terminated ht hstep =>
    have hf := (current_follows hhost ha hw ht).1
    rwa [hstep] at hf
  | takes => exact (Steady.refl s).extends
  | ends => exact (Steady.refl s).extends

variable (hend : StaysEnded host s s')

include hend

theorem Does.sound (hd : Does host w s (.again w') s') : Sound host w' s' := by
  have hs := hw.extends (hd.extends hhost ha hw) hend
  cases hd with
  | @terminates t t' _ ht hstep =>
    have hf := (current_follows hhost ha hw ht).2
    rw [hstep] at hf
    refine ⟨hs.queue, ?_⟩
    rintro _ ⟨rfl⟩
    exact hf hend
  | terminated => exact ⟨hs.queue, nofun⟩
  | @takes h rest hc hq =>
    refine ⟨fun h' hm => hs.queue h' (hq ▸ List.mem_cons_of_mem h hm), ?_⟩
    rintro _ ⟨rfl⟩
    exact sound_entry (hs.queue h (hq ▸ List.mem_cons_self)) _

/-- A root that has outlived its termination has been named. -/
theorem Does.namesAll (hd : Does host w s (.again w') s') (hn : w.NamesAll host s) :
    w'.NamesAll host s' := by
  have he := hd.extends hhost ha hw
  intro h hm hr
  rcases hn.beside hd.startsNothing hend h hm hr with hp | hnamed
  · refine (hd.pending hp).imp_right ?_
    rintro ⟨t, r, ht, rfl, hstep, hf, hv⟩
    cases r with
    | ok => exact absurd ((ha.extends he hend).tracked _ hm hr) (hv.gone rfl)
    | error failures =>
      have hfollows := (current_follows hhost ha hw ht).2
      rw [hstep] at hfollows
      obtain ⟨f, hmf, hpid⟩ := hfollows hend failures rfl hr
      refine ⟨f, ?_, hv.component failures rfl f hmf, hpid⟩
      rw [hf]
      exact List.mem_append_right _ hmf
  · exact .inr (hnamed.mono hd.failures_subset)

omit hw in
theorem Does.covers (hd : Does host w s (.again w') s') (hw : Covers host w s) :
    Covers host w' s' :=
  ⟨hd.sound hhost ha hw.toSound hend, hd.namesAll hhost ha hw.toSound hend hw.named,
    hd.reportsAll hw.reported⟩

end Step

end Sweep

end Launchpad
