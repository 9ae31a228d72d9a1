import Launchpad.Proofs.Supervisor.Survivors

/-!
# Processes that come while others are ended

A termination looks for its members once, when it begins, and both its passes go through what it has
found then. So a process that a member starts meanwhile is neither signalled nor looked at: it is
left alive by a termination that succeeds and drops the record (`late_child_outlives`). All others
are gone by then, and what lives of the group and of the trees has come since
(`offspring_ends_iff_reached`).
-/

namespace Launchpad.Termination

open Supervisor ExitWait

variable {σ : Type} {host : Host σ} {s s₁ s' : Supervisor σ} {t t' : Termination} {h : Handle}
  {all pids : List Pid} {r : Result} {config : TerminationConfig}
  {changes : List (Supervisor σ → Supervisor σ)}

/-- The group of a process and all that is below some processes, as far as they can be told. -/
def offspring (host : Host σ) (h : Handle) (all : List Pid) (s : Supervisor σ) : List Pid :=
  groupOf host h s ++ all.flatMap fun p => treeOf host ⟨h.component, p⟩ s

/-! ## Who is signalled -/

/-- The processes that are to be signalled in the pass that is under way, the next one first. -/
def Stage.queue : Stage → List Pid
  | .asking _ left => left
  | .forcing _ left => left
  | _ => []

theorem finish_done (h : Handle) (left : List Pid) (s : Supervisor σ) :
    ∃ r, (finish h left s).1 = .done r := by
  unfold finish
  split <;> exact ⟨_, rfl⟩

theorem finish_ne_again {left : List Pid} : (finish h left s).1 ≠ .again t := by
  obtain ⟨r, hr⟩ := finish_done h left s
  rw [hr]
  exact nofun

/-- A pass goes on, or the next one begins with all that will be looked at after it. -/
def QueueGoes (t t' : Termination) : Prop :=
  t'.stage.queue ⊆ t.stage.queue ∨ t'.stage.watched = some t'.stage.queue

theorem queueGoes_resumeGrace {p : Progress ExitWait (List Pid)}
    (heq : (t.resumeGrace p s).1 = .again t') : QueueGoes t t' := by
  unfold resumeGrace at heq
  split at heq
  · cases heq
    exact .inl (List.nil_subset _)
  · exact absurd heq finish_ne_again
  · cases heq
    exact .inr rfl

theorem queueGoes_resumeForced {p : Progress ExitWait (List Pid)}
    (heq : (t.resumeForced p s).1 = .again t') : QueueGoes t t' := by
  unfold resumeForced at heq
  split at heq
  · cases heq
    exact .inl (List.nil_subset _)
  · exact absurd heq finish_ne_again

theorem queueGoes_step (heq : (t.step host s).1 = .again t') : QueueGoes t t' := by
  obtain ⟨h, config, stage⟩ := t
  cases stage with
  | entry =>
    simp only [step, enter] at heq
    split at heq
    · cases heq
    · split at heq
      · exact absurd heq finish_ne_again
      · cases heq
        exact .inr rfl
  | asking members left =>
    cases left with
    | cons p left =>
      cases heq
      exact .inl (List.subset_cons_self p left)
    | nil => exact queueGoes_resumeGrace heq
  | grace wait => exact queueGoes_resumeGrace heq
  | forcing survivors left =>
    cases left with
    | cons p left =>
      cases heq
      exact .inl (List.subset_cons_self p left)
    | nil => exact queueGoes_resumeForced heq
  | forced wait => exact queueGoes_resumeForced heq

/-- Whom a termination looks at is among those that it has looked at before. -/
theorem watched_step (heq : t.step host s = (.again t', s')) (hw : t.stage.watched = some pids) :
    ∃ pids', t'.stage.watched = some pids' ∧ pids' ⊆ pids := by
  have hd := step_does host t s
  have hentry (hstage : t.stage = .entry) : False := by
    rw [hstage] at hw
    cases hw
  have hagain {left : List Pid} {s'' : Supervisor σ}
      (hfinish : finish t.handle left s'' = (.again t', s')) : False :=
    finish_ne_again (congrArg Prod.fst hfinish)
  generalize t.step host s = x at hd heq
  cases hd with
  | misses hstage => exact (hentry hstage).elim
  | finds hstage => exact (hentry hstage).elim
  | findsNobody hstage => exact (hentry hstage).elim
  | signals hwatched hstays =>
    cases heq
    cases hwatched.symm.trans hw
    exact ⟨_, hstays, List.Subset.refl _⟩
  | waits hwatched _ hstays =>
    cases heq
    cases hwatched.symm.trans hw
    exact ⟨_, hstays, List.Subset.refl _⟩
  | forces hwatched _ hleft =>
    cases heq
    cases hwatched.symm.trans hw
    exact ⟨_, rfl, hleft ▸ List.filter_sublist.subset⟩
  | finishes => exact (hagain heq).elim

/-- A termination that signals and looks at nobody but some processes. -/
def Within (all : List Pid) (t : Termination) : Prop :=
  (∃ pids, t.stage.watched = some pids ∧ pids ⊆ all) ∧ t.stage.queue ⊆ all

theorem Within.step (hw : Within all t) (heq : t.step host s = (.again t', s')) :
    Within all t' := by
  obtain ⟨⟨pids, hpids, hsub⟩, hqueue⟩ := hw
  obtain ⟨pids', hpids', hsub'⟩ := watched_step heq hpids
  refine ⟨⟨pids', hpids', List.Subset.trans hsub' hsub⟩, ?_⟩
  rcases queueGoes_step (congrArg Prod.fst heq) with hgoes | hall
  · exact List.Subset.trans hgoes hqueue
  · cases hpids'.symm.trans hall
    exact List.Subset.trans hsub' hsub

/-- A termination that begins and goes on is that of a process with a record, and asks its targets
to end. -/
theorem step_entry (hstage : t.stage = .entry) (heq : t.step host s = (.again t', s')) :
    s.Tracked t.handle ∧
      t' = { t with stage := .asking (targets host t.handle s) (targets host t.handle s) } := by
  have hd := step_does host t s
  have hnone : t.stage.watched = none := by rw [hstage]; rfl
  generalize t.step host s = x at hd heq
  cases hd with
  | misses => cases heq
  | finds _ ht =>
    cases heq
    exact ⟨ht, rfl⟩
  | findsNobody => exact absurd (congrArg Prod.fst heq) finish_ne_again
  | signals hwatched => cases hnone.symm.trans hwatched
  | waits hwatched => cases hnone.symm.trans hwatched
  | forces hwatched => cases hnone.symm.trans hwatched
  | finishes hwatched => cases hnone.symm.trans hwatched

/-- A termination that begins goes for the processes in reach. -/
theorem within_of_entry (heq : step host { handle := h, config } s = (.again t', s')) :
    Within (reached host h s) t' := by
  obtain ⟨-, rfl⟩ := step_entry rfl heq
  have hsub : targets host h s ⊆ reached host h s := fun _ => mem_targets_iff.mp
  exact ⟨⟨_, rfl, hsub⟩, hsub⟩

theorem Within.drive (hw : Within all t)
    (hrun : Launchpad.drive (Termination.step host) t s changes = (.again t', s')) :
    Within all t' := by
  induction changes generalizing t s with
  | nil =>
    cases hrun
    exact hw
  | cons change changes ih =>
    unfold Launchpad.drive at hrun
    split at hrun
    · next t₁ s₁ heq => exact ih (hw.step heq) hrun
    · cases hrun

/-- Nobody is ever to be signalled who was not in reach at the beginning. -/
theorem queue_subset_reached
    (hrun : drive (step host) { handle := h, config } s changes = (.again t, s')) :
    t.stage.queue ⊆ reached host h s := by
  cases changes with
  | nil =>
    cases hrun
    exact List.nil_subset _
  | cons change changes =>
    unfold drive at hrun
    split at hrun
    · next t₁ s₁ heq => exact ((within_of_entry heq).drive hrun).2
    · cases hrun

/-! ## Who is left -/

/-- Those that were in reach are gone when nobody is told of. -/
theorem Tells.not_lives (htells : Tells host h all s₁ (.ok ()) s') (ht : s₁.Tracked h) {p : Pid}
    (hp : p ∈ all) : ¬ Lives host h s' p := by
  intro hlives
  have hfinds : findsAlive host h s₁ p = true := by
    rw [findsAlive_iff ht]
    unfold Lives Runs at hlives ⊢
    rwa [htells.world, htells.now] at hlives
  obtain ⟨f, hf, -⟩ := (htells.names p).mpr ⟨hp, hfinds⟩
  exact List.not_mem_nil hf

/-- When a termination succeeds and drops its record, all that it reached at its beginning is gone.
The group and the trees are gone as a whole if and only if all that lives of them was in reach then:
whatever happens meanwhile, nobody else is ever signalled. -/
theorem offspring_ends_iff_reached
    (hgone : StayGoneDuring host h (reached host h s) { handle := h, config } s changes)
    (hrun : drive (step host) { handle := h, config } s changes = (.again t, s₁))
    (hend : t.step host s₁ = (.done (.ok ()), s')) (ht : s₁.Tracked h) :
    ¬ s'.Tracked h ∧ (∀ p ∈ reached host h s, ¬ Lives host h s' p) ∧
    ((∀ p ∈ offspring host h (reached host h s) s', ¬ Lives host h s' p) ↔
      ∀ p ∈ offspring host h (reached host h s) s', Lives host h s' p → p ∈ reached host h s) ∧
    ∀ changes' t' s'', drive (step host) { handle := h, config } s changes' = (.again t', s'') →
      t'.stage.queue ⊆ reached host h s := by
  have htells := told_of_drive hgone hrun hend ht
  have hnone {p : Pid} (hp : p ∈ reached host h s) : ¬ Lives host h s' p := htells.not_lives ht hp
  refine ⟨htells.gone rfl, fun p => hnone, ⟨fun hall p hp hlives => ?_, fun hall p hp hlives => ?_⟩,
    fun _ _ _ => queue_subset_reached⟩
  · exact absurd hlives (hall p hp)
  · exact hnone (hall p hp hlives) hlives

section Example

open Scripted

/-- A main runtime with another process in its group, which ends with it when it is asked to. -/
def grouped : Supervisor World :=
  let plan : Plan := { treeFails := true, group := [stray] }
  launchedOn { script := { plans := .const plan, bystanders := [(stray, {})] } }

/-- The main runtime when both have been asked to end. -/
def askedBoth : Supervisor World :=
  (drive (step plainHost) ending grouped (List.replicate 3 id)).2

def endedBoth : Supervisor World :=
  (step plainHost { ending with stage := .asking [stray, ending.handle.pid] [] } askedBoth).2

theorem offspring_ends_with_main_runtime :
    ∃ t s', drive (step plainHost) ending grouped (List.replicate 3 id) = (.again t, askedBoth) ∧
      t.step plainHost askedBoth = (.done (.ok ()), s') ∧ askedBoth.Tracked ending.handle ∧
      stray ∈ reached plainHost ending.handle grouped ∧
      ∀ p ∈ offspring plainHost ending.handle (reached plainHost ending.handle grouped) s',
        ¬ Lives plainHost ending.handle s' p := by
  have hgone : StayGoneDuring plainHost ending.handle (reached plainHost ending.handle grouped)
      ending grouped (List.replicate 3 id) := by decide +kernel
  have hrun : drive (step plainHost) ending grouped (List.replicate 3 id) =
      (.again { ending with stage := .asking [stray, ending.handle.pid] [] }, askedBoth) := rfl
  have hend : step plainHost { ending with stage := .asking [stray, ending.handle.pid] [] }
      askedBoth = (.done (.ok ()), endedBoth) := Prod.ext rfl rfl
  have htracked : askedBoth.Tracked ending.handle := ⟨_, rfl, rfl⟩
  obtain ⟨-, -, hiff, -⟩ := offspring_ends_iff_reached hgone hrun hend htracked
  exact ⟨_, _, hrun, hend, htracked, by decide +kernel, hiff.mpr (by decide +kernel)⟩

/-- A call that terminates the main runtime with time to end. -/
def parting : Termination :=
  { ending with config := { gracePeriodMs := 100, forceWaitMs := 100 } }

/-- A main runtime that does not end when it is asked to. -/
def busy : Supervisor World :=
  let plan : Plan := { terminate := { endsAfter := none }, treeFails := true, group := [stray] }
  launchedOn { script := { plans := .const plan } }

/-- The stray process is started, and ignores every signal. -/
def forks (s : Supervisor World) : Supervisor World :=
  let deaf : Bystander := { terminate := { endsAfter := none }, kill := { endsAfter := none } }
  { s with world.script := s.world.script.setBystander stray deaf }

/-- What happens while the main runtime is terminated: in the grace period, it starts a process. -/
def forksInGrace : List (Supervisor World → Supervisor World) :=
  [id, id, forks ∘ passes, passes, id, id]

/-- The main runtime when it has been killed. -/
def killedAfterFork : Supervisor World := (drive (step plainHost) parting busy forksInGrace).2

def forgottenAfterFork : Supervisor World :=
  (step plainHost { parting with stage := .forcing [parting.handle.pid] [] } killedAfterFork).2

/-- A process that is started in the grace period outlives a termination that succeeds. -/
theorem late_child_outlives :
    ∃ t s', drive (step plainHost) parting busy forksInGrace = (.again t, killedAfterFork) ∧
      t.step plainHost killedAfterFork = (.done (.ok ()), s') ∧
      killedAfterFork.Tracked parting.handle ∧ ¬ s'.Tracked parting.handle ∧
      stray ∈ groupOf plainHost parting.handle s' ∧ Lives plainHost parting.handle s' stray := by
  have hrun : drive (step plainHost) parting busy forksInGrace =
      (.again { parting with stage := .forcing [parting.handle.pid] [] }, killedAfterFork) :=
    Prod.ext rfl rfl
  have hend : step plainHost { parting with stage := .forcing [parting.handle.pid] [] }
      killedAfterFork = (.done (.ok ()), forgottenAfterFork) := Prod.ext rfl rfl
  refine ⟨_, _, hrun, hend, ⟨_, rfl, rfl⟩, ?_, by decide +kernel, by decide +kernel⟩
  rintro ⟨r, hr, -⟩
  cases hr

end Example

end Launchpad.Termination
