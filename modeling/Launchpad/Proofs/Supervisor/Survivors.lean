import Launchpad.Proofs.Scripted.Host
import Launchpad.Proofs.Supervisor.Sweep

/-!
# Which survivors a termination tells of

A termination goes for the processes that it reaches when it begins, and in the end it tells of
those of them that are alive, whatever happens meanwhile (`told_of_drive`). The members of the tree
of its root are in reach only while the root runs, those of its group always. So a process that one
termination has told of is forgotten by a later one, which succeeds and drops the record, if the
root has ended since and the process is not in its group: `survivor_is_forgotten_iff`.
-/

namespace Launchpad

/-- Goes on with a call, and lets one of some changes happen after each step, until either ends. -/
def drive {κ α S : Type} (step : κ → S → Progress κ α × S) (c : κ) (s : S) :
    List (S → S) → Progress κ α × S
  | [] => (.again c, s)
  | change :: changes =>
    match step c s with
    | (.again c, s) => drive step c (change s) changes
    | (.done r, s) => (.done r, s)

theorem drive_again {κ α S : Type} {step : κ → S → Progress κ α × S} {c c' : κ} {s s' : S}
    (hstep : step c s = (.again c', s')) (change : S → S) (changes : List (S → S)) :
    drive step c s (change :: changes) = drive step c' (change s') changes := by
  rw [drive, hstep]

namespace ProcessTree

theorem childrenOf_only {root p : Pid} (hne : p ≠ root) (q : Pid) :
    childrenOf [⟨p, root⟩] q = if q = root then [p] else [] := by
  unfold childrenOf
  by_cases hq : q = root
  · simp [hq, hne, sortBy, insertBy]
  · simp [hq, Ne.symm hq, sortBy]

/-- The tree of a process that has started one other process. -/
theorem ofLinks_only {root p : Pid} (hne : p ≠ root) : ofLinks root [⟨p, root⟩] = ⟨root, [p]⟩ := by
  unfold ofLinks
  rw [childrenOf_only hne, if_pos rfl, List.length_singleton, visit, if_neg (by simpa using hne),
    childrenOf_only hne, if_neg hne]
  simp [visit]

end ProcessTree

namespace Termination

open Supervisor ExitWait

variable {σ : Type} {host : Host σ} {s s₁ s' : Supervisor σ} {t t' : Termination} {h : Handle}
  {all : List Pid} {r : Result} {x : Step σ} {config : TerminationConfig}
  {changes : List (Supervisor σ → Supervisor σ)}

/-! ## What is in reach -/

/-- The members of the tree of a process, or the process alone if they cannot be told. -/
def treeOf (host : Host σ) (h : Handle) (s : Supervisor σ) : List Pid :=
  match host.processTree s.now h.pid s.world with
  | .ok tree => tree.members
  | .error _ => [h.pid]

/-- The other processes in the group of a process, none if they cannot be told. -/
def groupOf (host : Host σ) (h : Handle) (s : Supervisor σ) : List Pid :=
  match host.groupMembers s.now h.pid s.world with
  | .ok pids => pids
  | .error _ => []

/-- The processes that a termination reaches: the tree counts only while the root runs. -/
def reached (host : Host σ) (h : Handle) (s : Supervisor σ) : List Pid :=
  (if Runs host h s then treeOf host h s else []) ++ groupOf host h s

theorem treeMembers_eq (host : Host σ) (h : Handle) (rootAlive : Bool) (s : Supervisor σ) :
    (treeMembers host h rootAlive s).1 = if rootAlive then treeOf host h s else [] := by
  unfold treeMembers treeOf
  cases rootAlive with
  | false => rfl
  | true =>
    dsimp only [note]
    cases host.processTree s.now h.pid s.world <;> rfl

theorem treeMembers_of_ok {tree : ProcessTree}
    (htree : host.processTree s.now h.pid s.world = .ok tree) :
    treeMembers host h true s = (tree.members, s.note (.processTree h.pid)) := by
  unfold treeMembers
  dsimp only [note]
  rw [if_pos rfl, htree]

theorem stragglers_eq (host : Host σ) (h : Handle) (tree : List Pid) (s : Supervisor σ) :
    (stragglers host h tree s).1 = (groupOf host h s).filter fun p => !tree.contains p := by
  unfold stragglers groupOf
  dsimp only [note]
  cases host.groupMembers s.now h.pid s.world <;> rfl

theorem treeOf_still (hs : Still s s') : treeOf host h s' = treeOf host h s := by
  unfold treeOf
  rw [hs.now, hs.world]

theorem groupOf_still (hs : Still s s') : groupOf host h s' = groupOf host h s := by
  unfold groupOf
  rw [hs.now, hs.world]

/-- A termination goes for the processes in reach. -/
theorem mem_targets_iff {p : Pid} : p ∈ targets host h s ↔ p ∈ reached host h s := by
  have hobs := still_observeTracked host h s
  have htree := still_treeMembers host h (decide (Runs host h s)) (s.observeTracked host h).2
  unfold targets members reached
  dsimp only
  rw [stragglers_eq, groupOf_still (hobs.trans htree), treeMembers_eq, treeOf_still hobs]
  simp only [decide_eq_true_iff, List.mem_append, List.mem_filter]
  by_cases hp : p ∈ if Runs host h s then treeOf host h s else []
  · simp only [hp, or_true, true_or]
  · simp [hp]

/-! ## What is told -/

/-- Whether a process of a tree is alive: the root as a child of the launcher, every other one by
itself. -/
def Lives (host : Host σ) (h : Handle) (s : Supervisor σ) (p : Pid) : Prop :=
  if p = h.pid then Runs host h s else host.isAlive s.now p s.world = true

instance (host : Host σ) (h : Handle) (s : Supervisor σ) (p : Pid) :
    Decidable (Lives host h s p) :=
  inferInstanceAs (Decidable (ite ..))

/-- None of some processes that was gone is found again, be it under an identifier used anew. -/
def StayGone (host : Host σ) (h : Handle) (all : List Pid) (s s' : Supervisor σ) : Prop :=
  ∀ p ∈ all, findsAlive host h s' p = true → findsAlive host h s p = true

/-- The same throughout a termination and all the changes that happen meanwhile. -/
def StayGoneDuring (host : Host σ) (h : Handle) (all : List Pid) (t : Termination)
    (s : Supervisor σ) : List (Supervisor σ → Supervisor σ) → Prop
  | [] => True
  | change :: changes =>
    match t.step host s with
    | (.again t, s') =>
      StayGone host h all s (change s') ∧ StayGoneDuring host h all t (change s') changes
    | (.done _, _) => True

instance (host : Host σ) (h : Handle) (all : List Pid) (s s' : Supervisor σ) :
    Decidable (StayGone host h all s s') :=
  inferInstanceAs (Decidable (∀ p ∈ all, _))

instance decidableStayGoneDuring (host : Host σ) (h : Handle) (all : List Pid) :
    ∀ (t : Termination) (s : Supervisor σ) (changes : List (Supervisor σ → Supervisor σ)),
      Decidable (StayGoneDuring host h all t s changes)
  | _, _, [] => isTrue trivial
  | t, s, change :: changes =>
    match hstep : t.step host s with
    | (.again t', s') =>
      have := decidableStayGoneDuring host h all t' (change s') changes
      decidable_of_iff (StayGone host h all s (change s') ∧
        StayGoneDuring host h all t' (change s') changes) (by rw [StayGoneDuring, hstep])
    | (.done _, _) => isTrue (by rw [StayGoneDuring, hstep]; trivial)

theorem findsAlive_iff (ht : s.Tracked h) {p : Pid} :
    findsAlive host h s p = true ↔ Lives host h s p := by
  unfold Lives
  by_cases hp : p = h.pid
  · rw [hp, findsAlive_root, if_pos rfl]
    exact and_iff_right ht
  · unfold findsAlive
    rw [if_neg hp, if_neg hp]

/-- A termination watches all of some processes that are alive. -/
structure Watches (host : Host σ) (h : Handle) (all : List Pid) (t : Termination)
    (s : Supervisor σ) : Prop where
  handle : t.handle = h
  waits : ∀ wait, t.stage.wait? = some wait → wait.handle = h
  alive : ∃ pids, t.stage.watched = some pids ∧ pids ⊆ all ∧
    ∀ p ∈ all, findsAlive host h s p = true → p ∈ pids

/-- The result of a termination tells of those of some processes that were found alive. -/
structure Tells (host : Host σ) (h : Handle) (all : List Pid) (s : Supervisor σ) (r : Result)
    (s' : Supervisor σ) : Prop where
  world : s'.world = s.world
  now : s'.now = s.now
  names : ∀ p, Sweep.Names (Sweep.failuresOf r) ⟨h.component, p⟩ ↔
    p ∈ all ∧ findsAlive host h s p = true
  gone : r = .ok () → ¬ s'.Tracked h
  error : ∀ failures, r = .error failures → ∃ p, Sweep.Names failures ⟨h.component, p⟩

theorem names_failureOf {left : List Pid} {c : Component} {p : Pid} :
    Sweep.Names (left.map (failureOf c)) ⟨c, p⟩ ↔ p ∈ left := by
  constructor
  · rintro ⟨f, hf, -, hp⟩
    obtain ⟨q, hq, rfl⟩ := List.mem_map.mp hf
    cases hp
    exact hq
  · intro hp
    exact ⟨failureOf c p, List.mem_map_of_mem hp, rfl, rfl⟩

theorem finish_machine (h : Handle) (left : List Pid) (s : Supervisor σ) :
    (finish h left s).2.world = s.world ∧ (finish h left s).2.now = s.now := by
  unfold finish
  dsimp only
  split
  · split <;> exact ⟨rfl, rfl⟩
  · split <;> exact ⟨rfl, rfl⟩

/-- What a step leaves of a termination that watches all that are alive. -/
def Proceeds (host : Host σ) (h : Handle) (all : List Pid) (s : Supervisor σ) (x : Step σ) :
    Prop :=
  match x.1 with
  | .again t => ∀ s'', StayGone host h all s s'' → Watches host h all t s''
  | .done r => Tells host h all s r x.2

theorem proceeds_finish (hs : Still s s') {left : List Pid}
    (hleft : ∀ p, p ∈ left ↔ p ∈ all ∧ findsAlive host h s p = true) :
    Proceeds host h all s (finish h left s') := by
  have hmachine := finish_machine h left s'
  rw [hs.world, hs.now] at hmachine
  by_cases hnil : left = []
  · subst hnil
    obtain ⟨s'', heq, -, hgone, -⟩ := finish_nil h s'
    rw [heq] at hmachine ⊢
    refine ⟨hmachine.1, hmachine.2, fun p => ?_, fun _ => hgone, nofun⟩
    rw [← hleft p]
    exact ⟨fun ⟨f, hf, _⟩ => absurd hf List.not_mem_nil, fun hp => absurd hp List.not_mem_nil⟩
  · obtain ⟨s'', heq, -, -⟩ := finish_of_ne_nil hnil h s'
    rw [heq] at hmachine ⊢
    refine ⟨hmachine.1, hmachine.2, fun p => ?_, nofun, ?_⟩
    · rw [← hleft p]
      exact names_failureOf
    · rintro _ ⟨rfl⟩
      obtain ⟨p, hp⟩ := List.exists_mem_of_ne_nil left hnil
      exact ⟨p, names_failureOf.mpr hp⟩

/-- A termination that goes on to watch all that are alive. -/
theorem proceeds_again {pids : List Pid} (hh : t'.handle = h)
    (hwaits : ∀ wait, t'.stage.wait? = some wait → wait.handle = h)
    (hwatched : t'.stage.watched = some pids) (hsub : pids ⊆ all)
    (halive : ∀ p ∈ all, findsAlive host h s p = true → p ∈ pids) :
    Proceeds host h all s (.again t', s') :=
  fun _ hgone => ⟨hh, hwaits, pids, hwatched, hsub,
    fun p hp hfound => halive p hp (hgone p hp hfound)⟩

/-- A termination whose record is there begins to watch the processes in reach. -/
theorem Does.proceeds_of_entry (hd : Does host t s x) (hstage : t.stage = .entry)
    (ht : s.Tracked t.handle) : Proceeds host t.handle (reached host t.handle s) s x := by
  have hnone : t.stage.watched = none := by rw [hstage]; rfl
  cases hd with
  | misses _ hnot => exact absurd ht hnot
  | finds =>
    exact proceeds_again rfl (by simp [Stage.wait?]) rfl (fun _ => mem_targets_iff.mp)
      fun p hp _ => mem_targets_iff.mpr hp
  | findsNobody _ _ hnil hs =>
    refine proceeds_finish hs fun p => ?_
    rw [← mem_targets_iff, hnil]
    simp
  | signals hwatched => cases hnone.symm.trans hwatched
  | waits hwatched => cases hnone.symm.trans hwatched
  | forces hwatched => cases hnone.symm.trans hwatched
  | finishes hwatched => cases hnone.symm.trans hwatched

/-- A look at all that are alive finds them. -/
theorem Watches.mem_left_iff {wait : ExitWait} {left : List Pid} (hw : Watches host h all t s)
    (hwatched : t.stage.watched = some wait.pids)
    (hwait : wait.handle = t.handle ∨ t.stage.wait? = some wait)
    (hleft : wait.pids.filter (findsAlive host wait.handle s) = left) (p : Pid) :
    p ∈ left ↔ p ∈ all ∧ findsAlive host h s p = true := by
  obtain ⟨pids, hpids, hsub, halive⟩ := hw.alive
  cases hwatched.symm.trans hpids
  have hh : wait.handle = h := hwait.elim (·.trans hw.handle) (hw.waits wait)
  rw [← hleft, hh, List.mem_filter]
  exact ⟨fun ⟨hp, hf⟩ => ⟨hsub hp, hf⟩, fun ⟨hp, hf⟩ => ⟨halive p hp hf, hf⟩⟩

theorem Does.proceeds (hd : Does host t s x) (hw : Watches host h all t s) :
    Proceeds host h all s x := by
  obtain ⟨pids, hpids, hsub, halive⟩ := hw.alive
  have hentry (hstage : t.stage = .entry) : False := by
    rw [hstage] at hpids
    cases hpids
  cases hd with
  | misses hstage => exact (hentry hstage).elim
  | finds hstage => exact (hentry hstage).elim
  | findsNobody hstage => exact (hentry hstage).elim
  | signals hwatched hstays hnone =>
    cases hwatched.symm.trans hpids
    exact proceeds_again hw.handle (by simp [hnone]) hstays hsub halive
  | waits hwatched hwait hstays hsome hh =>
    cases hwatched.symm.trans hpids
    refine proceeds_again hw.handle ?_ hstays hsub halive
    rintro _ hwait'
    cases hsome.symm.trans hwait'
    exact hh.trans (hwait.elim (·.trans hw.handle) (hw.waits _))
  | forces hwatched hwait hleft =>
    have hmem := hw.mem_left_iff hwatched hwait hleft
    exact proceeds_again hw.handle (by simp [Stage.wait?]) rfl (fun p hp => ((hmem p).mp hp).1)
      fun p hp hf => (hmem p).mpr ⟨hp, hf⟩
  | finishes hwatched hwait hleft hs =>
    have hmem := hw.mem_left_iff hwatched hwait hleft
    exact hw.handle ▸ proceeds_finish hs (hw.handle ▸ hmem)

/-! ## A whole termination -/

theorem Watches.drive (hw : Watches host h all t s)
    (hgone : StayGoneDuring host h all t s changes)
    (hrun : Launchpad.drive (step host) t s changes = (.again t', s')) :
    Watches host h all t' s' := by
  induction changes generalizing t s with
  | nil =>
    cases hrun
    exact hw
  | cons change changes ih =>
    have hproceeds := (step_does host t s).proceeds hw
    unfold Launchpad.drive at hrun
    unfold StayGoneDuring at hgone
    split at hrun
    · next t₁ s₁ heq =>
      rw [heq] at hproceeds hgone
      exact ih (hproceeds _ hgone.1) hgone.2 hrun
    · cases hrun

/-- A termination tells of the processes that it reached at its beginning and that live at its end. -/
theorem told_of_drive
    (hgone : StayGoneDuring host h (reached host h s) { handle := h, config } s changes)
    (hrun : drive (step host) { handle := h, config } s changes = (.again t, s₁))
    (hend : t.step host s₁ = (.done r, s')) (ht : s₁.Tracked h) :
    Tells host h (reached host h s) s₁ r s' := by
  have htells {t : Termination} {s₁ : Supervisor σ} (hend : t.step host s₁ = (.done r, s'))
      (hp : Proceeds host h (reached host h s) s₁ (t.step host s₁)) :
      Tells host h (reached host h s) s₁ r s' := by
    rwa [hend] at hp
  cases changes with
  | nil =>
    cases hrun
    exact htells hend ((step_does host _ _).proceeds_of_entry rfl ht)
  | cons change changes =>
    unfold drive at hrun
    unfold StayGoneDuring at hgone
    by_cases hs : s.Tracked h
    · have hproceeds : Proceeds host h (reached host h s) s
          (step host { handle := h, config } s) :=
        (step_does host _ s).proceeds_of_entry rfl hs
      split at hrun
      · next t₀ s₀ heq =>
        rw [heq] at hproceeds hgone
        have hwatches := (hproceeds _ hgone.1).drive hgone.2 hrun
        exact htells hend ((step_does host t s₁).proceeds hwatches)
      · cases hrun
    · have hover : step host { handle := h, config } s = (.done (.ok ()), s) := by
        unfold step enter
        dsimp only
        rw [observeTracked_of_not_tracked hs]
      rw [hover] at hrun
      cases hrun

end Termination

namespace Sweep

variable {σ : Type} {host : Host σ} {s s₁ s' s'' : Supervisor σ} {w : Sweep} {t t' : Termination}
  {r R : Termination.Result} {changes later : List (Supervisor σ → Supervisor σ)}
  {change : Supervisor σ → Supervisor σ}

theorem failuresOf_toResult (failures : List TerminationFailure) :
    failuresOf (TerminationFailure.toResult failures) = failures := by
  unfold TerminationFailure.toResult
  split
  · next hnil => exact (List.isEmpty_iff.mp hnil).symm
  · rfl

/-- A sweep tells of all that it has found on its way. -/
theorem failures_of_drive (hrun : drive (step host) w s changes = (.done R, s')) :
    w.failures ⊆ failuresOf R := by
  induction changes generalizing w s with
  | nil => cases hrun
  | cons change changes ih =>
    have hdoes := step_does host w s
    unfold drive at hrun
    split at hrun
    · next w₁ s₁ heq =>
      rw [heq] at hdoes
      exact List.Subset.trans hdoes.failures_subset (ih hrun)
    · next heq =>
      rw [heq] at hdoes
      cases hrun
      rw [hdoes.done.2.1, failuresOf_toResult]
      exact List.Subset.refl _

/-- A sweep goes through its current termination and tells of all that this one tells of. -/
theorem failures_of_termination (hc : w.current = some t)
    (hrun : drive (Termination.step host) t s changes = (.again t', s₁))
    (hend : t'.step host s₁ = (.done r, s'))
    (hsweep : drive (step host) w s (changes ++ change :: later) = (.done R, s'')) :
    failuresOf r ⊆ failuresOf R := by
  induction changes generalizing w t s with
  | nil =>
    cases hrun
    have hstep : w.step host s₁ = (.again (w.resume (.done r)), s') := by
      unfold step
      rw [hc]
      dsimp only
      rw [hend]
    rw [List.nil_append, drive_again hstep] at hsweep
    exact List.Subset.trans (List.subset_append_right w.failures _) (failures_of_drive hsweep)
  | cons next changes ih =>
    unfold drive at hrun
    split at hrun
    · next t₀ s₀ heq =>
      have hstep : w.step host s = (.again (w.resume (.again t₀)), s₀) := by
        unfold step
        rw [hc]
        dsimp only
        rw [heq]
      rw [List.cons_append, drive_again hstep] at hsweep
      exact ih rfl hrun hsweep
    · cases hrun

end Sweep

namespace Termination

open Supervisor

variable {σ : Type} {host : Host σ} {s s₁ s' : Supervisor σ} {t : Termination} {h : Handle}
  {r : Result} {config : TerminationConfig} {changes : List (Supervisor σ → Supervisor σ)}

/-- A termination drops the record that it finds at its end while some processes still live if and
only if it has reached none of them at its beginning. It names those that it has reached, and so
does every sweep that it is part of. -/
theorem survivor_is_forgotten_iff
    (hgone : StayGoneDuring host h (reached host h s) { handle := h, config } s changes)
    (hrun : drive (step host) { handle := h, config } s changes = (.again t, s₁))
    (hend : t.step host s₁ = (.done r, s')) :
    (s₁.Tracked h ∧ r = .ok () ∧ ¬ s'.Tracked h ↔
      s₁.Tracked h ∧ ∀ p ∈ reached host h s, ¬ Lives host h s' p) ∧
    (s₁.Tracked h → ∀ p, Lives host h s' p →
      (Sweep.Names (Sweep.failuresOf r) ⟨h.component, p⟩ ↔ p ∈ reached host h s)) ∧
    ∀ (w : Sweep) (change : Supervisor σ → Supervisor σ) (later) (R : Result) (s''),
      w.current = some { handle := h, config } →
      drive (Sweep.step host) w s (changes ++ change :: later) = (.done R, s'') →
      Sweep.failuresOf r ⊆ Sweep.failuresOf R := by
  have hnames (ht : s₁.Tracked h) (p : Pid) : Sweep.Names (Sweep.failuresOf r) ⟨h.component, p⟩ ↔
      p ∈ reached host h s ∧ Lives host h s' p := by
    have htells := told_of_drive hgone hrun hend ht
    rw [htells.names p, findsAlive_iff ht]
    unfold Lives Runs
    rw [htells.world, htells.now]
  refine ⟨and_congr_right fun ht => ⟨?_, fun hall => ?_⟩, fun ht p hp => ?_, ?_⟩
  · rintro ⟨rfl, -⟩ p hp hlives
    obtain ⟨f, hf, -⟩ := (hnames ht p).mpr ⟨hp, hlives⟩
    exact List.not_mem_nil hf
  · have htells := told_of_drive hgone hrun hend ht
    cases r with
    | ok => exact ⟨rfl, htells.gone rfl⟩
    | error failures =>
      obtain ⟨p, hp⟩ := htells.error failures rfl
      obtain ⟨hreached, hlives⟩ := (hnames ht p).mp hp
      exact absurd hlives (hall p hreached)
  · exact (hnames ht p).trans (and_iff_left hp)
  · intro w change later R s'' hc hsweep
    exact Sweep.failures_of_termination hc hrun hend hsweep

section Example

open Scripted

/-- A call that terminates the main runtime. -/
def ending : Termination := { handle := ⟨.mainRuntime, .ofNat 101⟩, config := hasty.termination }

/-- The main runtime has been launched on a machine. -/
def launchedOn (world : World) : Supervisor World :=
  (launch plainHost .mainRuntime { program := ⟨"camunda"⟩ } { world }).2

/-- The clock moves on to the next look. -/
def passes (s : Supervisor World) : Supervisor World := { s with now := s.now + exitPollInterval }

/-- A main runtime that ignores every signal. -/
def enduring : Supervisor World := launchedOn (machine (.const stubborn))

/-- What happens while it is terminated: after the kill the clock moves on. -/
def meanwhile : List (Supervisor World → Supervisor World) := List.replicate 4 id ++ [passes]

/-- The main runtime when it has been given the time for that. -/
def endured : Supervisor World := (drive (step plainHost) ending enduring meanwhile).2

/-- The look that comes then. -/
def lastLook : ExitWait :=
  { ExitWait.start ending.handle [ending.handle.pid] ending.config.forceWait 0 with
    wakeAt := exitPollInterval }

/-- The main runtime that has been reported. -/
def reportedRoot : Supervisor World :=
  (step plainHost { ending with stage := .forced lastLook } endured).2

theorem enduring_root_is_named :
    ∃ t failures s', drive (step plainHost) ending enduring meanwhile = (.again t, endured) ∧
      t.step plainHost endured = (.done (.error failures), s') ∧ endured.Tracked ending.handle ∧
      Lives plainHost ending.handle s' ending.handle.pid ∧ Sweep.Names failures ending.handle := by
  have hgone : StayGoneDuring plainHost ending.handle (reached plainHost ending.handle enduring)
      ending enduring meanwhile := by decide +kernel
  have hrun : drive (step plainHost) ending enduring meanwhile =
      (.again { ending with stage := .forced lastLook }, endured) := rfl
  have hend : step plainHost { ending with stage := .forced lastLook } endured =
      (.done (.error [failureOf .mainRuntime ending.handle.pid]), reportedRoot) := Prod.ext rfl rfl
  have htracked : endured.Tracked ending.handle := ⟨_, rfl, rfl⟩
  have hlives : Lives plainHost ending.handle reportedRoot ending.handle.pid := by decide +kernel
  have hreached : ending.handle.pid ∈ reached plainHost ending.handle enduring := by decide +kernel
  obtain ⟨-, hnames, -⟩ := survivor_is_forgotten_iff hgone hrun hend
  exact ⟨_, _, _, hrun, hend, htracked, hlives, (hnames htracked _ hlives).mpr hreached⟩

/-- A process that ignores every signal. -/
def stray : Pid := .ofNat 5000001

/-- A machine on which every process that is launched starts the stray one. -/
def strayMachine : World where
  script := {
    plans := .const { tree := [⟨stray, none⟩] }
    bystanders := [(stray, { terminate := { endsAfter := none }, kill := { endsAfter := none } })] }

/-- What a termination of the main runtime finds on it. -/
def strayFound : Supervisor World :=
  (((launchedOn strayMachine).observeTracked plainHost ending.handle).2.note
    (.processTree ending.handle.pid)).note (.processGroup ending.handle.pid)

theorem enter_stray : ending.step plainHost (launchedOn strayMachine) =
    (.again { ending with
        stage := .asking [stray, ending.handle.pid] [stray, ending.handle.pid] }, strayFound) := by
  have hobserved : (launchedOn strayMachine).observeTracked plainHost ending.handle =
      (some true, ((launchedOn strayMachine).observeTracked plainHost ending.handle).2) := rfl
  have htree : plainHost.processTree 0 ending.handle.pid (launchedOn strayMachine).world =
      .ok ⟨ending.handle.pid, [stray]⟩ :=
    congrArg Except.ok (ProcessTree.ofLinks_only (by decide))
  change enter plainHost ending (launchedOn strayMachine) = _
  unfold enter
  rw [hobserved]
  dsimp only
  unfold members
  rw [treeMembers_of_ok htree]
  rfl

/-- What happens while the stray process is killed, after the tree has been found. -/
def strayMeanwhile : List (Supervisor World → Supervisor World) :=
  List.replicate 4 id ++ [passes, id]

/-- The main runtime has ended, the stray process has not. -/
def strayLeft : Supervisor World :=
  (drive (step plainHost)
    { ending with stage := .asking [stray, ending.handle.pid] [stray, ending.handle.pid] }
    strayFound strayMeanwhile).2

/-- What the next termination makes of it. -/
def strayForgotten : Supervisor World := (ending.step plainHost strayLeft).2

/-- A process that a termination has told of is forgotten by the next one. -/
theorem stray_survivor_is_forgotten :
    (drive (step plainHost) ending (launchedOn strayMachine) (id :: strayMeanwhile) =
        (.done (.error [failureOf .mainRuntime stray]), strayLeft) ∧
      strayLeft.Tracked ending.handle) ∧
    ∃ s', ending.step plainHost strayLeft = (.done (.ok ()), s') ∧ ¬ s'.Tracked ending.handle ∧
      Lives plainHost ending.handle s' stray := by
  have hrest : drive (step plainHost)
      { ending with stage := .asking [stray, ending.handle.pid] [stray, ending.handle.pid] }
      strayFound strayMeanwhile = (.done (.error [failureOf .mainRuntime stray]), strayLeft) :=
    Prod.ext rfl rfl
  refine ⟨⟨(drive_again enter_stray id strayMeanwhile).trans hrest, ⟨_, rfl, rfl⟩⟩,
    strayForgotten, Prod.ext rfl rfl, ?_, by decide +kernel⟩
  rintro ⟨r, hr, -⟩
  cases hr

end Example

end Termination

end Launchpad
