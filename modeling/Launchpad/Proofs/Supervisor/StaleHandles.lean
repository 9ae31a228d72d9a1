import Launchpad.Proofs.Supervisor.Offspring
import Launchpad.Proofs.Supervisor.Replacement

/-!
# Handles whose record is gone

A call has the handle of its process, and while it waits the record of that process may go, and
another process of the component may take its place. A call whose handle stands for no record leaves
all records as they are. A termination may still have signals to send then, to those that it has
found when it began: the process that has come since is not among them unless it was launched under
an identifier that was in use (`reused`). A handle whose termination has succeeded stands for no
record from then on, so that it is not terminated twice: `stale_handles_are_inert`.
-/

namespace Launchpad

namespace Supervisor

variable {σ : Type}

/-- The records and the requests to the host are the same. -/
def SameBooks (s s' : Supervisor σ) : Prop := s'.table = s.table ∧ s'.journal = s.journal

/-- The records are the same, and no signal has gone to the process that has the record of a
component, unless its identifier has been used again. -/
structure Harmless (again : List Pid) (c : Component) (s s' : Supervisor σ) : Prop where
  table : s'.table = s.table
  signals : ∃ events, s'.journal = events ++ s.journal ∧
    ∀ p, s.Tracked ⟨c, p⟩ → p ∉ again → ∀ e ∈ events, e.call ≠ .terminate p ∧ e.call ≠ .kill p

end Supervisor

namespace Termination

open Supervisor ExitWait

variable {σ : Type} {host : Host σ} {s s' : Supervisor σ} {t t' : Termination} {h : Handle}
  {wait : ExitWait}

/-! ## A step for a process without a record -/

/-- The waits of a termination are for its own process. -/
def WaitsOwn (t : Termination) : Prop := ∀ wait, t.stage.wait? = some wait → wait.handle = t.handle

theorem waitsOwn_of_entry (hstage : t.stage = .entry) : t.WaitsOwn := by
  intro wait hwait
  rw [hstage] at hwait
  cases hwait

theorem handle_step (heq : t.step host s = (.again t', s')) : t'.handle = t.handle := by
  have hleaves := (leaves_step host t s).2
  rw [heq] at hleaves
  exact hleaves

theorem WaitsOwn.step (hw : t.WaitsOwn) (heq : t.step host s = (.again t', s')) : t'.WaitsOwn := by
  have hd := step_does host t s
  have hfinish {left : List Pid} {s'' : Supervisor σ}
      (hx : finish t.handle left s'' = (.again t', s')) : False :=
    finish_ne_again (congrArg Prod.fst hx)
  generalize t.step host s = x at hd heq
  cases hd with
  | misses => cases heq
  | findsNobody => exact (hfinish heq).elim
  | finishes => exact (hfinish heq).elim
  | finds | forces =>
    cases heq
    exact fun _ => nofun
  | signals _ _ hnone =>
    cases heq
    intro wait hwait
    cases hnone.symm.trans hwait
  | waits _ hwait _ hsome hh =>
    cases heq
    intro wait' hwait'
    cases hsome.symm.trans hwait'
    exact hh.trans (hwait.elim id (hw _))

theorem survivors_of_not_tracked (ht : ¬ s.Tracked h) (ps : List Pid) :
    (survivors host h ps s).2 = s := by
  have hmember (p : Pid) : (isMemberAlive host h p s).2 = s := by
    unfold isMemberAlive
    split
    · rw [observeTracked_of_not_tracked ht]
    · rfl
  induction ps with
  | nil => rfl
  | cons p ps ih =>
    unfold survivors
    dsimp only
    rw [hmember, ih]

theorem look_of_not_tracked (ht : ¬ s.Tracked wait.handle) : (wait.look host s).2 = s := by
  have hs : (survivors host wait.handle wait.pids s).2 = s := survivors_of_not_tracked ht _
  unfold look
  dsimp only
  split <;> exact hs

theorem exitWait_of_not_tracked (ht : ¬ s.Tracked wait.handle) : (wait.step host s).2 = s := by
  unfold ExitWait.step
  split
  · exact look_of_not_tracked ht
  · rfl

theorem finish_of_not_tracked (ht : ¬ s.Tracked h) (left : List Pid) : (finish h left s).2 = s := by
  unfold finish
  rw [tracked?_eq_none.mpr ht]
  split <;> rfl

theorem resumeGrace_of_not_tracked (ht : ¬ s.Tracked t.handle) (p : Progress ExitWait (List Pid)) :
    (t.resumeGrace p s).2 = s := by
  unfold resumeGrace
  split
  · rfl
  · exact finish_of_not_tracked ht []
  · rfl

theorem resumeForced_of_not_tracked (ht : ¬ s.Tracked t.handle)
    (p : Progress ExitWait (List Pid)) : (t.resumeForced p s).2 = s := by
  unfold resumeForced
  split
  · rfl
  · exact finish_of_not_tracked ht _

/-- A termination whose record is gone sends the signals that are left, and does nothing else. -/
theorem step_of_not_tracked (host : Host σ) (hw : t.WaitsOwn) (ht : ¬ s.Tracked t.handle) :
    (t.step host s).2 = s ∨ ∃ p ∈ t.stage.queue,
      (t.step host s).2 = ask host p s ∨ (t.step host s).2 = kill host p s := by
  obtain ⟨h, config, stage⟩ := t
  cases stage with
  | entry =>
    left
    simp only [step, enter, observeTracked_of_not_tracked ht]
  | asking members left =>
    cases left with
    | cons p left => exact .inr ⟨p, List.mem_cons_self, .inl rfl⟩
    | nil =>
      left
      simp only [step]
      rw [look_of_not_tracked ht]
      exact resumeGrace_of_not_tracked ht _
  | grace wait =>
    left
    have hs : (wait.step host s).2 = s := exitWait_of_not_tracked (hw wait rfl ▸ ht)
    simp only [step]
    rw [hs]
    exact resumeGrace_of_not_tracked ht _
  | forcing killed left =>
    cases left with
    | cons p left => exact .inr ⟨p, List.mem_cons_self, .inr rfl⟩
    | nil =>
      left
      simp only [step]
      rw [look_of_not_tracked ht]
      exact resumeForced_of_not_tracked ht _
  | forced wait =>
    left
    have hs : (wait.step host s).2 = s := exitWait_of_not_tracked (hw wait rfl ▸ ht)
    simp only [step]
    rw [hs]
    exact resumeForced_of_not_tracked ht _

end Termination

namespace ReadinessWait

open Supervisor

variable {σ : Type} {host : Host σ} {w : ReadinessWait σ} {s s' : Supervisor σ}

theorem sameBooks_conclude (ht : ¬ s.Tracked w.handle) (ready : Bool) :
    SameBooks s (w.conclude host ready s).2 := by
  unfold conclude
  split
  · unfold setStatus
    rw [tracked?_eq_none.mpr ht]
    exact ⟨rfl, rfl⟩
  · split <;> exact ⟨rfl, rfl⟩

theorem sameBooks_attempt (ht : ¬ s.Tracked w.handle) : SameBooks s (w.attempt host s).2 := by
  have hnone : s.tracked? w.handle = none := tracked?_eq_none.mpr ht
  unfold attempt askProbe
  rw [observeTracked_of_not_tracked ht]
  dsimp only
  rw [hnone]
  dsimp only
  split
  · have ht' : ¬ Tracked { s with world := (w.probe.ask s.now s.world).2 } w.handle := ht
    exact sameBooks_conclude ht' _
  · exact ⟨rfl, rfl⟩

theorem sameBooks_checkDeadline (w : ReadinessWait σ) (s : Supervisor σ) :
    SameBooks s (w.checkDeadline s).2 := by
  unfold checkDeadline
  split <;> exact ⟨rfl, rfl⟩

theorem step_of_not_tracked (ht : ¬ s.Tracked w.handle) (cancelled : Bool) :
    SameBooks s (w.step host cancelled s).2 := by
  unfold step
  split
  · exact ⟨rfl, rfl⟩
  · split
    · exact sameBooks_attempt ht
    · split
      · exact sameBooks_conclude ht _
      · exact sameBooks_checkDeadline w s
    · split
      · exact sameBooks_attempt ht
      · exact sameBooks_checkDeadline w s

end ReadinessWait

namespace Operation

open Supervisor

variable {σ : Type}

/-- The termination that a call is at, be it the call itself or the current one of a sweep. -/
def termination? : Operation σ → Option Termination
  | .readiness _ => none
  | .termination t => some t
  | .sweep w => w.current

theorem startsNothing_step (host : Host σ) (cancelled : Bool) (o : Operation σ)
    (s : Supervisor σ) : StartsNothing s (o.step host cancelled s).2 := by
  cases o with
  | readiness w => exact (w.goes_step host cancelled s).1.toStartsNothing
  | termination t => exact (t.leaves_step host s).1
  | sweep w => exact (w.step_does host s).startsNothing

/-- A call that is at a termination after a step has just begun with it, or has let it take the
step. -/
theorem termination?_step {host : Host σ} {cancelled : Bool} {o : Operation σ} {s : Supervisor σ}
    {t' : Termination} (hp : (o.step host cancelled s).1.bind termination? = some t') :
    t'.stage = .entry ∨ ∃ t, o.termination? = some t ∧
      t.step host s = (.again t', (o.step host cancelled s).2) := by
  cases o with
  | readiness w =>
    dsimp only [step] at hp
    cases hstep : (w.step host cancelled s).1 <;> rw [hstep] at hp <;> cases hp
  | termination t =>
    dsimp only [step] at hp ⊢
    cases hstep : (t.step host s).1 <;> rw [hstep] at hp <;> cases hp
    exact .inr ⟨t, rfl, Prod.ext hstep rfl⟩
  | sweep w =>
    dsimp only [step] at hp ⊢
    have hd := w.step_does host s
    generalize (w.step host s).1 = p, (w.step host s).2 = s' at hd hp ⊢
    cases hd with
    | @terminates t t₁ _ ht hstep =>
      cases hp
      exact .inr ⟨t, ht, hstep⟩
    | terminated => cases hp
    | takes =>
      cases hp
      exact .inl rfl
    | ends => cases hp

end Operation

namespace Operations

open Supervisor Termination

variable {σ : Type} {host : Host σ} {x : Operations σ} {m : Move σ} {ms ms' : List (Move σ)}
  {i j : Nat} {t t' : Termination} {h : Handle} {s s₁ : Supervisor σ} {cancelled : Bool}
  {found found' again again' : List Pid}

/-! ## What a move launches and finds -/

/-- The process that a move launches, if it does. -/
def launchedBy (host : Host σ) (x : Operations σ) : Move σ → List Handle
  | .launch c command => (x.supervisor.launch host c command).1.toOption.toList
  | _ => []

def launched (host : Host σ) : Operations σ → List (Move σ) → List Handle
  | _, [] => []
  | x, m :: ms => launchedBy host x m ++ launched host (x.step host m) ms

/-- The processes that a termination goes for once a move has let it go on. -/
def foundBy (host : Host σ) (x : Operations σ) : Move σ → List Pid
  | .goOn i cancelled =>
    let t? := ((x.step host (.goOn i cancelled)).calls i).bind Operation.termination?
    (t?.bind (·.stage.watched)).getD []
  | _ => []

/-- The identifiers under which moves launch processes although a termination has found them in use
before. Some have been found already. -/
def reused (host : Host σ) : Operations σ → List Pid → List (Move σ) → List Pid
  | _, _, [] => []
  | x, found, m :: ms =>
    ((launchedBy host x m).map Handle.pid).filter (· ∈ found) ++
      reused host (x.step host m) (foundBy host x m ++ found) ms

theorem atTermination_iff :
    x.AtTermination i t ↔ (x.calls i).bind Operation.termination? = some t := by
  unfold AtTermination
  rcases x.calls i with _ | _ | _ | _ <;> simp [Operation.termination?]

/-! ## What a move does to the records and to the terminations -/

/-- A record after a move is that of a process that had one before, or was launched by the move. -/
theorem tracked_step (m : Move σ) (ht : (x.step host m).supervisor.Tracked h) :
    x.supervisor.Tracked h ∨ h ∈ launchedBy host x m := by
  have nothing {s : Supervisor σ} (hs : StartsNothing x.supervisor s) (ht : s.Tracked h) :
      x.supervisor.Tracked h ∨ h ∈ launchedBy host x m :=
    .inl (hs.tracked_of ht)
  cases m with
  | launch c command =>
    dsimp only [step, launchedBy] at ht ⊢
    rcases launch_cases host c command x.supervisor with ⟨e, s', heq, hs⟩ | ⟨p, s', heq, -, he, -⟩
    · rw [heq] at ht
      exact .inl (hs.tracked_of ht)
    · rw [heq] at ht ⊢
      simpa [Except.toOption] using he.tracked_cases ht
  | markRunning => exact nothing (steady_markRunning x.supervisor).toStartsNothing ht
  | refresh => exact nothing (steady_refresh host x.supervisor).toStartsNothing ht
  | close => exact nothing (steady_close x.supervisor).toStartsNothing ht
  | runTool command limit =>
    exact nothing (ToolWait.steady_start host command limit x.supervisor).toStartsNothing ht
  | goOn i cancelled =>
    cases hcall : x.calls i with
    | none =>
      rw [step_goOn_none hcall] at ht
      exact .inl ht
    | some o =>
      rw [step_goOn hcall] at ht
      exact nothing (o.startsNothing_step host cancelled x.supervisor) ht
  | outside passed change => exact nothing (steady_world x.supervisor _ _).toStartsNothing ht
  | awaitReady | terminate | terminateAll | giveUp => exact .inl ht

/-- A process without a record does not get one unless it is launched. -/
theorem not_tracked_run (ht : ¬ x.supervisor.Tracked h) (hnot : h ∉ launched host x ms) :
    ¬ (x.run host ms).supervisor.Tracked h := by
  induction ms generalizing x with
  | nil => exact ht
  | cons m ms ih =>
    obtain ⟨hnow, hlater⟩ := not_or.mp (mt List.mem_append.mpr hnot)
    exact ih (fun ht' => (tracked_step m ht').elim ht hnow) hlater

/-- A call that is at a termination after a move has just begun with it, was at it before, or has
let it take a step. -/
theorem AtTermination.step_cases (hat : (x.step host m).AtTermination j t') :
    t'.stage = .entry ∨ x.AtTermination j t' ∨
      ∃ cancelled t, m = .goOn j cancelled ∧ x.AtTermination j t ∧
        t.step host x.supervisor = (.again t', (x.step host m).supervisor) := by
  obtain ⟨o', hcall, ht'⟩ := Option.bind_eq_some_iff.mp (atTermination_iff.mp hat)
  rcases calls_step hcall with hsame | hfresh | ⟨cancelled, o, rfl, ho, hp⟩
  · exact .inr (.inl (atTermination_iff.mpr (Option.bind_eq_some_iff.mpr ⟨o', hsame, ht'⟩)))
  · left
    cases o' with
    | readiness w => cases ht'
    | termination t =>
      cases ht'
      exact hfresh
    | sweep w => cases hfresh.symm.trans ht'
  · have hbind : (o.step host cancelled x.supervisor).1.bind Operation.termination? = some t' :=
      Option.bind_eq_some_iff.mpr ⟨o', hp, ht'⟩
    refine (Operation.termination?_step hbind).imp_right ?_
    rintro ⟨t, ht, hstep⟩
    refine .inr ⟨cancelled, t, rfl, ?_, ?_⟩
    · rw [atTermination_iff, ho]
      exact ht
    · rw [step_goOn ho]
      exact hstep

/-! ## What terminations go for -/

/-- A termination in a run. If the process that has the record of its component is another one than
its own, that one is not among those that it goes for, or its identifier has been used again. -/
structure Aims (found again : List Pid) (t : Termination) (s : Supervisor σ) : Prop where
  waits : t.WaitsOwn
  within : t.stage = .entry ∨ ∃ all, Within all t ∧ all ⊆ found ∧
    ∀ p ∈ all, s.Tracked ⟨t.handle.component, p⟩ → p = t.handle.pid ∨ p ∈ again

theorem aims_of_entry (hstage : t.stage = .entry) : Aims found again t s :=
  ⟨waitsOwn_of_entry hstage, .inl hstage⟩

/-- Whatever a move launches under an identifier that has been found counts as used again. -/
theorem Aims.beside (ha : Aims found again t x.supervisor) (m : Move σ) (hsub : found ⊆ found') :
    Aims found' (((launchedBy host x m).map Handle.pid).filter (· ∈ found) ++ again) t
      (x.step host m).supervisor := by
  refine ⟨ha.waits, ha.within.imp_right ?_⟩
  rintro ⟨all, hwithin, hall, hclear⟩
  refine ⟨all, hwithin, List.Subset.trans hall hsub, fun p hp ht => ?_⟩
  rw [List.mem_append, List.mem_filter]
  rcases tracked_step m ht with ht | hlaunched
  · exact (hclear p hp ht).imp_right .inr
  · refine .inr (.inl ⟨List.mem_map_of_mem hlaunched, ?_⟩)
    simpa using hall hp

/-- A termination that begins finds others than its own process without a record; later it goes for
nobody else. -/
theorem Aims.step (ha : Aims found again t s) (heq : t.step host s = (.again t', s₁))
    (hfound : t'.stage.watched.getD [] ⊆ found') (hsub : found ⊆ found') :
    Aims found' again t' s₁ := by
  have hstarts := (leaves_step host t s).1
  rw [heq] at hstarts
  refine ⟨ha.waits.step heq, .inr ?_⟩
  rw [handle_step heq]
  rcases ha.within with hentry | ⟨all, hwithin, hall, hclear⟩
  · -- It has a record when it looks for its targets, and this record is the only one.
    obtain ⟨ht, rfl⟩ := step_entry hentry heq
    refine ⟨targets host t.handle s, ⟨⟨_, rfl, List.Subset.refl _⟩, List.Subset.refl _⟩, hfound,
      fun p _ htracked => .inl ?_⟩
    exact congrArg Handle.pid ((hstarts.tracked_of htracked).eq ht rfl)
  · exact ⟨all, hwithin.step heq, List.Subset.trans hall hsub,
      fun p hp htracked => hclear p hp (hstarts.tracked_of htracked)⟩

def AllAim (found again : List Pid) (x : Operations σ) : Prop :=
  ∀ i t, x.AtTermination i t → Aims found again t x.supervisor

theorem allAim_new (world : σ) (now : Instant) : AllAim [] [] (new world now) := by
  rintro i t (hcall | ⟨w, hcall, -⟩)
  · cases hcall
  · cases hcall

theorem AllAim.step (host : Host σ) (ha : AllAim found again x) (m : Move σ) :
    AllAim (foundBy host x m ++ found)
      (((launchedBy host x m).map Handle.pid).filter (· ∈ found) ++ again) (x.step host m) := by
  have hsub : found ⊆ foundBy host x m ++ found := List.subset_append_right ..
  intro j t' hat'
  -- Only the move that lets a termination go on changes it, and such a move launches nothing.
  rcases hat'.step_cases with hentry | hat | ⟨cancelled, t, rfl, hat, heq⟩
  · exact aims_of_entry hentry
  · exact (ha j t' hat).beside m hsub
  · refine (ha j t hat).step heq (fun p hp => List.mem_append_left _ ?_) hsub
    dsimp only [foundBy]
    rw [atTermination_iff.mp hat']
    exact hp

theorem AllAim.mono (ha : AllAim found again x) (hsub : again ⊆ again') :
    AllAim found again' x := by
  intro i t hat
  obtain ⟨hwaits, hwithin⟩ := ha i t hat
  refine ⟨hwaits, hwithin.imp_right ?_⟩
  rintro ⟨all, hall, hfound, hclear⟩
  exact ⟨all, hall, hfound, fun p hp ht => (hclear p hp ht).imp_right (hsub ·)⟩

theorem AllAim.run (host : Host σ) (ha : AllAim found again x) (ms : List (Move σ)) :
    ∃ found', AllAim found' (reused host x found ms ++ again) (x.run host ms) := by
  induction ms generalizing x found again with
  | nil => exact ⟨found, ha⟩
  | cons m ms ih =>
    obtain ⟨found', hrest⟩ := ih (ha.step host m)
    refine ⟨found', hrest.mono fun p hp => ?_⟩
    unfold reused
    simp only [List.mem_append] at hp ⊢
    rcases hp with hp | hp | hp
    · exact .inl (.inr hp)
    · exact .inl (.inl hp)
    · exact .inr hp

/-! ## Stale handles -/

/-- A termination whose record is gone spares the process that has come since. -/
theorem Aims.harmless (ha : Aims found again t s) (ht : ¬ s.Tracked t.handle) :
    Harmless again t.handle.component s (t.step host s).2 := by
  have hqueue {p : Pid} (hp : p ∈ t.stage.queue) (htracked : s.Tracked ⟨t.handle.component, p⟩) :
      p ∈ again := by
    rcases ha.within with hentry | ⟨all, hwithin, -, hclear⟩
    · rw [hentry] at hp
      cases hp
    · refine (hclear p (hwithin.2 hp) htracked).resolve_left ?_
      rintro rfl
      exact ht htracked
  rcases step_of_not_tracked host ha.waits ht with heq | ⟨p, hp, heq | heq⟩
  · rw [heq]
    exact ⟨rfl, [], rfl, fun _ _ _ => List.forall_mem_nil _⟩
  · rw [heq]
    refine ⟨rfl, [⟨s.now, .terminate p⟩], rfl, fun q hq hnot e he => ?_⟩
    obtain rfl := List.mem_singleton.mp he
    refine ⟨?_, nofun⟩
    rintro ⟨⟩
    exact hnot (hqueue hp hq)
  · rw [heq]
    refine ⟨rfl, [⟨s.now, .kill p⟩], rfl, fun q hq hnot e he => ?_⟩
    obtain rfl := List.mem_singleton.mp he
    refine ⟨nofun, ?_⟩
    rintro ⟨⟩
    exact hnot (hqueue hp hq)

/-- Once a termination has succeeded, any further one of the same process succeeds at once and does
nothing at all, whatever has been done meanwhile, unless the process has been launched again. A call
whose handle stands for no record leaves the records alone, whenever the record has gone: a wait for
the process asks nothing of the host, and a termination sends no signal to the process that has the
record of the component by then, unless its identifier has been used again. -/
theorem stale_handles_are_inert {world : σ} {now : Instant}
    (hx : (new world now).run host ms = x) :
    (∀ i t s₁, x.AtTermination i t → t.step host x.supervisor = (.done (.ok ()), s₁) →
      ∀ cancelled ms' s, t.handle ∉ launched host (x.step host (.goOn i cancelled)) ms' →
        ((x.step host (.goOn i cancelled)).run host ms').supervisor = s →
        ∀ config, Termination.step host { handle := t.handle, config } s = (.done (.ok ()), s)) ∧
    (∀ i t, x.AtTermination i t → ¬ x.supervisor.Tracked t.handle →
      Harmless (reused host (new world now) [] ms) t.handle.component x.supervisor
        (t.step host x.supervisor).2) ∧
    ∀ i w, x.calls i = some (.readiness w) → ¬ x.supervisor.Tracked w.handle →
      ∀ cancelled, SameBooks x.supervisor (w.step host cancelled x.supervisor).2 := by
  refine ⟨fun i t s₁ hat hdone cancelled ms' s hnot hs config => ?_, fun i t hat ht => ?_,
    fun i w _ ht => w.step_of_not_tracked ht⟩
  · have hverdict := (leaves_step host t x.supervisor).2
    rw [hdone] at hverdict
    have hgone : ¬ (x.step host (.goOn i cancelled)).supervisor.Tracked t.handle := by
      rw [hat.supervisor_step, hdone]
      exact hverdict.gone rfl
    have hstill : ¬ s.Tracked t.handle := hs ▸ not_tracked_run hgone hnot
    simp only [Termination.step, enter, observeTracked_of_not_tracked hstill]
  · obtain ⟨found, haims⟩ := (allAim_new world now).run host ms
    rw [List.append_nil, hx] at haims
    exact (haims i t hat).harmless ht

section Example

open Scripted

/-- The main runtime is launched again while a termination waits for the stray process, which is yet
to be killed. Another termination has the same handle, and so has a wait. -/
def overtaken : List (Move World) :=
  [.launch .mainRuntime { program := ⟨"camunda"⟩ },
    .terminate 0 ending.handle ending.config] ++
    List.replicate 4 (.goOn 0 false) ++
    [.launch .mainRuntime { program := ⟨"camunda"⟩ }, .terminate 1 ending.handle ending.config,
      .awaitReady 2 ending.handle .always ⟨.ofSecs 1, .ofSecs 1⟩]

/-- The calls when the main runtime has been launched again. -/
def afterOvertaking : Operations World := (new groupMachine 0).run plainHost overtaken

theorem overtaken_calls_are_inert :
    afterOvertaking.supervisor.Tracked (mainRuntime 102) ∧
    (∀ config s, ((afterOvertaking.step plainHost (.goOn 1 false)).run plainHost
        [.goOn 0 false, .goOn 2 false, .refresh]).supervisor = s →
      Termination.step plainHost { handle := ending.handle, config } s = (.done (.ok ()), s)) ∧
    Harmless [] .mainRuntime afterOvertaking.supervisor
      (Termination.step plainHost { ending with stage := .forcing [stray] [stray] }
        afterOvertaking.supervisor).2 ∧
    ∃ w, afterOvertaking.calls 2 = some (.readiness w) ∧ w.handle = ending.handle ∧
      SameBooks afterOvertaking.supervisor
        (w.step plainHost false afterOvertaking.supervisor).2 := by
  have hgone : ¬ afterOvertaking.supervisor.Tracked ending.handle := by
    rintro ⟨r, hr, hp⟩
    cases hr
    exact absurd hp (by decide)
  obtain ⟨honce, hharmless, hwaits⟩ :=
    stale_handles_are_inert (rfl : (new groupMachine 0).run plainHost overtaken = afterOvertaking)
  have hreused : reused plainHost (new groupMachine 0) [] overtaken = [] := by decide +kernel
  rw [hreused] at hharmless
  refine ⟨⟨_, rfl, rfl⟩, fun config s hs => ?_, hharmless 0 _ (.inl rfl) hgone, _, rfl, rfl,
    hwaits 2 _ rfl hgone false⟩
  exact honce 1 ending _ (.inl rfl) rfl false _ s (by decide +kernel) hs config

end Example

end Operations

end Launchpad
