import Launchpad.Proofs.Supervisor.StaleHandles
import Mathlib.Data.List.Pairwise

/-!
# In which order a sweep goes

A sweep takes up the processes that are tracked at its start one after the other, whatever else goes
on meanwhile (`taken_run`). Their order is that of their components, the last one in launch order
first. The table of records does not tell when they have been started, but the journal does
(`StartedAfter`). So the one that has been started last comes first, and so on, if and only if the
current processes have been started in launch order (`sweeps_latest_first_iff`). If a component has
been launched again while others that come after it in launch order were there, they have not.
-/

namespace Launchpad

namespace Supervisor

variable {σ : Type} {s : Supervisor σ} {h h' : Handle}

/-- One process has been started after another one, as the journal has it. -/
def StartedAfter (s : Supervisor σ) (h h' : Handle) : Prop :=
  s.roots.idxOf h < s.roots.idxOf h'

instance : DecidableRel s.StartedAfter := fun _ _ => inferInstanceAs (Decidable (_ < _))

theorem startedAfter_or (hm : h ∈ s.roots) (hne : h ≠ h') :
    s.StartedAfter h h' ∨ s.StartedAfter h' h :=
  Nat.lt_or_gt_of_ne (mt (List.idxOf_inj hm).mp hne)

/-- One process comes after another one in launch order. -/
def ComesAfter (h h' : Handle) : Prop := h'.component.rank < h.component.rank

instance : DecidableRel ComesAfter := fun _ _ => inferInstanceAs (Decidable (_ < _))

theorem pairwise_handles (s : Supervisor σ) : s.handles.reverse.Pairwise ComesAfter := by
  have hranks : Component.launchOrder.Pairwise (fun c d => c.rank < d.rank) := by decide
  rw [List.pairwise_reverse]
  refine List.pairwise_filterMap.mpr (hranks.imp ?_)
  intro c d hlt h hh h' hh'
  obtain ⟨r, -, rfl⟩ := Option.map_eq_some_iff.mp hh
  obtain ⟨r', -, rfl⟩ := Option.map_eq_some_iff.mp hh'
  exact hlt

/-- The last component comes first. So does the process started last, if the two orders agree. -/
theorem pairwise_startedAfter_iff (hrooted : ∀ h, s.Tracked h → h ∈ s.roots) :
    s.handles.reverse.Pairwise s.StartedAfter ↔
      ∀ h h', s.Tracked h → s.Tracked h' → s.StartedAfter h h' → ComesAfter h h' := by
  have hmem (h : Handle) : h ∈ s.handles.reverse ↔ s.Tracked h :=
    List.mem_reverse.trans mem_handles
  constructor
  · intro hlatest h h' ht ht' hafter
    have hne : h ≠ h' := by
      rintro rfl
      exact Nat.lt_irrefl _ hafter
    -- One of the two comes before the other, and then it is said of both that it comes after.
    have hboth : s.handles.reverse.Pairwise fun a b =>
        (s.StartedAfter a b → ComesAfter a b) ∧ (s.StartedAfter b a → ComesAfter b a) :=
      (hlatest.and s.pairwise_handles).imp fun ⟨hafter, hcomes⟩ =>
        ⟨fun _ => hcomes, fun hbefore => absurd hbefore (Nat.lt_asymm hafter)⟩
    have : Std.Symm fun a b =>
        (s.StartedAfter a b → ComesAfter a b) ∧ (s.StartedAfter b a → ComesAfter b a) :=
      ⟨fun _ _ h => h.symm⟩
    exact (hboth.forall ((hmem h).mpr ht) ((hmem h').mpr ht') hne).1 hafter
  · intro hagree
    refine s.pairwise_handles.imp_of_mem fun {h h'} hm hm' hcomes => ?_
    have hne : h ≠ h' := by
      rintro rfl
      exact Nat.lt_irrefl _ hcomes
    rw [hmem] at hm hm'
    refine (startedAfter_or (hrooted h hm) hne).resolve_right fun hafter => ?_
    exact Nat.lt_asymm hcomes (hagree h' h hm' hm hafter)

end Supervisor

/-! ## The turns of a sweep -/

namespace Operation

variable {σ : Type}

/-- The processes that a sweep has not yet taken up. -/
def waiting : Operation σ → List Handle
  | .sweep w => w.queue
  | _ => []

/-- The process whose termination a call has begun: it was at none before, and is at one now. -/
def begun (before : Operation σ) (now? : Option (Operation σ)) : List Handle :=
  match before.termination?, now?.bind termination? with
  | none, some t => [t.handle]
  | _, _ => []

theorem begun_self (o : Operation σ) : o.begun (some o) = [] := by
  unfold begun
  rw [Option.bind_some]
  cases o.termination? <;> rfl

/-- A step takes a process from those that wait, and begins with its termination. -/
theorem waiting_step (host : Host σ) (cancelled : Bool) (o : Operation σ) (s : Supervisor σ) :
    o.begun (o.step host cancelled s).1 ++ (o.step host cancelled s).1.elim [] waiting =
      o.waiting := by
  cases o with
  | readiness w =>
    dsimp only [step]
    cases (w.step host cancelled s).1 <;> rfl
  | termination t =>
    dsimp only [step]
    cases (t.step host s).1 <;> rfl
  | sweep w =>
    have hd := w.step_does host s
    dsimp only [step, begun, termination?, waiting]
    generalize (w.step host s).1 = p, (w.step host s).2 = s' at hd
    cases hd with
    | terminates ht | terminated ht =>
      rw [ht]
      rfl
    | takes hnone hfirst =>
      rw [hnone, hfirst]
      rfl
    | ends hnone hempty =>
      rw [hnone, hempty]
      rfl

end Operation

namespace Operations

open Supervisor

variable {σ : Type} {host : Host σ} {x y : Operations σ} {m : Move σ} {ms ms' : List (Move σ)}
  {i : Nat} {h : Handle}

/-! ## Every record is that of a root -/

/-- What is new among the roots after a move has been launched by it. -/
theorem roots_step (m : Move σ) :
    (x.step host m).supervisor.roots = launchedBy host x m ++ x.supervisor.roots := by
  cases m with
  | launch c command =>
    dsimp only [step, launchedBy]
    rcases launch_cases host c command x.supervisor with ⟨e, s', heq, hs⟩ | ⟨p, s', heq, -, he, -⟩
    · rw [heq]
      exact hs.roots
    · rw [heq]
      exact he.roots
  | markRunning => exact (steady_markRunning x.supervisor).roots
  | refresh => exact (steady_refresh host x.supervisor).roots
  | close => exact (steady_close x.supervisor).roots
  | runTool command limit => exact (ToolWait.steady_start host command limit x.supervisor).roots
  | goOn i cancelled =>
    cases hcall : x.calls i with
    | none =>
      rw [step_goOn_none hcall]
      rfl
    | some o =>
      rw [step_goOn hcall]
      exact (o.startsNothing_step host cancelled x.supervisor).roots
  | awaitReady | terminate | terminateAll | giveUp | outside => rfl

theorem rooted_run {world : σ} {now : Instant}
    (ht : ((new world now).run host ms).supervisor.Tracked h) :
    h ∈ ((new world now).run host ms).supervisor.roots := by
  have hrun (ms : List (Move σ)) : ∀ x : Operations σ,
      (∀ h, x.supervisor.Tracked h → h ∈ x.supervisor.roots) →
      ∀ h, (x.run host ms).supervisor.Tracked h → h ∈ (x.run host ms).supervisor.roots := by
    induction ms with
    | nil => exact fun _ => id
    | cons m ms ih =>
      intro x hx
      refine ih (x.step host m) fun h ht => ?_
      rw [roots_step, List.mem_append]
      exact (tracked_step m ht).symm.imp_right (hx h)
  refine hrun ms (new world now) (fun h ht => ?_) h ht
  obtain ⟨r, hr, -⟩ := ht
  simp [new, record?] at hr

/-! ## The turns of a sweep beside other calls -/

/-- A move leaves a number to the call that has it. -/
def Move.Leaves (i : Nat) : Move σ → Prop
  | .awaitReady j _ _ _ | .terminate j _ _ | .terminateAll j _ | .giveUp j => j ≠ i
  | _ => True

/-- The processes that the sweep of a number has not yet taken up. -/
def waiting (x : Operations σ) (i : Nat) : List Handle := (x.calls i).elim [] Operation.waiting

/-- The process that a move lets the sweep of a number take up, if it does. -/
def takenBy (host : Host σ) (i : Nat) (x : Operations σ) (m : Move σ) : List Handle :=
  (x.calls i).elim [] fun o => o.begun ((x.step host m).calls i)

/-- The processes that the sweep of a number takes up one after the other. -/
def taken (host : Host σ) (i : Nat) : Operations σ → List (Move σ) → List Handle
  | _, [] => []
  | x, m :: ms => takenBy host i x m ++ taken host i (x.step host m) ms

theorem Move.Leaves.calls (hm : m.Leaves i) : (x.step host m).calls i = x.calls i ∨
    ∃ cancelled o, x.calls i = some o ∧
      (x.step host m).calls i = (o.step host cancelled x.supervisor).1 := by
  cases m with
  | launch | markRunning | refresh | close | runTool | outside => exact .inl rfl
  | awaitReady j | terminate j | terminateAll j | giveUp j =>
    exact .inl (Function.update_of_ne (Ne.symm hm) _ x.calls)
  | goOn j cancelled =>
    cases hj : x.calls j with
    | none =>
      rw [step_goOn_none hj]
      exact .inl rfl
    | some o =>
      rw [step_goOn hj]
      by_cases hi : i = j
      · subst hi
        exact .inr ⟨cancelled, o, hj, Function.update_self i _ x.calls⟩
      · exact .inl (Function.update_of_ne hi _ x.calls)

theorem taken_step (hm : m.Leaves i) :
    takenBy host i x m ++ (x.step host m).waiting i = x.waiting i := by
  unfold takenBy waiting
  rcases hm.calls with hsame | ⟨cancelled, o, ho, hstep⟩
  · rw [hsame]
    cases x.calls i with
    | none => rfl
    | some o =>
      dsimp only [Option.elim_some]
      rw [o.begun_self]
      rfl
  · rw [ho, hstep]
    exact o.waiting_step host cancelled x.supervisor

theorem taken_run (hms : ∀ m ∈ ms, m.Leaves i) :
    taken host i x ms ++ (x.run host ms).waiting i = x.waiting i := by
  induction ms generalizing x with
  | nil => rfl
  | cons m ms ih =>
    obtain ⟨hm, hms⟩ := List.forall_mem_cons.mp hms
    rw [taken, List.append_assoc]
    exact (congrArg _ (ih hms)).trans (taken_step hm)

/-- A sweep that begins in a run, whatever goes on beside it, takes up the processes that are
tracked then, the last component in launch order first. The one that was started last comes first,
and so on, if and only if they were started in launch order. -/
theorem sweeps_latest_first_iff {world : σ} {now : Instant} {config : TerminationConfig}
    (hx : (new world now).run host ms = x) (hy : x.step host (.terminateAll i config) = y)
    (hms' : ∀ m ∈ ms', m.Leaves i) :
    taken host i y ms' ++ (y.run host ms').waiting i = x.supervisor.handles.reverse ∧
    (∀ h, h ∈ x.supervisor.handles.reverse ↔ x.supervisor.Tracked h) ∧
    x.supervisor.handles.reverse.Pairwise ComesAfter ∧
    (x.supervisor.handles.reverse.Pairwise x.supervisor.StartedAfter ↔
      ∀ h h', x.supervisor.Tracked h → x.supervisor.Tracked h' →
        x.supervisor.StartedAfter h h' → ComesAfter h h') := by
  refine ⟨(taken_run hms').trans ?_, fun h => List.mem_reverse.trans mem_handles,
    pairwise_handles x.supervisor, pairwise_startedAfter_iff fun h ht => ?_⟩
  · subst hy
    simp only [waiting, step, begin, Function.update_self, Option.elim_some]
    rfl
  · subst hx
    exact rooted_run ht

section Example

open Scripted

/-- Two components are launched one after the other. -/
def launchBoth (c d : Component) : Operations World :=
  (new (machine (.const docile)) 0).run plainHost
    [.launch c { program := ⟨"first"⟩ }, .launch d { program := ⟨"second"⟩ }]

/-- A sweep that goes on until it ends. -/
def sweepAll : List (Move World) := List.replicate 9 (.goOn 0 false)

theorem launched_in_order_is_swept_latest_first :
    taken plainHost 0 ((launchBoth .searchEngine .mainRuntime).step plainHost
        (.terminateAll 0 {})) sweepAll =
      (launchBoth .searchEngine .mainRuntime).supervisor.handles.reverse ∧
    (launchBoth .searchEngine .mainRuntime).supervisor.handles.reverse.Pairwise
      (launchBoth .searchEngine .mainRuntime).supervisor.StartedAfter := by
  have hleaves : ∀ m ∈ sweepAll, m.Leaves 0 := by
    intro m hm
    cases List.eq_of_mem_replicate hm
    trivial
  obtain ⟨htaken, -, -, hlatest⟩ := sweeps_latest_first_iff
    (x := launchBoth .searchEngine .mainRuntime)
    (y := (launchBoth .searchEngine .mainRuntime).step plainHost (.terminateAll 0 {})) rfl rfl
    hleaves
  have hagree : ∀ h ∈ (launchBoth .searchEngine .mainRuntime).supervisor.handles,
      ∀ h' ∈ (launchBoth .searchEngine .mainRuntime).supervisor.handles,
        (launchBoth .searchEngine .mainRuntime).supervisor.StartedAfter h h' →
          ComesAfter h h' := by decide +kernel
  refine ⟨?_, hlatest.mpr fun h h' ht ht' => ?_⟩
  · rw [← htaken]
    exact (List.append_nil _).symm
  · exact hagree h (mem_handles.mpr ht) h' (mem_handles.mpr ht')

/-- The search engine is started after the main runtime and is terminated after it. -/
theorem late_search_engine_is_swept_last :
    ∃ x : Operations World, launchBoth .mainRuntime .searchEngine = x ∧
      taken plainHost 0 (x.step plainHost (.terminateAll 0 {})) sweepAll =
        [mainRuntime 101, ⟨.searchEngine, .ofNat 102⟩] ∧
      ((x.step plainHost (.terminateAll 0 {})).run plainHost sweepAll).calls 0 = none ∧
      x.supervisor.StartedAfter ⟨.searchEngine, .ofNat 102⟩ (mainRuntime 101) :=
  ⟨_, rfl, rfl, rfl, by decide +kernel⟩

end Example

end Operations

end Launchpad
