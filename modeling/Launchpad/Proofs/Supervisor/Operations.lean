import Launchpad.Proofs.Scripted.Host
import Launchpad.Proofs.Supervisor.Sweep
import Launchpad.Proofs.Supervisor.Waits
import Mathlib.Data.List.Nodup
import Mathlib.Logic.Function.Basic

/-!
# Operations of a supervisor beside each other

`Operations` is a supervisor with any number of calls that wait, each where it stands: waits for a
component, terminations of any handle, sweeps. Between two of their steps anything else may be done
to the supervisor, a component may be launched anew, and a call may be given up for good.

Records are let go of on the evidence of an earlier look and are replaced by those of later
processes. Still every root that runs is tracked, and it is the only one of its component
(`live_roots_are_tracked`). `Kept` is the invariant: it is `Accounted`, and every call that ends
processes is sound, whichever of them a launch has overtaken. So a supervisor that goes away kills
the roots that run and no others.
-/

namespace Launchpad

open Supervisor

variable {σ : Type} {host : Host σ}

/-! ## A supervisor that goes away -/

namespace Supervisor

variable {s : Supervisor σ} {h : Handle}

/-- Kills those of some processes that run, one after the other. -/
def killEach (host : Host σ) (now : Instant) : List Handle → σ → List Handle × σ
  | [], world => ([], world)
  | h :: hs, world =>
    if host.childState now h.pid world = .running then
      let (killed, world) := killEach host now hs (host.killChild now h.pid world)
      (h :: killed, world)
    else killEach host now hs world

theorem abandon_eq (host : Host σ) (s : Supervisor σ) :
    s.abandon host = killEach host s.now s.handles s.world := by
  -- What has been killed so far stands in front.
  have hfold (hs : List Handle) : ∀ killed world, hs.foldl
      (fun (killed, world) h =>
        if host.childState s.now h.pid world = .running then
          (killed ++ [h], host.killChild s.now h.pid world)
        else (killed, world)) (killed, world) =
      (killed ++ (killEach host s.now hs world).1, (killEach host s.now hs world).2) := by
    induction hs with
    | nil => simp [killEach]
    | cons h hs ih =>
      intro killed world
      rw [List.foldl_cons, killEach]
      dsimp only
      split
      · rw [ih, List.append_assoc]
        rfl
      · exact ih killed world
  exact (hfold s.handles [] s.world).trans (by rw [List.nil_append])

/-- The machine when it is the turn of a process. -/
def worldBefore (host : Host σ) (now : Instant) (h : Handle) (hs : List Handle) (world : σ) : σ :=
  (killEach host now (hs.takeWhile (· ≠ h)) world).2

theorem killEach_world (host : Host σ) (now : Instant) (hs : List Handle) (world : σ) :
    (killEach host now hs world).2 = (killEach host now hs world).1.foldl
      (fun world h => host.killChild now h.pid world) world := by
  induction hs generalizing world with
  | nil => rfl
  | cons h hs ih =>
    rw [killEach]
    split
    · exact ih _
    · exact ih world

theorem killEach_sublist (host : Host σ) (now : Instant) (hs : List Handle) (world : σ) :
    (killEach host now hs world).1.Sublist hs := by
  induction hs generalizing world with
  | nil => exact .refl []
  | cons h hs ih =>
    rw [killEach]
    split
    · exact (ih _).cons_cons h
    · exact (ih world).cons h

/-- Those are killed that run when it is their turn. -/
theorem mem_killEach {now : Instant} {hs : List Handle} {world : σ} (hn : hs.Nodup) :
    h ∈ (killEach host now hs world).1 ↔
      h ∈ hs ∧ host.childState now h.pid (worldBefore host now h hs world) = .running := by
  induction hs generalizing world with
  | nil => simp [killEach]
  | cons h' hs ih =>
    obtain ⟨hnot, hn⟩ := List.nodup_cons.mp hn
    rw [killEach]
    unfold worldBefore
    by_cases heq : h' = h
    · subst heq
      have hout (world : σ) : h' ∉ (killEach host now hs world).1 :=
        fun hm => hnot ((killEach_sublist host now hs world).subset hm)
      rw [List.takeWhile_cons_of_neg (by simp), killEach]
      split
      · next hruns => simp [hruns]
      · next hruns => simp [hruns, hout]
    · have hmem (hs : List Handle) : h ∈ h' :: hs ↔ h ∈ hs := by simp [Ne.symm heq]
      rw [List.takeWhile_cons_of_pos (by simpa using heq), killEach, hmem]
      split
      · exact (hmem _).trans (ih hn)
      · exact ih hn

theorem nodup_handles (s : Supervisor σ) : s.handles.Nodup := by
  refine List.Nodup.filterMap ?_ (by decide : Component.launchOrder.Nodup)
  intro c d h hc hd
  obtain ⟨r, -, rfl⟩ := Option.map_eq_some_iff.mp hc
  obtain ⟨r', -, hr'⟩ := Option.map_eq_some_iff.mp hd
  exact (congrArg Handle.component hr').symm

/-- The supervisor when it is the turn of a process to be killed as it goes away. -/
def atTurnOf (host : Host σ) (h : Handle) (s : Supervisor σ) : Supervisor σ :=
  { s with world := worldBefore host s.now h s.handles s.world }

/-- What a supervisor has done that has gone away: every root that still ran at its turn has been
killed once, and nothing else. -/
structure Abandons (host : Host σ) (s : Supervisor σ) (killed : List Handle) (world : σ) :
    Prop where
  mem : ∀ h, h ∈ killed ↔ h ∈ s.roots ∧ Runs host h (s.atTurnOf host h)
  once : killed.Nodup
  kills : world = killed.foldl (fun world h => host.killChild s.now h.pid world) s.world

/-- If all that runs is tracked, and no root that has ended runs again as others are killed. -/
theorem Accounted.abandons (ha : Accounted host s)
    (hend : ∀ h ∈ s.roots, Runs host h (s.atTurnOf host h) → Runs host h s) :
    Abandons host s (s.abandon host).1 (s.abandon host).2 := by
  rw [abandon_eq]
  refine ⟨fun h => (mem_killEach s.nodup_handles).trans (and_congr_left fun hr => ?_),
    (killEach_sublist host s.now s.handles s.world).nodup s.nodup_handles, killEach_world ..⟩
  rw [mem_handles]
  exact ⟨ha.rooted h, fun hm => ha.tracked h hm (hend h hm hr)⟩

end Supervisor

/-! ## Calls that wait -/

inductive Operation (σ : Type) where
  | readiness (w : ReadinessWait σ)
  | termination (t : Termination)
  | sweep (w : Sweep)

namespace Operation

variable {o o' : Operation σ} {s s' : Supervisor σ}

/-- The call that is left of one, if it goes on. -/
def left {κ α : Type} (f : κ → Operation σ) : Progress κ α → Option (Operation σ)
  | .again c => some (f c)
  | .done _ => none

theorem left_eq_some {κ α : Type} {f : κ → Operation σ} {p : Progress κ α}
    (h : left f p = some o) : ∃ c, p = .again c ∧ f c = o := by
  cases p with
  | again c => exact ⟨c, rfl, Option.some.inj h⟩
  | done r => cases h

/-- Goes on. Nothing is left of a call that returns. -/
def step (host : Host σ) (cancelled : Bool) (o : Operation σ) (s : Supervisor σ) :
    Option (Operation σ) × Supervisor σ :=
  match o with
  | .readiness w => (left .readiness (w.step host cancelled s).1, (w.step host cancelled s).2)
  | .termination t => (left .termination (t.step host s).1, (t.step host s).2)
  | .sweep w => (left .sweep (w.step host s).1, (w.step host s).2)

/-- A call that does not lose sight of a root that runs. The handle of a termination that has not
begun may be that of any process. -/
def Sound (host : Host σ) (s : Supervisor σ) : Operation σ → Prop
  | .readiness _ => True
  | .termination t => t.stage = .entry ∨ t.Sound host s
  | .sweep w => w.Sound host s

/-- A call that has taken no step yet. -/
def Fresh : Operation σ → Prop
  | .readiness w => w.stage = .attempting
  | .termination t => t.stage = .entry
  | .sweep w => w.current = none

theorem Sound.extends {new : List Handle} (ho : o.Sound host s) (he : Extends host new s s')
    (hend : StaysEnded host s s') : o.Sound host s' := by
  cases o with
  | readiness w => trivial
  | termination t => exact ho.imp_right fun ht => ht.extends he hend
  | sweep w => exact Sweep.Sound.extends ho he hend

/-- A termination that begins is that of a root, or it has nothing to do. -/
theorem sound_or_misses {t : Termination} (ha : Accounted host s)
    (ht : t.stage = .entry ∨ t.Sound host s) :
    t.Sound host s ∨ t.step host s = (.done (.ok ()), s) := by
  rcases ht with hstage | ht
  · by_cases htracked : s.Tracked t.handle
    · obtain ⟨h, config, stage⟩ := t
      cases hstage
      exact .inl (Termination.sound_entry (ha.rooted h htracked) config)
    · refine .inr ?_
      unfold Termination.step Termination.enter
      rw [hstage]
      dsimp only
      rw [observeTracked_of_not_tracked htracked]
  · exact .inl ht

/-- A step of a call starts nothing, and keeps the record of every root that runs. -/
theorem follows_step (hhost : host.TreesHoldRoots) (ha : Accounted host s) (ho : o.Sound host s)
    (cancelled : Bool) :
    Extends host [] s (o.step host cancelled s).2 ∧
      (StaysEnded host s (o.step host cancelled s).2 → ∀ o',
        (o.step host cancelled s).1 = some o' → o'.Sound host (o.step host cancelled s).2) := by
  cases o with
  | readiness w =>
    refine ⟨(w.goes_step host cancelled s).1.extends, fun _ o' ho' => ?_⟩
    obtain ⟨w', -, rfl⟩ := left_eq_some ho'
    trivial
  | termination t =>
    simp only [step]
    rcases sound_or_misses ha ho with ht | hmisses
    · obtain ⟨hextends, hsound⟩ := Termination.follows_step hhost ha ht
      refine ⟨hextends, fun hend o' ho' => ?_⟩
      obtain ⟨t', hstep, rfl⟩ := left_eq_some ho'
      have hsound' := hsound hend
      rw [hstep] at hsound'
      exact .inr hsound'
    · rw [hmisses]
      exact ⟨(Steady.refl s).extends, fun _ _ => nofun⟩
  | sweep w =>
    have hdoes := w.step_does host s
    refine ⟨hdoes.extends hhost ha ho, fun hend o' ho' => ?_⟩
    obtain ⟨w', hstep, rfl⟩ := left_eq_some ho'
    rw [hstep] at hdoes
    exact hdoes.sound hhost ha ho hend

end Operation

/-! ## All operations -/

/-- A supervisor and the calls that wait, numbered in any way. -/
structure Operations (σ : Type) where
  supervisor : Supervisor σ
  calls : Nat → Option (Operation σ) := fun _ => none

namespace Operations

inductive Move (σ : Type) where
  | launch (c : Component) (command : Command)
  | markRunning
  | refresh
  | close
  | runTool (command : Command) (limit : Duration)
  /-- A call begins to wait for a component, under a number. -/
  | awaitReady (i : Nat) (h : Handle) (probe : Probe σ) (gate : Gate)
  | terminate (i : Nat) (h : Handle) (config : TerminationConfig)
  | terminateAll (i : Nat) (config : TerminationConfig)
  /-- A call goes on; a wait for a component may be cancelled. -/
  | goOn (i : Nat) (cancelled : Bool)
  /-- A call is given up where it stands. -/
  | giveUp (i : Nat)
  /-- Time passes, and the machine is not the same afterwards. -/
  | outside (passed : Duration) (change : σ → σ)

/-- A supervisor to which nothing has been done yet. -/
def new (world : σ) (now : Instant) : Operations σ := { supervisor := { world, now } }

/-- Begins a call under a number. -/
def begin (x : Operations σ) (i : Nat) (o : Operation σ) : Operations σ :=
  { x with calls := Function.update x.calls i (some o) }

def step (host : Host σ) (m : Move σ) (x : Operations σ) : Operations σ :=
  let s := x.supervisor
  match m with
  | .launch c command => { x with supervisor := (s.launch host c command).2 }
  | .markRunning => { x with supervisor := s.markRunning }
  | .refresh => { x with supervisor := (s.refresh host).2 }
  | .close => { x with supervisor := s.close }
  | .runTool command limit => { x with supervisor := (ToolWait.start host command limit s).2 }
  | .awaitReady i h probe gate => x.begin i (.readiness (.start host h probe gate s.now))
  | .terminate i h config => x.begin i (.termination { handle := h, config })
  | .terminateAll i config => x.begin i (.sweep (.start config s))
  | .goOn i cancelled =>
    match x.calls i with
    | some o =>
      { supervisor := (o.step host cancelled s).2
        calls := Function.update x.calls i (o.step host cancelled s).1 }
    | none => x
  | .giveUp i => { x with calls := Function.update x.calls i none }
  | .outside passed change =>
    { x with supervisor := { s with now := s.now + passed, world := change s.world } }

def run (host : Host σ) (x : Operations σ) (ms : List (Move σ)) : Operations σ :=
  ms.foldl (fun x m => x.step host m) x

variable {x : Operations σ} {m : Move σ} {ms : List (Move σ)} {i : Nat}

theorem step_goOn {o : Operation σ} {cancelled : Bool} (hcall : x.calls i = some o) :
    x.step host (.goOn i cancelled) =
      { supervisor := (o.step host cancelled x.supervisor).2
        calls := Function.update x.calls i (o.step host cancelled x.supervisor).1 } := by
  unfold step
  dsimp only
  rw [hcall]

theorem step_goOn_none {cancelled : Bool} (hcall : x.calls i = none) :
    x.step host (.goOn i cancelled) = x := by
  unfold step
  dsimp only
  rw [hcall]

/-- The call that has a number after a move had it before, has just begun, or has taken a step. -/
theorem calls_step {o : Operation σ} (hcall : (x.step host m).calls i = some o) :
    x.calls i = some o ∨ o.Fresh ∨ ∃ cancelled before, m = .goOn i cancelled ∧
      x.calls i = some before ∧ (before.step host cancelled x.supervisor).1 = some o := by
  have hupdate {j : Nat} {p : Option (Operation σ)}
      (h : Function.update x.calls j p i = some o) :
      x.calls i = some o ∨ i = j ∧ p = some o := by
    by_cases hi : i = j
    · rw [hi, Function.update_self] at h
      exact .inr ⟨hi, h⟩
    · rw [Function.update_of_ne hi] at h
      exact .inl h
  cases m with
  | launch | markRunning | refresh | close | runTool | outside => exact .inl hcall
  | awaitReady | terminate | terminateAll =>
    refine (hupdate hcall).imp_right ?_
    rintro ⟨-, hp⟩
    cases hp
    exact .inl rfl
  | giveUp =>
    refine (hupdate hcall).imp_right ?_
    rintro ⟨-, hp⟩
    cases hp
  | goOn j cancelled =>
    cases hj : x.calls j with
    | none =>
      rw [step_goOn_none hj] at hcall
      exact .inl hcall
    | some before =>
      rw [step_goOn hj] at hcall
      refine (hupdate hcall).imp_right ?_
      rintro ⟨rfl, hp⟩
      exact .inr ⟨cancelled, before, rfl, hj, hp⟩

/-- The invariant: all that runs is tracked, and no call loses sight of it. -/
structure Kept (host : Host σ) (x : Operations σ) : Prop where
  accounted : Accounted host x.supervisor
  sound : ∀ i o, x.calls i = some o → o.Sound host x.supervisor

theorem kept_new (host : Host σ) (world : σ) (now : Instant) : (new world now).Kept host where
  accounted := by
    refine ⟨fun h ⟨r, hr, _⟩ => ?_, fun h hm => absurd hm List.not_mem_nil⟩
    simp [new, record?] at hr
  sound _ _ h := by cases h

/-- One call takes the place of another, or of none. -/
theorem sound_update {calls : Nat → Option (Operation σ)} {p : Option (Operation σ)}
    {s : Supervisor σ} (hcalls : ∀ j o, calls j = some o → o.Sound host s)
    (hp : ∀ o, p = some o → o.Sound host s) (i j : Nat) (o : Operation σ)
    (hj : Function.update calls i p j = some o) : o.Sound host s := by
  by_cases h : j = i
  · rw [h, Function.update_self] at hj
    exact hp o hj
  · rw [Function.update_of_ne h] at hj
    exact hcalls j o hj

theorem Kept.begin (hx : x.Kept host) {o : Operation σ} (ho : o.Sound host x.supervisor) (i : Nat) :
    (x.begin i o).Kept host :=
  ⟨hx.accounted, sound_update hx.sound (fun _ h => Option.some.inj h ▸ ho) i⟩

/-- An operation that returns at once leaves the calls as they are. -/
theorem Kept.extends {new : List Handle} {s : Supervisor σ} (hx : x.Kept host)
    (he : Extends host new x.supervisor s) (hend : StaysEnded host x.supervisor s) :
    Kept host { x with supervisor := s } :=
  ⟨hx.accounted.extends he hend, fun i o ho => (hx.sound i o ho).extends he hend⟩

/-- Whatever is new after a move has been launched by it. -/
theorem Kept.extends_step (hhost : host.TreesHoldRoots) (hx : x.Kept host) (m : Move σ) :
    ∃ new, Extends host new x.supervisor (x.step host m).supervisor ∧
      ∀ h ∈ new, ∃ command, (x.supervisor.launch host h.component command).1 = .ok h := by
  have nothing {s : Supervisor σ} (he : Extends host [] x.supervisor s) :
      ∃ new, Extends host new x.supervisor s ∧
        ∀ h ∈ new, ∃ command, (x.supervisor.launch host h.component command).1 = .ok h :=
    ⟨[], he, List.forall_mem_nil _⟩
  cases m with
  | launch c command =>
    unfold Operations.step
    rcases launch_cases host c command x.supervisor with ⟨e, s', heq, hs⟩ | ⟨p, s', heq, -, he, -⟩
    · dsimp only
      rw [heq]
      exact nothing hs.extends
    · refine ⟨[⟨c, p⟩], by dsimp only; rwa [heq], fun h hm => ⟨command, ?_⟩⟩
      cases List.mem_singleton.mp hm
      rw [heq]
  | markRunning => exact nothing (steady_markRunning x.supervisor).extends
  | refresh => exact nothing (steady_refresh host x.supervisor).extends
  | close => exact nothing (steady_close x.supervisor).extends
  | runTool command limit =>
    exact nothing (ToolWait.steady_start host command limit x.supervisor).extends
  | goOn i cancelled =>
    cases hcall : x.calls i with
    | none =>
      rw [step_goOn_none hcall]
      exact nothing (Steady.refl x.supervisor).extends
    | some o =>
      rw [step_goOn hcall]
      exact nothing (Operation.follows_step hhost hx.accounted (hx.sound i o hcall) cancelled).1
  | outside passed change => exact nothing (steady_world x.supervisor _ _).extends
  | awaitReady | terminate | terminateAll | giveUp =>
    exact nothing (Steady.refl x.supervisor).extends

/-- Every move keeps the invariant, given that no root that has ended runs again. -/
theorem Kept.step (hhost : host.TreesHoldRoots) (hx : x.Kept host)
    (hend : StaysEnded host x.supervisor (x.step host m).supervisor) :
    (x.step host m).Kept host := by
  obtain ⟨new, he, -⟩ := hx.extends_step hhost m
  cases m with
  | launch | markRunning | refresh | close | runTool | outside => exact hx.extends he hend
  | awaitReady i h probe gate => exact hx.begin (o := .readiness _) trivial i
  | terminate i h config => exact hx.begin (o := .termination _) (.inl rfl) i
  | terminateAll i config =>
    exact hx.begin (o := .sweep _) (Sweep.sound_start hx.accounted config) i
  | goOn i cancelled =>
    cases hcall : x.calls i with
    | none => rwa [step_goOn_none hcall]
    | some o =>
      rw [step_goOn hcall] at he hend ⊢
      have hx' := hx.extends he hend
      have hsound := (Operation.follows_step hhost hx.accounted (hx.sound i o hcall) cancelled).2
      exact ⟨hx'.accounted, sound_update hx'.sound (hsound hend) i⟩
  | giveUp i => exact ⟨hx.accounted, sound_update (p := none) hx.sound (fun _ => nofun) i⟩

theorem Kept.run (hhost : host.TreesHoldRoots) (hx : x.Kept host)
    (hrun : EachStep supervisor (Operations.step host) (StaysEnded host) x ms) :
    (x.run host ms).Kept host :=
  hrun.keeps (fun _ _ hx hend => hx.step hhost hend) hx

/-- Whatever has been done to a supervisor, every root that runs has its record and is the only one
of its component that runs. If the supervisor goes away, the roots that run are killed, and nothing
else is. -/
theorem live_roots_are_tracked (hhost : host.TreesHoldRoots) {world : σ} {now : Instant}
    {ms : List (Move σ)} {s : Supervisor σ}
    (hpids : EachStep supervisor (step host) (ExitsAreFinal host) (new world now) ms)
    (hlost : EachStep supervisor (step host) (LossesAreFinal host) (new world now) ms)
    (hs : ((new world now).run host ms).supervisor = s) :
    (∀ h ∈ s.roots, Runs host h s → s.Tracked h) ∧
    (∀ h ∈ s.roots, ∀ h' ∈ s.roots, Runs host h s → Runs host h' s →
      h.component = h'.component → h = h') ∧
    ((∀ h ∈ s.roots, Runs host h (s.atTurnOf host h) → Runs host h s) →
      Abandons host s (s.abandon host).1 (s.abandon host).2) := by
  have ha : Accounted host s :=
    hs ▸ ((kept_new host world now).run hhost (hpids.staysEnded hlost)).accounted
  refine ⟨ha.tracked, fun h hm h' hm' hr hr' hc => ?_, ha.abandons⟩
  exact (ha.tracked h hm hr).eq (ha.tracked h' hm' hr') hc

section Example

open Scripted

/-- A process that takes some time to end when it is asked to. -/
def slow : Plan where
  terminate := { endsAfter := some exitPollInterval }
  treeFails := true

/-- The main runtime of a number. -/
def mainRuntime (n : Nat) : Handle := ⟨.mainRuntime, .ofNat n⟩

/-- A termination waits for the main runtime, which ends and is launched again meanwhile. -/
def relaunch : List (Move World) :=
  [.launch .mainRuntime { program := ⟨"camunda"⟩ }, .terminate 0 (mainRuntime 101) {}] ++
    List.replicate 3 (.goOn 0 false) ++
    [.outside exitPollInterval id, .launch .mainRuntime { program := ⟨"camunda"⟩ }, .goOn 0 false]

theorem relaunched_root_is_tracked :
    ∃ s, ((new (machine (.const slow)) 0).run plainHost relaunch).supervisor = s ∧
      s.roots = [mainRuntime 102, mainRuntime 101] ∧
      s.Tracked (mainRuntime 102) ∧ (s.abandon plainHost).1 = [mainRuntime 102] ∧
      Abandons plainHost s (s.abandon plainHost).1 (s.abandon plainHost).2 := by
  have hpids : EachStep supervisor (step plainHost) (ExitsAreFinal plainHost)
      (new (machine (.const slow)) 0) relaunch := by decide +kernel
  obtain ⟨htracked, -, habandons⟩ :=
    live_roots_are_tracked treesHoldRoots_plain hpids tellsChildren_plain.eachStep rfl
  have hroots : ((new (machine (.const slow)) 0).run plainHost relaunch).supervisor.roots =
      [mainRuntime 102, mainRuntime 101] := by decide +kernel
  refine ⟨_, rfl, hroots, htracked _ ?_ (by decide +kernel), by decide +kernel,
    habandons (by decide +kernel)⟩
  rw [hroots]
  exact List.mem_cons_self

end Example

end Operations

end Launchpad
