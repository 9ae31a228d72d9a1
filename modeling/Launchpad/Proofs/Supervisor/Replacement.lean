import Launchpad.Proofs.Supervisor.Operations
import Launchpad.Proofs.Supervisor.Refusals
import Launchpad.Proofs.Supervisor.Survivors

/-!
# What takes the place of a process that could not be ended

The failures of a termination are processes that live when it ends. From then on `Marked` is kept by
whatever is done to the supervisor: while the root runs, its record says that it could not be ended.
A launch looks at that root and at nothing else, so that it is refused as long as the root runs, and
is not any more once the root has ended, whoever else of its tree or group has survived
(`replaced_iff_root_has_ended`, `stray_survivor_is_replaced`).
-/

namespace Launchpad

namespace Supervisor

variable {σ : Type} {host : Host σ} {s s' : Supervisor σ} {c : Component} {command : Command}
  {h : Handle}

/-- The record of a process says that it could not be ended. -/
def StandsFailed (h : Handle) (s : Supervisor σ) : Prop :=
  ∃ r, s.record? h.component = some r ∧ r.pid = h.pid ∧ r.HasFailed

/-- A root that could not be ended: as long as it runs, its record says so. -/
structure Marked (host : Host σ) (h : Handle) (s : Supervisor σ) : Prop where
  rooted : h ∈ s.roots
  failed : Runs host h s → ∀ r, s.record? h.component = some r → r.pid = h.pid → r.HasFailed

theorem Marked.standsFailed (hm : Marked host h s) (ha : Accounted host s)
    (hr : Runs host h s) : StandsFailed h s := by
  obtain ⟨r, hrec, hp⟩ := ha.tracked h hm.rooted hr
  exact ⟨r, hrec, hp, hm.failed hr r hrec hp⟩

/-- The mark stays unless the process itself is started anew while it runs. -/
theorem Marked.extends {new : List Handle} (hm : Marked host h s) (he : Extends host new s s')
    (hnew : h ∈ new → ¬ Runs host h s) (hend : StaysEnded host s s') : Marked host h s' where
  rooted := by
    rw [he.roots]
    exact List.mem_append_right _ hm.rooted
  failed hr r' hrec' hp := by
    have hruns := hend h hm.rooted hr
    rcases he.records h.component r' hrec' with ⟨r, hrec, hb⟩ | hmem
    · exact hb.failed (hm.failed hruns r hrec (hb.pid.symm.trans hp))
    · rw [hp] at hmem
      exact absurd hruns (hnew hmem)

/-- In a supervisor that tracks what runs, a component is free if no root of it runs. -/
theorem Accounted.objections_eq_nil_iff (ha : Accounted host s) :
    objections host c command s = [] ↔
      Admits host c command s ∧ ∀ h ∈ s.roots, h.component = c → ¬ Runs host h s := by
  rw [Supervisor.objections_eq_nil_iff]
  refine and_congr_right fun _ => ⟨fun hfree h hm hc hr => ?_, fun hfree r hrec => ?_⟩
  · obtain ⟨r, hrec, hp⟩ := ha.tracked h hm hr
    subst hc
    refine hfree r hrec ?_
    rwa [hp]
  · exact hfree _ (ha.rooted _ ⟨r, hrec, rfl⟩) rfl

/-- A process that runs does not lose its record to a launch. -/
theorem Accounted.not_launched (ha : Accounted host s) (hr : Runs host h s) (hm : h ∈ s.roots)
    (hok : ∃ h', (s.launch host h.component command).1 = .ok h') : False := by
  obtain ⟨-, hfree⟩ := ha.objections_eq_nil_iff.mp (launch_ok_iff.mp hok)
  exact hfree h hm rfl hr

/-- While a marked root runs, its component is not launched, and the mark stays. -/
theorem Marked.launch (hm : Marked host h s) (ha : Accounted host s) (hr : Runs host h s)
    (command : Command) :
    ∃ e s', s.launch host h.component command = (.error e, s') ∧ StandsFailed h s' := by
  cases hobjections : objections host h.component command s with
  | nil =>
    obtain ⟨-, hfree⟩ := ha.objections_eq_nil_iff.mp hobjections
    exact absurd hr (hfree h hm.rooted rfl)
  | cons e es =>
    obtain ⟨s', heq, hdeclines⟩ := launch_of_objection hobjections
    obtain ⟨r, hrec, hp, hfailed⟩ := hm.standsFailed ha hr
    have hlive : r.status.isLive = false := by
      cases hlive : r.status.isLive with
      | true => exact absurd hfailed (Record.not_hasFailed_of_isLive hlive)
      | false => rfl
    exact ⟨e, s', heq, r, hdeclines.final _ r hrec hlive, hp, hfailed⟩

end Supervisor

/-! ## The failures of a termination -/

namespace Termination

open Supervisor ExitWait

variable {σ : Type} {host : Host σ} {s s' : Supervisor σ} {t : Termination} {h : Handle}
  {failures : List TerminationFailure} {x : Step σ}

theorem lives_of_findsAlive {p : Pid} (hp : findsAlive host h s p = true) :
    Lives host h s p := by
  unfold Lives
  split
  · next heq =>
    rw [heq] at hp
    exact (findsAlive_root.mp hp).2
  · next hne =>
    unfold findsAlive at hp
    rwa [if_neg hne] at hp

theorem lives_still (hs : Still s s') {p : Pid} : Lives host h s' p ↔ Lives host h s p := by
  unfold Lives
  rw [hs.runs_iff, hs.world, hs.now]

/-- Those whom a termination lists have been found alive at its end. -/
theorem Does.lives_of_listed (hd : Does host t s x) (ht : Sound host t s)
    (hx : x = (.done (.error failures), s')) :
    ∀ f ∈ failures, f.component = t.handle.component ∧ Lives host t.handle s' f.pid := by
  cases hd with
  | misses | finds | signals | waits | forces => cases hx
  | @findsNobody s₀ _ _ _ _ =>
    obtain ⟨s'', heq, -⟩ := finish_nil t.handle s₀
    cases heq.symm.trans hx
  | @finishes wait left s₀ hwatched hwait hleft hs =>
    by_cases hnil : left = []
    · obtain ⟨s'', heq, -⟩ := finish_nil t.handle s₀
      cases heq.symm.trans (hnil ▸ hx)
    · obtain ⟨s'', heq, hs', -⟩ := finish_of_ne_nil hnil t.handle s₀
      cases heq.symm.trans hx
      intro f hf
      obtain ⟨p, hp, rfl⟩ := List.mem_map.mp hf
      rw [← hleft, ht.handle_eq hwait, List.mem_filter] at hp
      exact ⟨rfl, (lives_still (hs.trans hs')).mpr (lives_of_findsAlive hp.2)⟩

/-- A termination that fails is that of a root, and its record says that it has failed. -/
theorem Sound.marked (ht : Sound host t s)
    (hfails : t.step host s = (.done (.error failures), s')) : Marked host t.handle s' := by
  have hleaves := leaves_step host t s
  rw [hfails] at hleaves
  obtain ⟨hstarts, hverdict⟩ := hleaves
  exact ⟨hstarts.roots ▸ ht.rooted, fun _ => hverdict.failed failures rfl⟩

end Termination

/-! ## After a failure -/

namespace Operations

open Supervisor Termination

variable {σ : Type} {host : Host σ} {x : Operations σ} {m : Move σ} {ms ms' : List (Move σ)}
  {i : Nat} {t : Termination} {h : Handle} {s s₁ : Supervisor σ} {cancelled : Bool}
  {failures : List TerminationFailure}

theorem Marked.step (hhost : host.TreesHoldRoots) (hx : x.Kept host)
    (hm : Marked host h x.supervisor)
    (hend : StaysEnded host x.supervisor (x.step host m).supervisor) :
    Marked host h (x.step host m).supervisor := by
  obtain ⟨new, he, hnew⟩ := hx.extends_step hhost m
  refine hm.extends he (fun hmem hr => ?_) hend
  obtain ⟨command, hok⟩ := hnew h hmem
  exact hx.accounted.not_launched hr hm.rooted ⟨h, hok⟩

theorem Marked.run (hhost : host.TreesHoldRoots) (hx : x.Kept host)
    (hm : Marked host h x.supervisor)
    (hrun : EachStep supervisor (Operations.step host) (StaysEnded host) x ms) :
    Marked host h (x.run host ms).supervisor :=
  (hrun.keeps (P := fun x => x.Kept host ∧ Marked host h x.supervisor)
    (fun _ _ ⟨hx, hm⟩ hend => ⟨hx.step hhost hend, Marked.step hhost hx hm hend⟩) ⟨hx, hm⟩).2

theorem run_append (host : Host σ) (x : Operations σ) (ms ms' : List (Move σ)) :
    x.run host (ms ++ ms') = (x.run host ms).run host ms' := List.foldl_append

/-- The call of a number is at a termination, be it a call of its own or the current one of a
sweep. -/
def AtTermination (x : Operations σ) (i : Nat) (t : Termination) : Prop :=
  x.calls i = some (.termination t) ∨ ∃ w, x.calls i = some (.sweep w) ∧ w.current = some t

theorem AtTermination.supervisor_step (hat : x.AtTermination i t) :
    (x.step host (.goOn i cancelled)).supervisor = (t.step host x.supervisor).2 := by
  rcases hat with hcall | ⟨w, hcall, hcurrent⟩
  · rw [step_goOn hcall]
    rfl
  · rw [step_goOn hcall]
    dsimp only [Operation.step, Sweep.step]
    rw [hcurrent]

/-- A termination that fails is a sound one. -/
theorem AtTermination.sound (hat : x.AtTermination i t) (hx : x.Kept host)
    (hfails : t.step host x.supervisor = (.done (.error failures), s₁)) :
    t.Sound host x.supervisor := by
  have hsound : t.stage = .entry ∨ t.Sound host x.supervisor := by
    rcases hat with hcall | ⟨w, hcall, hcurrent⟩
    · exact hx.sound i _ hcall
    · exact .inr ((hx.sound i _ hcall).current t hcurrent)
  refine (Operation.sound_or_misses hx.accounted hsound).resolve_right fun hmisses => ?_
  cases hmisses.symm.trans hfails

/-- Those whom a termination lists live when it ends. As long as its root runs after that, whatever
else is done, its component is not launched and the record says that the root could not be ended.
Once the root has ended, a launch succeeds if it is admitted and no other root of the component
runs, and it takes no account of those who have survived. -/
theorem replaced_iff_root_has_ended (hhost : host.TreesHoldRoots) {world : σ} {now : Instant}
    (hpids : EachStep supervisor (step host) (ExitsAreFinal host) (new world now)
      (ms ++ .goOn i cancelled :: ms'))
    (hlost : EachStep supervisor (step host) (LossesAreFinal host) (new world now)
      (ms ++ .goOn i cancelled :: ms'))
    (hat : ((new world now).run host ms).AtTermination i t)
    (hfails : t.step host ((new world now).run host ms).supervisor =
      (.done (.error failures), s₁))
    (hs : ((new world now).run host (ms ++ .goOn i cancelled :: ms')).supervisor = s) :
    (∀ f ∈ failures, f.component = t.handle.component ∧ Lives host t.handle s₁ f.pid) ∧
    (Runs host t.handle s → ∀ command, ∃ e s',
      s.launch host t.handle.component command = (.error e, s') ∧ StandsFailed t.handle s') ∧
    (¬ Runs host t.handle s → ∀ command,
      (∃ p s', s.launch host t.handle.component command = (.ok ⟨t.handle.component, p⟩, s') ∧
          Starts host t.handle.component command p s s') ↔
        Admits host t.handle.component command s ∧
          ∀ h ∈ s.roots, h.component = t.handle.component → ¬ Runs host h s) := by
  have hrun := hpids.staysEnded hlost
  obtain ⟨hbefore, hafter⟩ := eachStep_append.mp hrun
  have hx : ((new world now).run host ms).Kept host := (kept_new host world now).run hhost hbefore
  have ht := hat.sound hx hfails
  -- The mark is there from the end of the termination on, and later moves keep it.
  have hmarked : Marked host t.handle
      (((new world now).run host ms).step host (.goOn i cancelled)).supervisor := by
    rw [hat.supervisor_step, hfails]
    exact ht.marked hfails
  have hkept := hx.step hhost hafter.1
  have hend := Marked.run hhost hkept hmarked hafter.2
  have ha : Accounted host s :=
    hs ▸ ((kept_new host world now).run hhost hrun).accounted
  have hmarked' : Marked host t.handle s := by
    rw [← hs, run_append]
    exact hend
  refine ⟨(step_does host t _).lives_of_listed ht hfails, fun hr => hmarked'.launch ha hr,
    fun _ command => ?_⟩
  rw [launch_starts_iff, ha.objections_eq_nil_iff]

section Example

open Scripted

/-- The main runtime is launched and terminated, up to the last look. -/
def upToLastLook (steps : Nat) : List (Move World) :=
  [.launch .mainRuntime { program := ⟨"camunda"⟩ },
    .terminate 0 ending.handle ending.config] ++
    List.replicate steps (.goOn 0 false) ++ [.outside exitPollInterval id]

theorem enduring_root_is_not_replaced :
    ∃ s, ((new (machine (.const stubborn)) 0).run plainHost
        (upToLastLook 5 ++ [.goOn 0 false, .refresh])).supervisor = s ∧
      ∀ command, ∃ e s', s.launch plainHost .mainRuntime command = (.error e, s') ∧
        StandsFailed ending.handle s' := by
  have hpids : EachStep supervisor (step plainHost) (ExitsAreFinal plainHost)
      (new (machine (.const stubborn)) 0) (upToLastLook 5 ++ [.goOn 0 false, .refresh]) := by
    decide +kernel
  have hat : ((new (machine (.const stubborn)) 0).run plainHost (upToLastLook 5)).AtTermination 0
      { ending with stage := .forced lastLook } := .inl rfl
  obtain ⟨-, hrefused, -⟩ := replaced_iff_root_has_ended treesHoldRoots_plain hpids
    tellsChildren_plain.eachStep hat (Prod.ext rfl rfl) rfl
  exact ⟨_, rfl, hrefused (by decide +kernel)⟩

/-- A machine on which the stray process is in the group of every process that is launched. -/
def groupMachine : World where
  script := {
    plans := .const { treeFails := true, group := [stray] }
    bystanders := [(stray, { terminate := { endsAfter := none }, kill := { endsAfter := none } })] }

/-- The last look that a termination of the main runtime takes there. -/
def strayLook : ExitWait :=
  { ExitWait.start ending.handle [stray] ending.config.forceWait 0 with
    wakeAt := exitPollInterval }

/-- The supervisor when the stray process has been listed. -/
def strayListed : Supervisor World :=
  ((new groupMachine 0).run plainHost (upToLastLook 6 ++ [.goOn 0 false])).supervisor

/-- The main runtime is launched again while a process lives that its termination has listed. -/
theorem stray_survivor_is_replaced :
    ((new groupMachine 0).run plainHost (upToLastLook 6)).AtTermination 0
        { ending with stage := .forced strayLook } ∧
    Termination.step plainHost { ending with stage := .forced strayLook }
        ((new groupMachine 0).run plainHost (upToLastLook 6)).supervisor =
      (.done (.error [failureOf .mainRuntime stray]), strayListed) ∧
    StandsFailed ending.handle strayListed ∧
    ∃ p s', strayListed.launch plainHost .mainRuntime { program := ⟨"camunda"⟩ } =
        (.ok ⟨.mainRuntime, p⟩, s') ∧
      Lives plainHost ending.handle s' stray ∧ ¬ StandsFailed ending.handle s' := by
  refine ⟨.inl rfl, Prod.ext rfl rfl, ⟨_, rfl, rfl, _, rfl⟩, .ofNat 102,
    (strayListed.launch plainHost .mainRuntime { program := ⟨"camunda"⟩ }).2, Prod.ext rfl rfl,
    by decide +kernel, ?_⟩
  rintro ⟨r, hr, hp, -⟩
  cases hr
  exact absurd hp (by decide)

end Example

end Operations

end Launchpad
