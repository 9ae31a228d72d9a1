import Launchpad.Proofs.Supervisor.Replacement
import Launchpad.Proofs.Supervisor.Samples
import Mathlib.Data.List.Induction

/-!
# What a wait for a component vouches for

A wait returns that a component is ready if one of its attempts has passed: the probe has answered
so, and the process was not found to have exited. An attempt looks for an exit only where there is a
record (`satisfied_attempt`). So it passes for a process that is live, and for one that is not
tracked any more. In a run of operations a root without a record has ended, be it before the wait or
while it waits, and only the probe speaks for it (`vouches_for_live_iff_tracked`,
`reaped_process_is_ready`).
-/

namespace Launchpad

/-- A record is live after a look if it was live and the process runs. -/
theorem Record.isLive_observe_iff {state : ChildState} {r : Record} :
    (r.observe state).2.status.isLive = true ↔ r.status.isLive = true ∧ state = .running := by
  unfold observe
  by_cases hlive : r.status.isLive = true
  · rw [if_pos hlive]
    cases state with
    | running => exact iff_of_true hlive ⟨hlive, rfl⟩
    | exited => exact iff_of_false Bool.false_ne_true fun h => nomatch h.2
    | unknown => exact iff_of_false Bool.false_ne_true fun h => nomatch h.2
  · simp [hlive]

namespace Supervisor

variable {σ : Type} {host : Host σ} {s : Supervisor σ} {h : Handle}

/-- The process runs, and its record says that it is live. -/
def StandsLive (host : Host σ) (h : Handle) (s : Supervisor σ) : Prop :=
  ∃ r, s.tracked? h = some r ∧ r.status.isLive = true ∧ Runs host h s

theorem StandsLive.runs (hl : StandsLive host h s) : Runs host h s := by
  obtain ⟨_, -, -, hr⟩ := hl
  exact hr

theorem StandsLive.tracked (hl : StandsLive host h s) : s.Tracked h := by
  obtain ⟨r, hr, -⟩ := hl
  exact ⟨r, tracked?_eq_some.mp hr⟩

/-- Whether a process that is tracked stands live shows when it is looked at. -/
theorem standsLive_iff {r : Record} (hr : (s.observeTracked host h).2.tracked? h = some r) :
    StandsLive host h s ↔ r.status.isLive = true := by
  cases hr₀ : s.tracked? h with
  | none =>
    rw [observeTracked_of_not_tracked (tracked?_eq_none.mp hr₀)] at hr
    cases hr₀.symm.trans hr
  | some r₀ =>
    have hp : r₀.pid = h.pid := (tracked?_eq_some.mp hr₀).2
    have hrec := (tracked?_eq_some.mp hr).1
    rw [observeTracked_of_tracked? hr₀, record?_putRecord, if_pos rfl, Option.some_inj] at hrec
    rw [← hrec, Record.isLive_observe_iff, hp]
    constructor
    · rintro ⟨r₁, hr₁, hlive, hruns⟩
      cases hr₀.symm.trans hr₁
      exact ⟨hlive, hruns⟩
    · rintro ⟨hlive, hruns⟩
      exact ⟨r₀, hr₀, hlive, hruns⟩

end Supervisor

namespace ReadinessWait

open Supervisor

variable {σ : Type} {host : Host σ} {w : ReadinessWait σ} {s : Supervisor σ}

/-! ## What a step makes of an attempt -/

/-- An attempt passes: the process is not found to have exited, and the probe is satisfied. -/
def Passes (host : Host σ) (w : ReadinessWait σ) (s : Supervisor σ) : Prop :=
  (s.Tracked w.handle → StandsLive host w.handle s) ∧
    (w.probe.ask s.now s.world).1.ready = true

/-- An attempt has passed, and the answer of the probe is on its way. -/
def Answered (w : ReadinessWait σ) : Prop := ∃ answerAt, w.stage = .probing answerAt true

/-- An attempt has passed, and the wait has returned or has the answer on its way. -/
def Satisfied : Progress (ReadinessWait σ) (Except Error Unit) → Prop
  | .done r => r = .ok ()
  | .again w => w.Answered

theorem satisfied_conclude {ready : Bool} :
    Satisfied (w.conclude host ready s).1 ↔ ready = true := by
  unfold conclude
  cases ready with
  | true => exact iff_of_true rfl rfl
  | false =>
    refine iff_of_false ?_ Bool.false_ne_true
    rw [if_neg Bool.false_ne_true]
    split
    · exact nofun
    · rintro ⟨answerAt, hstage⟩
      cases hstage

theorem satisfied_askProbe :
    Satisfied (w.askProbe host s).1 ↔ (w.probe.ask s.now s.world).1.ready = true := by
  unfold askProbe
  dsimp only
  split
  · exact satisfied_conclude
  · simp [Satisfied, Answered]

theorem satisfied_attempt : Satisfied (w.attempt host s).1 ↔ w.Passes host s := by
  have hstill := still_observeTracked host w.handle s
  unfold attempt Passes
  dsimp only
  split
  · next r hr =>
    have ht : s.Tracked w.handle := hstill.tracked_iff.mp (isSome_tracked?.mp (hr ▸ rfl))
    rw [forall_prop_of_true ht, standsLive_iff hr]
    split
    · next hlive => rw [satisfied_askProbe, hstill.now, hstill.world, and_iff_right hlive]
    · next hgone => exact iff_of_false nofun fun h => hgone h.1
  · next hnone =>
    have ht : ¬ s.Tracked w.handle := mt hstill.tracked_iff.mpr (tracked?_eq_none.mp hnone)
    rw [satisfied_askProbe, hstill.now, hstill.world, forall_prop_of_false ht, true_and]

theorem satisfied_of_tries (htries : w.tries s.now = true) :
    Satisfied (w.step host false s).1 ↔ w.Passes host s := by
  rw [step_of_tries htries, satisfied_attempt]

/-- Nothing but an attempt that passes satisfies a wait. -/
theorem satisfied_step {cancelled : Bool} (hs : Satisfied (w.step host cancelled s).1) :
    cancelled = false ∧ (w.Answered ∨ w.tries s.now = true ∧ w.Passes host s) := by
  have hdeadline (h : Satisfied (w.checkDeadline s).1) : w.Answered := by
    unfold checkDeadline at h
    split at h
    · cases h
    · exact h
  cases cancelled with
  | true => cases hs
  | false =>
    refine ⟨rfl, ?_⟩
    by_cases htries : w.tries s.now = true
    · exact .inr ⟨htries, (satisfied_of_tries htries).mp hs⟩
    · left
      unfold tries at htries
      unfold step at hs
      rw [if_neg Bool.false_ne_true] at hs
      cases hstage : w.stage with
      | attempting =>
        rw [hstage] at htries
        exact absurd rfl htries
      | probing answerAt ready =>
        rw [hstage] at hs
        dsimp only at hs
        split at hs
        · exact ⟨answerAt, satisfied_conclude.mp hs ▸ hstage⟩
        · exact hdeadline hs
      | sleeping wakeAt =>
        rw [hstage] at hs htries
        dsimp only at hs htries
        rw [if_neg fun hle => htries (decide_eq_true hle)] at hs
        exact hdeadline hs

/-- An answer that is there ends the wait, whatever has become of the process meanwhile. -/
theorem step_of_answered {answerAt : Instant} (hstage : w.stage = .probing answerAt true)
    (hthere : answerAt ≤ s.now) :
    w.step host false s = (.done (.ok ()), s.setStatus w.handle .ready) := by
  unfold step
  rw [if_neg Bool.false_ne_true, hstage]
  exact if_pos hthere

/-- A wait goes on as the same one at another stage. -/
def Resumes (w : ReadinessWait σ) (p : Progress (ReadinessWait σ) (Except Error Unit)) : Prop :=
  ∀ w', p = .again w' → w'.handle = w.handle ∧ w'.probe = w.probe

theorem resumes_done {r : Except Error Unit} : w.Resumes (.done r) := fun _ => nofun

theorem resumes_again {left : Nat} {stage : Stage} :
    w.Resumes (.again { w with retriesLeft := left, stage }) := by
  rintro _ ⟨rfl⟩
  exact ⟨rfl, rfl⟩

theorem resumes_step (host : Host σ) (cancelled : Bool) (w : ReadinessWait σ) (s : Supervisor σ) :
    w.Resumes (w.step host cancelled s).1 := by
  have hconclude (ready : Bool) (s : Supervisor σ) : w.Resumes (w.conclude host ready s).1 := by
    unfold conclude
    split
    · exact resumes_done
    · split
      · exact resumes_done
      · exact resumes_again
  have hask (s : Supervisor σ) : w.Resumes (w.askProbe host s).1 := by
    unfold askProbe
    dsimp only
    split
    · exact hconclude _ _
    · exact resumes_again
  have hattempt : w.Resumes (w.attempt host s).1 := by
    unfold attempt
    dsimp only
    split
    · split
      · exact hask _
      · exact resumes_done
    · exact hask _
  have hdeadline : w.Resumes (w.checkDeadline s).1 := by
    unfold checkDeadline
    split
    · exact resumes_done
    · exact resumes_again
  unfold step
  split
  · exact resumes_done
  · split
    · exact hattempt
    · split
      · exact hconclude _ _
      · exact hdeadline
    · split
      · exact hattempt
      · exact hdeadline

end ReadinessWait

/-! ## What a run makes of it -/

namespace Operations

open Supervisor ReadinessWait

variable {σ : Type} {host : Host σ} {x : Operations σ} {m : Move σ} {ms : List (Move σ)} {i : Nat}
  {w : ReadinessWait σ}

/-- The call of a number is at an attempt, for the same process and with the same probe as a wait,
and it passes. -/
def PassesFor (host : Host σ) (i : Nat) (w : ReadinessWait σ) (x : Operations σ) : Prop :=
  ∃ v, x.calls i = some (.readiness v) ∧ v.handle = w.handle ∧ v.probe = w.probe ∧
    v.tries x.supervisor.now = true ∧ v.Passes host x.supervisor

/-- Where the answer is on its way, an attempt has passed. -/
theorem answered_run {world : σ} {now : Instant}
    (hcall : ((new world now).run host ms).calls i = some (.readiness w)) (ha : w.Answered) :
    ∃ before after, ms = before ++ .goOn i false :: after ∧
      PassesFor host i w ((new world now).run host before) := by
  -- Back to the attempt: a step before it leaves no answer on its way, and any other call does not.
  induction ms using List.reverseRecOn generalizing w with
  | nil => cases hcall
  | append_singleton ms m ih =>
    have hearlier {v : ReadinessWait σ}
        (hv : ((new world now).run host ms).calls i = some (.readiness v)) (ha : v.Answered) :
        ∃ before after, ms ++ [m] = before ++ .goOn i false :: after ∧
          PassesFor host i v ((new world now).run host before) := by
      obtain ⟨before, after, rfl, hpasses⟩ := ih hv ha
      exact ⟨before, after ++ [m], by simp, hpasses⟩
    rw [run_append] at hcall
    rcases calls_step hcall with hsame | hfresh | ⟨cancelled, o, rfl, ho, hp⟩
    · exact hearlier hsame ha
    · obtain ⟨answerAt, hstage⟩ := ha
      cases hfresh.symm.trans hstage
    · cases o with
      | readiness v =>
        obtain ⟨_, hagain, heq⟩ := Operation.left_eq_some hp
        cases heq
        obtain ⟨hh, hprobe⟩ := resumes_step host cancelled v _ w hagain
        have hs : Satisfied (v.step host cancelled ((new world now).run host ms).supervisor).1 := by
          rw [hagain]
          exact ha
        obtain ⟨rfl, hbefore | ⟨htries, hpasses⟩⟩ := satisfied_step hs
        · unfold PassesFor
          rw [hh, hprobe]
          exact hearlier ho hbefore
        · exact ⟨ms, [], rfl, v, ho, hh.symm, hprobe.symm, htries, hpasses⟩
      | termination t =>
        obtain ⟨_, -, heq⟩ := Operation.left_eq_some hp
        cases heq
      | sweep v =>
        obtain ⟨_, -, heq⟩ := Operation.left_eq_some hp
        cases heq

/-- A wait in a run that returns that a component is ready has made an attempt that passed. The
process was live then if and only if it was tracked, and a root that was not tracked had ended. So
it is for an attempt alone to tell: it passes if and only if the probe is satisfied and the process,
if it is tracked, is live. Once it has passed nothing is looked at any more. -/
theorem vouches_for_live_iff_tracked (hhost : host.TreesHoldRoots) {world : σ} {now : Instant}
    (hpids : EachStep supervisor (step host) (ExitsAreFinal host) (new world now) ms)
    (hlost : EachStep supervisor (step host) (LossesAreFinal host) (new world now) ms)
    (hx : (new world now).run host ms = x)
    (hcall : x.calls i = some (.readiness w)) :
    (∀ cancelled s', w.step host cancelled x.supervisor = (.done (.ok ()), s') →
      ∃ before after y, ms ++ [.goOn i cancelled] = before ++ .goOn i false :: after ∧
        (new world now).run host before = y ∧ PassesFor host i w y ∧
        (StandsLive host w.handle y.supervisor ↔ y.supervisor.Tracked w.handle) ∧
        (w.handle ∈ y.supervisor.roots →
          (Runs host w.handle y.supervisor ↔ y.supervisor.Tracked w.handle))) ∧
    (w.tries x.supervisor.now = true →
      (Satisfied (w.step host false x.supervisor).1 ↔
        (x.supervisor.Tracked w.handle → StandsLive host w.handle x.supervisor) ∧
          (w.probe.ask x.supervisor.now x.supervisor.world).1.ready = true)) ∧
    (∀ answerAt ≤ x.supervisor.now, w.stage = .probing answerAt true →
      (w.step host false x.supervisor).1 = .done (.ok ())) := by
  have hrun := hpids.staysEnded hlost
  refine ⟨fun cancelled s' hok => ?_, satisfied_of_tries, fun answerAt hthere hstage => ?_⟩
  · have hs : Satisfied (w.step host cancelled x.supervisor).1 := by
      rw [hok]
      rfl
    obtain ⟨before, after, hms, hbefore, hpasses⟩ : ∃ before after,
        ms ++ [.goOn i cancelled] = before ++ .goOn i false :: after ∧
          EachStep supervisor (step host) (StaysEnded host) (new world now) before ∧
          PassesFor host i w ((new world now).run host before) := by
      obtain ⟨rfl, hanswered | ⟨htries, hpasses⟩⟩ := satisfied_step hs
      · obtain ⟨before, after, rfl, hpasses⟩ := answered_run (hx ▸ hcall) hanswered
        refine ⟨before, after ++ [.goOn i false], ?_, (eachStep_append.mp hrun).1, hpasses⟩
        rw [List.append_assoc, List.cons_append]
      · exact ⟨ms, [], rfl, hrun, hx ▸ ⟨w, hcall, rfl, rfl, htries, hpasses⟩⟩
    have hy := ((kept_new host world now).run hhost hbefore).accounted
    obtain ⟨v, -, hh, -, -, hlive, -⟩ := id hpasses
    rw [hh] at hlive
    refine ⟨before, after, _, hms, rfl, hpasses, ⟨StandsLive.tracked, hlive⟩, fun hm => ?_⟩
    exact ⟨hy.tracked w.handle hm, fun ht => (hlive ht).runs⟩
  · rw [step_of_answered hstage hthere]

section Example

open Scripted

/-- The main runtime is launched, and a wait for it begins. -/
def awaitsMainRuntime : List (Move World) :=
  [.launch .mainRuntime { program := ⟨"camunda"⟩ },
    .awaitReady 0 (mainRuntime 101) .always ⟨.ofSecs 1, .ofSecs 1⟩]

/-- A wait for the main runtime at its first attempt. -/
def firstAttempt : ReadinessWait World :=
  .start plainHost (mainRuntime 101) .always ⟨.ofSecs 1, .ofSecs 1⟩ 0

theorem live_process_is_vouched_for :
    ∃ before after y, awaitsMainRuntime ++ [.goOn 0 false] = before ++ .goOn 0 false :: after ∧
      (new (machine (.const docile)) 0).run plainHost before = y ∧
      PassesFor plainHost 0 firstAttempt y ∧
      (StandsLive plainHost (mainRuntime 101) y.supervisor ↔
        y.supervisor.Tracked (mainRuntime 101)) := by
  have hpids : EachStep supervisor (step plainHost) (ExitsAreFinal plainHost)
      (new (machine (.const docile)) 0) awaitsMainRuntime := by decide +kernel
  obtain ⟨hvouches, -⟩ := vouches_for_live_iff_tracked (w := firstAttempt) (i := 0)
    treesHoldRoots_plain hpids tellsChildren_plain.eachStep rfl rfl
  obtain ⟨before, after, y, hms, hy, hpasses, hlive, -⟩ := hvouches false _ (Prod.ext rfl rfl)
  exact ⟨before, after, y, hms, hy, hpasses, hlive⟩

/-- The main runtime is terminated before a wait for it begins. -/
def afterTermination : List (Move World) :=
  [.launch .mainRuntime { program := ⟨"camunda"⟩ }, .terminate 0 (mainRuntime 101) {}] ++
    List.replicate 3 (.goOn 0 false) ++
    [.awaitReady 1 (mainRuntime 101) .always ⟨.ofSecs 1, .ofSecs 1⟩]

/-- The termination has returned that all has ended, and the wait returns that the process is
ready. -/
theorem reaped_process_is_ready :
    ∃ x s', (new (machine (.const docile)) 0).run plainHost afterTermination = x ∧
      x.calls 0 = none ∧ x.calls 1 = some (.readiness firstAttempt) ∧
      mainRuntime 101 ∈ x.supervisor.roots ∧ ¬ x.supervisor.Tracked (mainRuntime 101) ∧
      ¬ Runs plainHost (mainRuntime 101) x.supervisor ∧
      firstAttempt.step plainHost false x.supervisor = (.done (.ok ()), s') := by
  refine ⟨_, _, rfl, rfl, rfl, by decide +kernel, ?_, by decide +kernel, Prod.ext rfl rfl⟩
  exact tracked?_eq_none.mp rfl

end Example

end Operations

end Launchpad
