import Mathlib.Algebra.Order.Floor.Div
import Mathlib.Order.Bounds.Defs
import Launchpad.Proofs.Scripted.Host
import Launchpad.Proofs.Supervisor.Polls

/-!
# When a wait for processes to be gone looks at them

A wait sleeps between its looks, and the clock goes on by its sleeps alone; whatever else goes on
meanwhile may change everything but the clock (`Meanwhile`). Then the looks are taken every 50
milliseconds from the start on (`Polling`), and the wait ends with the first of them that finds
nobody alive or is not before the deadline. `step_wait` says so of one look, and
`returns_at_first_final_look` of the whole wait.
-/

namespace Launchpad.ExitWait

open Supervisor Termination

variable {σ : Type} {host : Host σ}

/-- What becomes of everything in a sleep that lasts until a moment. -/
structure Meanwhile (σ : Type) where
  reach : Instant → Supervisor σ → Supervisor σ
  now_reach : ∀ t s, (reach t s).now = t

/-- The states in which a wait looks at its processes when it goes on: that in which it does, or
none. -/
def looked (w : ExitWait) (s : Supervisor σ) : List (Supervisor σ) :=
  if w.wakeAt ≤ s.now then [s] else []

/-- A wait returns after a number of sleeps, with the states in which it has looked at its
processes, those that are left of them, and what it leaves behind. -/
inductive Returns (host : Host σ) (e : Meanwhile σ) : ExitWait → Supervisor σ → Nat →
    List (Supervisor σ) → List Pid → Supervisor σ → Prop
  | ends {w : ExitWait} {s s' : Supervisor σ} {left : List Pid}
      (hstep : w.step host s = (.done left, s')) : Returns host e w s 0 (w.looked s) left s'
  | sleeps {w w' : ExitWait} {s s' t : Supervisor σ} {n : Nat} {looks : List (Supervisor σ)}
      {left : List Pid} (hstep : w.step host s = (.again w', s'))
      (hrest : Returns host e w' (e.reach w'.wakeAt s') n looks left t) :
      Returns host e w s (n + 1) (w.looked s ++ looks) left t

theorem Returns.unique {e : Meanwhile σ} {w : ExitWait} {s t t' : Supervisor σ} {n n' : Nat}
    {looks looks' : List (Supervisor σ)} {left left' : List Pid}
    (hr : Returns host e w s n looks left t) (hr' : Returns host e w s n' looks' left' t') :
    n = n' ∧ looks = looks' ∧ left = left' ∧ t = t' := by
  induction hr generalizing n' looks' with
  | ends hstep =>
    cases hr' with
    | ends hstep' =>
      cases hstep.symm.trans hstep'
      exact ⟨rfl, rfl, rfl, rfl⟩
    | sleeps hstep' _ => cases hstep.symm.trans hstep'
  | sleeps hstep _ ih =>
    cases hr' with
    | ends hstep' => cases hstep.symm.trans hstep'
    | sleeps hstep' hrest =>
      cases hstep.symm.trans hstep'
      obtain ⟨rfl, rfl, rfl, rfl⟩ := ih hrest
      exact ⟨rfl, rfl, rfl, rfl⟩

/-- A wait that looks at some processes at its start and then every 50 milliseconds. -/
structure Polling (σ : Type) where
  host : Host σ
  meanwhile : Meanwhile σ
  handle : Handle
  pids : List Pid
  within : Duration
  start : Supervisor σ

namespace Polling

variable {x : Polling σ} {k n : Nat}

def moment (x : Polling σ) (k : Nat) : Instant := x.start.now + Duration.ofMillis (50 * k)

def after (x : Polling σ) (s : Supervisor σ) : Supervisor σ :=
  (survivors x.host x.handle x.pids s).2

/-- The state in which a look is taken if no earlier one is the last. -/
def state (x : Polling σ) : Nat → Supervisor σ
  | 0 => x.start
  | k + 1 => x.meanwhile.reach (x.moment (k + 1)) (x.after (x.state k))

/-- Those that a look finds alive, in their order. -/
def alive (x : Polling σ) (k : Nat) : List Pid :=
  x.pids.filter (findsAlive x.host x.handle (x.state k))

/-- A look after which the wait does not go on. -/
def Final (x : Polling σ) (k : Nat) : Prop :=
  x.alive k = [] ∨ x.within ≤ Duration.ofMillis (50 * k)

instance (x : Polling σ) (k : Nat) : Decidable (x.Final k) :=
  inferInstanceAs (Decidable (_ ∨ _))

/-- The wait as it stands before a look. -/
def wait (x : Polling σ) (k : Nat) : ExitWait :=
  { ExitWait.start x.handle x.pids x.within x.start.now with wakeAt := x.moment k }

theorem now_state (x : Polling σ) (k : Nat) : (x.state k).now = x.moment k := by
  cases k with
  | zero => rfl
  | succ k => exact x.meanwhile.now_reach _ _

theorem now_after (x : Polling σ) (s : Supervisor σ) : (x.after s).now = s.now :=
  (still_survivors x.host x.handle x.pids s).now

theorem moment_succ (x : Polling σ) (k : Nat) :
    x.moment (k + 1) = x.moment k + exitPollInterval := by
  have hnext : Duration.ofMillis (50 * (k + 1)) = Duration.ofMillis (50 * k) + exitPollInterval :=
    Nat.add_mul (50 * k) 50 1000000
  rw [moment, hnext, ← Nat.add_assoc, moment]

theorem looked_wait (x : Polling σ) (k : Nat) : (x.wait k).looked (x.state k) = [x.state k] :=
  if_pos (Nat.le_of_eq (x.now_state k).symm)

/-- A look ends the wait if it is final, and else the next one follows an interval later. -/
theorem step_wait (x : Polling σ) (k : Nat) :
    (x.Final k → (x.wait k).step x.host (x.state k) = (.done (x.alive k), x.after (x.state k))) ∧
    (¬ x.Final k →
      (x.wait k).step x.host (x.state k) = (.again (x.wait (k + 1)), x.after (x.state k))) := by
  have hdue : (x.wait k).step x.host (x.state k) = (x.wait k).look x.host (x.state k) :=
    if_pos (Nat.le_of_eq (x.now_state k).symm)
  have hleft : (survivors x.host x.handle x.pids (x.state k)).1 = x.alive k := survivors_eq ..
  have hnow : (x.after (x.state k)).now = x.moment k := (x.now_after _).trans (x.now_state k)
  have hlook : (x.wait k).look x.host (x.state k) =
      if (x.alive k).isEmpty || x.start.now + x.within ≤ (x.after (x.state k)).now then
        (.done (x.alive k), x.after (x.state k))
      else (.again { x.wait k with wakeAt := (x.after (x.state k)).now + exitPollInterval },
        x.after (x.state k)) := by
    rw [← hleft]
    rfl
  have hfinal : ((x.alive k).isEmpty || decide (x.start.now + x.within ≤ x.moment k)) = true ↔
      x.Final k := by
    simp only [Bool.or_eq_true, List.isEmpty_iff, decide_eq_true_eq, Final, moment,
      Nat.add_le_add_iff_left]
  rw [hdue, hlook, hnow, ← moment_succ]
  exact ⟨fun h => if_pos (hfinal.mpr h), fun h => if_neg (mt hfinal.mp h)⟩

/-- The wait from a look on, none of those before it having been the last. -/
theorem returns_from (hfinal : x.Final n) (hbefore : ∀ k < n, ¬ x.Final k) (d : Nat)
    (hd : k + d = n) :
    Returns x.host x.meanwhile (x.wait k) (x.state k) d ((List.range' k (d + 1)).map x.state)
      (x.alive n) (x.after (x.state n)) := by
  induction d generalizing k with
  | zero =>
    obtain rfl : k = n := hd
    have hends := Returns.ends (e := x.meanwhile) ((x.step_wait k).1 hfinal)
    rwa [looked_wait] at hends
  | succ d ih =>
    have hstep := (x.step_wait k).2 (hbefore k (by omega))
    have hsleeps := Returns.sleeps hstep (ih (k := k + 1) (by omega))
    rwa [looked_wait] at hsleeps

/-- There is a final look: one that is not before the deadline. -/
theorem final_ceilDiv (x : Polling σ) : x.Final (x.within ⌈/⌉ Duration.ofMillis 50) := by
  have hpos : 0 < Duration.ofMillis 50 := by decide
  have hle : x.within ≤ Duration.ofMillis 50 * (x.within ⌈/⌉ Duration.ofMillis 50) :=
    le_smul_ceilDiv hpos
  exact .inr (hle.trans_eq (Nat.mul_right_comm 50 1000000 _))

theorem exists_isLeast_final (x : Polling σ) : ∃ n, IsLeast {k | x.Final k} n := by
  classical
  exact ⟨_, Nat.find_spec ⟨_, x.final_ceilDiv⟩, fun _ => Nat.find_min' _⟩

/-- The first final look comes less than an interval after the deadline. -/
theorem moment_lt (x : Polling σ) (hleast : IsLeast {k | x.Final k} n) :
    x.moment n < x.start.now + x.within + exitPollInterval := by
  cases n with
  | zero =>
    have hpos : 0 < exitPollInterval := by decide
    exact Nat.lt_of_le_of_lt (Nat.le_add_right _ _) (Nat.lt_add_of_pos_right hpos)
  | succ n =>
    have hearly : ¬ x.Final n := fun hfinal => absurd (hleast.2 hfinal) (Nat.not_succ_le_self n)
    have hlt : Duration.ofMillis (50 * n) < x.within := Nat.lt_of_not_le (not_or.mp hearly).2
    rw [moment_succ]
    exact Nat.add_lt_add_right (Nat.add_lt_add_left hlt _) _

/-- A look tells the truth if a root that runs is tracked: every other process is looked at by
itself. -/
theorem alive_eq (htracked : x.handle.pid ∈ x.pids → Runs x.host x.handle (x.state k) →
      (x.state k).Tracked x.handle) :
    x.alive k = living x.host x.handle (x.state k) x.pids := by
  refine List.filter_congr fun p hp => Bool.eq_iff_iff.mpr ?_
  rw [decide_eq_true_iff]
  by_cases hroot : p = x.handle.pid
  · subst hroot
    rw [findsAlive_root, Lives, if_pos rfl]
    exact and_iff_right_of_imp (htracked hp)
  · unfold findsAlive Lives
    rw [if_neg hroot, if_neg hroot]

end Polling

/-- Whatever goes on in its sleeps, a wait returns after no more of them than fit into its time. It
has looked at its processes at its start and then every 50 milliseconds, and its last look is the
first one that finds nobody alive or is not before the deadline. What it returns are those that are
found alive then, in their order, and these are those that live if a root that runs is tracked. -/
theorem returns_at_first_final_look (host : Host σ) (e : Meanwhile σ) (h : Handle)
    (pids : List Pid) (within : Duration) (s : Supervisor σ) :
    let w := start h pids within s.now
    let x : Polling σ := ⟨host, e, h, pids, within, s⟩
    ∃ n,
      IsLeast {k | x.alive k = [] ∨ within ≤ Duration.ofMillis (50 * k)} n ∧
      Returns host e w s n ((List.range (n + 1)).map x.state) (x.alive n)
        (x.after (x.state n)) ∧
      (∀ m looks left s', Returns host e w s m looks left s' →
        m = n ∧ looks = (List.range (n + 1)).map x.state ∧ left = x.alive n ∧
          s' = x.after (x.state n)) ∧
      (∀ k, (x.state k).now = s.now + Duration.ofMillis (50 * k)) ∧
      (∀ k, (h.pid ∈ pids → Runs host h (x.state k) → (x.state k).Tracked h) →
        x.alive k = living host h (x.state k) pids) ∧
      n ≤ within ⌈/⌉ Duration.ofMillis 50 ∧
      (x.alive n ≠ [] → s.now + within ≤ (x.after (x.state n)).now ∧
        (x.after (x.state n)).now < s.now + within + Duration.ofMillis 50) ∧
      (within = 0 → n = 0) := by
  intro w x
  obtain ⟨n, hleast⟩ := x.exists_isLeast_final
  have hreturns : Returns host e w s n _ (x.alive n) (x.after (x.state n)) :=
    x.returns_from hleast.1 (fun k hk hfinal => absurd (hleast.2 hfinal) (Nat.not_le_of_lt hk)) n
      (Nat.zero_add n)
  rw [← List.range_eq_range'] at hreturns
  have hnow : (x.after (x.state n)).now = x.moment n := (x.now_after _).trans (x.now_state n)
  refine ⟨n, hleast, hreturns, fun m looks left s' hother => hother.unique hreturns, x.now_state,
    fun k => x.alive_eq, hleast.2 x.final_ceilDiv, fun halive => ?_, fun hzero => ?_⟩
  · rw [hnow]
    exact ⟨Nat.add_le_add_left (hleast.1.resolve_left halive) _, x.moment_lt hleast⟩
  · have hfirst : x.Final 0 := .inr (Nat.le_of_eq hzero)
    exact Nat.le_zero.mp (hleast.2 hfirst)

section Example

open Scripted

/-- Nothing but time passes in a sleep. -/
def onlyTime (σ : Type) : Meanwhile σ where
  reach t s := { s with now := t }
  now_reach _ _ := rfl

/-- A wait of 60 milliseconds for a main runtime that goes on running and for a stray process that
is gone after 70. -/
def impatient : Polling World where
  host := plainHost
  meanwhile := onlyTime World
  handle := ending.handle
  pids := [stray, ending.handle.pid]
  within := Duration.ofMillis 60
  start := launchedOn { machine (.const stubborn) with
    script.bystanders := [(stray, {})]
    endings := [(stray, { time := Duration.ofMillis 70 })] }

/-- Its third look is the last one, and finds the main runtime alone. -/
theorem third_look_finds_main_runtime :
    ∃ looks s', Returns plainHost (onlyTime World)
      (start ending.handle [stray, ending.handle.pid] (Duration.ofMillis 60) impatient.start.now)
      impatient.start 2 looks [ending.handle.pid] s' ∧
      looks.length = 3 ∧ s'.now = Duration.ofMillis 100 := by
  obtain ⟨n, hleast, hreturns, -⟩ := returns_at_first_final_look plainHost (onlyTime World)
    ending.handle [stray, ending.handle.pid] (Duration.ofMillis 60) impatient.start
  have hlast : impatient.Final 2 := .inr (by decide)
  have hearly : ∀ k < 2, ¬ impatient.Final k := by decide +kernel
  obtain rfl : n = 2 := Nat.le_antisymm (hleast.2 hlast)
    (Nat.le_of_not_lt fun hlt => hearly n hlt hleast.1)
  have halive : impatient.alive 2 = [ending.handle.pid] := by decide +kernel
  change Returns _ _ _ _ 2 _ (impatient.alive 2) (impatient.after (impatient.state 2)) at hreturns
  rw [halive] at hreturns
  exact ⟨_, _, hreturns, rfl, (impatient.now_after _).trans (impatient.now_state 2)⟩

end Example

end Launchpad.ExitWait
