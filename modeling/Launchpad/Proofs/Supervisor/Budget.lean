import Launchpad.Proofs.Supervisor.Samples
import Launchpad.Session.Start
import Mathlib.Order.MinMax

/-!
# How long a wait lasts that nothing decides

A wait has a number of attempts beside its time. While its process lives and the probe is not
satisfied it lasts until one of the two is used up, as its timer counts them. The number of attempts
is a word: where it does not fit into one, the attempts are used up before the time is, and the wait
fails early, on any timer that keeps its times (`times_out_early_iff`).
-/

namespace Launchpad

open Supervisor

namespace Gate

variable {g : Gate} {t p : Nat}

/-- How long a wait lasts that nothing decides, if its times are kept. -/
def lasts (g : Gate) : Duration := min (g.retries * g.interval) g.timeout

/-- A wait is over early if its attempts do not last for its time. -/
theorem lasts_lt_iff : g.lasts < g.timeout ↔ g.retries * g.interval < g.timeout := by
  unfold lasts
  rw [min_lt_iff]
  exact or_iff_left (Nat.lt_irrefl _)

theorem mod_size_lt {q : Nat} (hq : UInt64.size ≤ q + 1) :
    (q % UInt64.size + 1) % UInt64.size < q := by
  have hsize : 1 < UInt64.size := by decide
  rcases Nat.lt_or_ge q UInt64.size with hlt | hge
  · have heq : q + 1 = UInt64.size := Nat.le_antisymm hlt hq
    rw [Nat.mod_eq_of_lt hlt, heq, Nat.mod_self]
    omega
  · exact Nat.lt_of_lt_of_le (Nat.mod_lt _ (by omega)) hge

/-- The attempts do not last for the time if their number does not fit into a word. -/
theorem lasts_lt_ofMillis_iff (hg : g = ⟨.ofMillis t, .ofMillis p⟩) (hp : 1 ≤ p) :
    g.lasts < g.timeout ↔ UInt64.size ≤ t / p + 1 := by
  subst hg
  constructor
  · intro hlt
    by_contra hge
    have hmin : lasts ⟨.ofMillis t, .ofMillis p⟩ = Duration.ofMillis t :=
      ReadinessWait.min_retries_ofMillis hp (Nat.lt_of_not_ge hge)
    rw [hmin] at hlt
    exact Nat.lt_irrefl _ hlt
  · intro hsize
    have hretries : retries ⟨.ofMillis t, .ofMillis p⟩ < t / p := by
      unfold retries
      dsimp only
      rw [ReadinessWait.millis_ofMillis, ReadinessWait.millis_ofMillis, Nat.max_eq_right hp]
      exact mod_size_lt hsize
    have hle : t / p * p ≤ t := Nat.div_mul_le_self t p
    rw [lasts_lt_iff]
    refine Nat.lt_of_lt_of_le (Nat.mul_lt_mul_of_pos_right hretries ?_) ?_
    · exact Nat.mul_pos hp (by decide)
    · rw [ReadinessWait.mul_ofMillis]
      exact ReadinessWait.ofMillis_le_ofMillis.mpr hle

end Gate

/-- The bounds of a wait as they are configured are whole milliseconds. -/
theorem Start.gate_eq {σ : Type} (c : Start σ) (k : Component) :
    c.gate k = ⟨.ofMillis ((c.config.readiness.timeoutSecs.get k).toNat * 1000),
      .ofMillis c.config.readiness.pollIntervalMs.toNat⟩ := by
  have hsecs (n : Nat) : Duration.ofSecs n = Duration.ofMillis (n * 1000) :=
    (Nat.mul_assoc n 1000 1000000).symm
  exact congrArg (Gate.mk · _) (hsecs _)

/-- A valid configuration has no pause of zero. -/
theorem LaunchConfig.pollInterval_pos {c : LaunchConfig} (hc : c.validate = .ok ()) :
    1 ≤ c.readiness.pollIntervalMs.toNat := by
  refine Nat.pos_of_ne_zero fun hzero => ?_
  have hfault : c.readiness.validate = .error .zeroPollInterval :=
    if_pos (UInt64.toNat_inj.mp hzero)
  unfold validate at hc
  rw [hfault] at hc
  simp only [bind, Except.bind] at hc
  repeat' split at hc
  all_goals cases hc

namespace ReadinessWait

variable {σ : Type} {host : Host σ} {h : Handle} {e : Beside σ h} {probe : Probe σ}
  {s : Supervisor σ} {gate : Gate}

/-! ## The samples on any timer -/

/-- There is a number of samples that a wait has attempts and time for. -/
theorem Sampling.exists_count (x : Sampling σ h) (gate : Gate) :
    ∃ count, ∀ k, k < count ↔ k ≤ gate.retries ∧ x.moment k ≤ x.deadline gate := by
  have hbelow (n : Nat) : ∃ count, ∀ k, k < count ↔ k < n ∧ x.moment k ≤ x.deadline gate := by
    induction n with
    | zero => exact ⟨0, fun k => by simp⟩
    | succ n ih =>
      by_cases hdue : x.moment n ≤ x.deadline gate
      · refine ⟨n + 1, fun k => ⟨fun hk => ⟨hk, ?_⟩, And.left⟩⟩
        exact Nat.le_trans (moment_le_moment (Nat.le_of_lt_succ hk)) hdue
      · obtain ⟨count, hcount⟩ := ih
        refine ⟨count, fun k => (hcount k).trans (and_congr_left fun hk => ?_)⟩
        have hne : k ≠ n := fun heq => hdue (heq ▸ hk)
        omega
  obtain ⟨count, hcount⟩ := hbelow (gate.retries + 1)
  exact ⟨count, fun k => (hcount k).trans (and_congr_left fun _ => Nat.lt_succ_iff)⟩

/-- On a timer that keeps the times of a wait, the samples are at whole intervals as long as it has
time. -/
theorem Keeps.moment_cases (hkeeps : Keeps host.timer gate s.now) (e : Beside σ h)
    (probe : Probe σ) (k : Nat) :
    k * gate.interval ≤ gate.timeout ∧
        (Sampling.paced host.timer host e probe s gate.interval).moment k =
          s.now + k * gate.interval ∨
      gate.timeout < k * gate.interval ∧
        s.now + gate.timeout <
          (Sampling.paced host.timer host e probe s gate.interval).moment k := by
  induction k with
  | zero =>
    rw [Nat.zero_mul]
    exact .inl ⟨Nat.zero_le _, rfl⟩
  | succ k ih =>
    rcases ih with ⟨hdue, hmoment⟩ | ⟨hover, hmoment⟩
    · have hwake := hkeeps.wake k hdue
      rw [← hmoment] at hwake
      rcases hwake with hwake | ⟨hover, hwake⟩
      · rcases Nat.lt_or_ge gate.timeout ((k + 1) * gate.interval) with hover | hdue'
        · exact .inr ⟨hover, Nat.lt_of_lt_of_eq (Nat.add_lt_add_left hover _) hwake.symm⟩
        · exact .inl ⟨hdue', hwake⟩
      · exact .inr ⟨hover, hwake⟩
    · refine .inr ⟨Nat.lt_of_lt_of_le hover (Nat.mul_le_mul_right _ (Nat.le_succ k)), ?_⟩
      exact Nat.lt_of_lt_of_le hmoment (Sampling.le_next _ _)

/-- A wait whose times are kept ends when its attempts or its time are used up. -/
theorem Keeps.limit_paced (hkeeps : Keeps host.timer gate s.now) :
    (Sampling.paced host.timer host e probe s gate.interval).limit gate = s.now + gate.lasts := by
  have hdeadline : (Sampling.paced host.timer host e probe s gate.interval).deadline gate =
      s.now + gate.timeout := hkeeps.expiry
  unfold Sampling.limit Gate.lasts
  rw [hdeadline, ← Nat.add_min_add_left]
  rcases hkeeps.moment_cases e probe gate.retries with
    ⟨-, hmoment⟩ | ⟨hover, hmoment⟩
  · rw [hmoment]
  · rw [Nat.min_eq_right (Nat.le_of_lt hmoment),
      Nat.min_eq_right (Nat.add_le_add_left (Nat.le_of_lt hover) _)]

/-! ## The end of a wait -/

/-- A wait that nothing decides fails when its attempts or its time are used up. -/
theorem returns_notReady (gate : Gate) (htracked : s.Tracked h) (hprobe : probe.Immediate)
    (hcancel : e.cancelAt = none) (x : Sampling σ h)
    (hx : x = .paced host.timer host e probe s gate.interval)
    (hnone : ∀ k, k ≤ gate.retries → x.moment k ≤ x.deadline gate → x.finds k = none) :
    ∃ n s', (∀ k, k < n ↔ k ≤ gate.retries ∧ x.moment k ≤ x.deadline gate) ∧
      Returns host e (start host h probe gate s.now) s ((List.range n).map x.state)
        (.error (.notReady h.component gate.timeout)) s' ∧ s'.now = x.limit gate := by
  subst hx
  obtain ⟨n, hcount⟩ :=
    (Sampling.paced host.timer host e probe s gate.interval).exists_count gate
  have hnever (c : Instant) :
      ¬ (Sampling.paced host.timer host e probe s gate.interval).CancelledAt c := by
    rintro ⟨c, hc, -⟩
    change c ∈ e.cancelAt at hc
    rw [hcancel] at hc
    exact Option.not_mem_none c hc
  have hfirst : 0 < n := (hcount 0).mpr ⟨Nat.zero_le _, host.timer.le_expiry _ _⟩
  obtain ⟨m, r, s', hreturns, hcomes⟩ := Sampling.returns_from
    (x := .paced host.timer host e probe s gate.interval) (w := start host h probe gate s.now)
    ⟨hcount, fun _ _ => .inl rfl⟩ hprobe htracked hfirst
    ⟨rfl, Nat.add_zero _, .inl rfl, rfl, rfl, rfl⟩ (fun i hi => absurd hi (Nat.not_lt_zero i))
    fun c hc => absurd hc (hnever c)
  rw [Nat.zero_add] at hcomes
  obtain ⟨rfl, rfl, hnow, -⟩ := hcomes.of_none
    (fun k hk => hnone k ((hcount k).mp hk).1 ((hcount k).mp hk).2)
    fun c hc => absurd hc (hnever c)
  rw [← List.range_eq_range'] at hreturns
  exact ⟨m, s', hcount, hreturns, hnow⟩

/-- A wait that is not cancelled, for a process that lives while the probe is not satisfied, fails
when its attempts or its time are used up, as the timer counts them. On a timer that keeps its times
it fails early if its attempts do not last for its time: of whole milliseconds, as all that is
configured, just if their number does not fit into a word. -/
theorem times_out_early_iff (gate : Gate) (htracked : s.Tracked h) (hprobe : probe.Immediate)
    (hcancel : e.cancelAt = none) (x : Sampling σ h)
    (hx : x = .paced host.timer host e probe s gate.interval)
    (hnone : ∀ k, k ≤ gate.retries → x.moment k ≤ host.timer.expiry s.now gate.timeout →
      x.finds k = none) :
    ∃ n s', (∀ k, k < n ↔
        k ≤ gate.retries ∧ x.moment k ≤ host.timer.expiry s.now gate.timeout) ∧
      Returns host e (start host h probe gate s.now) s ((List.range n).map x.state)
        (.error (.notReady h.component gate.timeout)) s' ∧
      (∀ samples r s₁, Returns host e (start host h probe gate s.now) s samples r s₁ →
        r = .error (.notReady h.component gate.timeout) ∧ s₁ = s') ∧
      (∀ k, (x.state k).now = x.moment k) ∧
      s'.now = min (x.moment gate.retries) (host.timer.expiry s.now gate.timeout) ∧
      (s'.now < s.now + gate.timeout ↔ x.moment gate.retries < s.now + gate.timeout ∨
        host.timer.expiry s.now gate.timeout < s.now + gate.timeout) ∧
      (Keeps host.timer gate s.now →
        (∀ k, k * gate.interval ≤ gate.timeout → (x.state k).now = s.now + k * gate.interval) ∧
        s'.now = s.now + min (gate.retries * gate.interval) gate.timeout ∧
        (s'.now < s.now + gate.timeout ↔ gate.retries * gate.interval < gate.timeout) ∧
        (∀ t p, 1 ≤ p → gate = ⟨.ofMillis t, .ofMillis p⟩ →
          (s'.now < s.now + gate.timeout ↔ UInt64.size ≤ t / p + 1)) ∧
        ∀ (c : Start σ) k, c.config.validate = .ok () → c.gate k = gate →
          (s'.now < s.now + gate.timeout ↔
            UInt64.size ≤ (c.config.readiness.timeoutSecs.get k).toNat * 1000 /
              c.config.readiness.pollIntervalMs.toNat + 1)) := by
  have hdeadline : x.deadline gate = host.timer.expiry s.now gate.timeout := by rw [hx]; rfl
  obtain ⟨n, s', hcount, hreturns, hnow⟩ := returns_notReady gate htracked hprobe hcancel x hx
    (fun k hk hdue => hnone k hk (hdeadline ▸ hdue))
  rw [hdeadline] at hcount
  have hlimit : s'.now = min (x.moment gate.retries) (host.timer.expiry s.now gate.timeout) := by
    rw [hnow, Sampling.limit, hdeadline]
  refine ⟨n, s', hcount, hreturns, fun samples r s₁ hother => (hother.unique hreturns).2,
    x.now_state, hlimit, by rw [hlimit, min_lt_iff], fun hkeeps => ?_⟩
  have hlasts : s'.now = s.now + gate.lasts := by
    rw [hnow, hx]
    exact hkeeps.limit_paced
  have hearly : s'.now < s.now + gate.timeout ↔ gate.lasts < gate.timeout := by
    rw [hlasts]
    exact Nat.add_lt_add_iff_left
  refine ⟨fun k hdue => ?_, hlasts, hearly.trans Gate.lasts_lt_iff, fun t p hp hgate => ?_,
    fun c k hc hgate => ?_⟩
  · rw [x.now_state, hx]
    rcases hkeeps.moment_cases e probe k with ⟨-, hmoment⟩ | ⟨hover, -⟩
    · exact hmoment
    · exact absurd hdue (Nat.not_le_of_gt hover)
  · exact hearly.trans (Gate.lasts_lt_ofMillis_iff hgate hp)
  · rw [Start.gate_eq] at hgate
    exact hearly.trans (Gate.lasts_lt_ofMillis_iff hgate.symm (LaunchConfig.pollInterval_pos hc))

section Example

open Scripted

def connectors : Handle := ⟨.connectorRuntime, .ofNat 102⟩

/-- It has been launched, and it lives. -/
def steady : Supervisor World where
  world := { processes := [{ component := .connectorRuntime, pid := .ofNat 102, plan := {} }] }
  table := { PerComponent.const none with
    connectorRuntime := some { pid := .ofNat 102, status := .starting, startedAt := 0 } }

/-- Its samples, of a probe that is never satisfied. -/
def steadily (pause : Duration) : Sampling World connectors :=
  .paced Scripted.host.timer Scripted.host (idle connectors) (.fixed false) steady pause

theorem steadily_eq (pause : Duration) : steadily pause =
    .paced Scripted.host.timer Scripted.host (idle connectors) (.fixed false) steady pause := rfl

theorem state_steadily (pause : Duration) (k : Nat) :
    (steadily pause).state k = { steady with now := (steadily pause).moment k } := by
  induction k with
  | zero => rfl
  | succ k ih =>
    unfold Sampling.state
    rw [ih]
    rfl

theorem finds_steadily (pause : Duration) (k : Nat) : (steadily pause).finds k = none := by
  unfold Sampling.finds
  rw [state_steadily]
  rfl

theorem steady_wait_times_out :
    ∃ samples s', Returns Scripted.host (idle connectors)
      (start Scripted.host connectors (.fixed false) ⟨.ofMillis 10, .ofMillis 3⟩ 0) steady samples
      (.error (.notReady .connectorRuntime (.ofMillis 10))) s' ∧ s'.now = Duration.ofMillis 10 := by
  obtain ⟨n, s', -, hreturns, -, -, -, -, hkept⟩ :=
    times_out_early_iff ⟨.ofMillis 10, .ofMillis 3⟩ (s := steady) ⟨_, rfl, rfl⟩ (fun _ _ => rfl)
      rfl (steadily (.ofMillis 3)) (steadily_eq _) fun k _ _ => finds_steadily _ k
  obtain ⟨-, hnow, -⟩ := hkept (keeps_sleepingAtMost (.inl (by decide)))
  exact ⟨_, s', hreturns, hnow⟩

/-- A start with more attempts than fit into a word. -/
def overlong : Start World where
  config := {
    camundaVersion := "8.7.0", elasticsearchVersion := "8.17.3", parentDir := ⟨"dist"⟩
    readiness := {
      pollIntervalMs := 1
      timeoutSecs := { searchEngine := 120, connectorRuntime := 18446744073709552,
                       mainRuntime := 300 } } }
  probes := .const (.fixed false)

/-- Its wait for a process that lives is over long before its time is. -/
theorem overlong_wait_ends_early :
    overlong.config.validate = .ok () ∧
    ∃ samples s', Returns Scripted.host (idle connectors)
      (start Scripted.host connectors (.fixed false) (overlong.gate .connectorRuntime) 0) steady
      samples (.error (.notReady .connectorRuntime (.ofSecs 18446744073709552))) s' ∧
      samples.length = 386 ∧
      (∀ q ∈ samples, q.Tracked connectors ∧ Runs Scripted.host connectors q) ∧
      s'.now = Duration.ofMillis 385 ∧
      s'.now < (overlong.gate .connectorRuntime).timeout := by
  refine ⟨rfl, ?_⟩
  have hkeeps : Keeps Scripted.host.timer (overlong.gate .connectorRuntime) steady.now :=
    keeps_sleepingAtMost (.inl (by decide))
  obtain ⟨n, s', hcount, hreturns, hnow⟩ :=
    returns_notReady (overlong.gate .connectorRuntime) (s := steady) ⟨_, rfl, rfl⟩
      (fun _ _ => rfl) rfl (steadily _) (steadily_eq _) fun k _ _ => finds_steadily _ k
  have hend : s'.now = Duration.ofMillis 385 := hnow.trans hkeeps.limit_paced
  have hdue : 385 < n := by
    refine (hcount 385).mpr ⟨by decide, ?_⟩
    rcases hkeeps.moment_cases (idle connectors) (.fixed false) 385 with
      ⟨hdue, hmoment⟩ | ⟨hover, -⟩
    · exact Nat.le_trans (Nat.le_of_eq hmoment) (Nat.add_le_add_left hdue _)
    · exact absurd hover (by decide)
  have hlength : ((List.range n).map
      (steadily (overlong.gate .connectorRuntime).interval).state).length = 386 := by
    rw [List.length_map, List.length_range]
    have hspent : ¬ 386 < n := fun hlt => absurd ((hcount 386).mp hlt).1 (by decide)
    omega
  refine ⟨_, s', hreturns, hlength, fun q hq => ?_, hend, ?_⟩
  · obtain ⟨k, -, rfl⟩ := List.mem_map.mp hq
    rw [state_steadily]
    exact ⟨⟨_, rfl, rfl⟩, rfl⟩
  · rw [hend]
    decide

end Example

end ReadinessWait

end Launchpad
