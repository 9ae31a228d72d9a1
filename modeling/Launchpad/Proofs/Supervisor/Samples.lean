import Launchpad.Proofs.Supervisor.Looks
import Launchpad.Proofs.Supervisor.Records
import Launchpad.Scripted.Host
import Launchpad.Scripted.SupervisorCall

/-!
# What a wait for a component samples

A wait for a process that stays tracked goes on beside whatever else goes on (`Beside`), and it may
be cancelled. `Returns` is its run to the end, with the states in which it looks at the process and
asks the probe. If every answer of the probe is there at once, these are the states at the moments
to which its timer puts the ends of its pauses, and the first of them that decides ends the wait
(`ComesOut`).

The wait is followed from one sample to the next (`returns_from`): the number of attempts that it
may still make counts the samples that are left. `returns_by_samples` is the run from the start,
when moments are whole milliseconds and the timer is exact about them (`Timer.Keeps`); then the
samples are at whole intervals, and the time of the wait is over before its attempts are.
-/

namespace Launchpad

open Supervisor

variable {σ : Type} {host : Host σ} {h : Handle}

/-- Every answer of the probe is there at once. -/
def Probe.Immediate (probe : Probe σ) : Prop := ∀ now world, (probe.ask now world).1.takes = 0

namespace Supervisor

variable {s : Supervisor σ}

theorem putRecord_self {c : Component} {r : Record} (hr : s.record? c = some r) :
    s.putRecord c (some r) = s := by
  have htable : s.table.set c (some r) = s.table := by
    refine PerComponent.ext_get fun d => ?_
    rw [PerComponent.get_set]
    split
    · next heq => exact heq ▸ hr.symm
    · rfl
  exact congrArg (fun table => { s with table }) htable

theorem observeTracked_of_tracked? {r : Record} (hr : s.tracked? h = some r) :
    (s.observeTracked host h).2 = s.putRecord h.component
      (some (r.observe (host.childState s.now r.pid s.world)).2) := by
  unfold observeTracked observe
  rw [hr]
  dsimp only
  rw [(tracked?_eq_some.mp hr).1]

end Supervisor

namespace ReadinessWait

/-! ## A wait beside other things -/

/-- What goes on beside a wait for a process, which stays tracked: what has become of everything
when a moment has come, and when the wait is cancelled. -/
structure Beside (σ : Type) (h : Handle) where
  reach : Instant → Supervisor σ → Supervisor σ
  now_reach : ∀ t s, (reach t s).now = t
  tracked_reach : ∀ t s, s.Tracked h → (reach t s).Tracked h
  cancelAt : Option Instant := none
  /-- Whether the cancellation counts before what is due at the same moment. -/
  cancelFirst : Bool := true

/-- Whether a wait makes an attempt when it goes on. -/
def tries (w : ReadinessWait σ) (now : Instant) : Bool :=
  match w.stage with
  | .attempting => true
  | .probing .. => false
  | .sleeping wakeAt => wakeAt ≤ now

/-- Whether the cancellation of a wait is noticed when it goes on. -/
def Beside.cancels (e : Beside σ h) (w : ReadinessWait σ) (now : Instant) : Bool :=
  ToolWait.reached e.cancelAt now && (e.cancelFirst || now < w.wakeAt)

/-- Goes on once, and lets time pass until something is due or the wait is cancelled. -/
def round (host : Host σ) (e : Beside σ h) (w : ReadinessWait σ) (s : Supervisor σ) : Step σ :=
  match w.step host (e.cancels w s.now) s with
  | (.again w, s) =>
    (.again w, e.reach (max s.now (Scripted.SupervisorCall.sooner w.wakeAt e.cancelAt)) s)
  | (.done r, s) => (.done r, s)

/-- The states in which a wait makes an attempt when it goes on: that in which it does, or none. -/
def examined (e : Beside σ h) (w : ReadinessWait σ) (s : Supervisor σ) : List (Supervisor σ) :=
  if w.tries s.now && !e.cancels w s.now then [s] else []

/-- A wait returns a result and leaves a supervisor behind. The states in which it has made its
attempts are `samples`. -/
inductive Returns (host : Host σ) (e : Beside σ h) : ReadinessWait σ → Supervisor σ →
    List (Supervisor σ) → Except Error Unit → Supervisor σ → Prop
  | ends {w : ReadinessWait σ} {s s' : Supervisor σ} {r : Except Error Unit}
      (hround : w.round host e s = (.done r, s')) : Returns host e w s (w.examined e s) r s'
  | goesOn {w w' : ReadinessWait σ} {s s' t : Supervisor σ} {samples : List (Supervisor σ)}
      {r : Except Error Unit} (hround : w.round host e s = (.again w', s'))
      (hrest : Returns host e w' s' samples r t) :
      Returns host e w s (w.examined e s ++ samples) r t

variable {e : Beside σ h} {w w' : ReadinessWait σ} {s s' t t' : Supervisor σ}
  {samples samples' : List (Supervisor σ)} {r r' : Except Error Unit}

/-- A round in which a sample is taken puts it before those of the rounds that follow. -/
theorem Returns.cons (hexamined : w.examined e s = [s])
    (hround : w.round host e s = (.again w', s')) (hrest : Returns host e w' s' samples r t) :
    Returns host e w s (s :: samples) r t := by
  have hreturns := Returns.goesOn hround hrest
  rwa [hexamined] at hreturns

theorem Returns.unique (hr : Returns host e w s samples r t)
    (hr' : Returns host e w s samples' r' t') : samples = samples' ∧ r = r' ∧ t = t' := by
  induction hr generalizing samples' with
  | ends hround =>
    cases hr' with
    | ends hround' =>
      cases hround.symm.trans hround'
      exact ⟨rfl, rfl, rfl⟩
    | goesOn hround' _ => cases hround.symm.trans hround'
  | goesOn hround _ ih =>
    cases hr' with
    | ends hround' => cases hround.symm.trans hround'
    | goesOn hround' hrest =>
      cases hround.symm.trans hround'
      obtain ⟨rfl, rfl, rfl⟩ := ih hrest
      exact ⟨rfl, rfl, rfl⟩

theorem step_of_tries (htries : w.tries s.now = true) :
    w.step host false s = w.attempt host s := by
  unfold tries at htries
  unfold step
  rw [if_neg Bool.false_ne_true]
  cases hstage : w.stage with
  | attempting => rfl
  | probing =>
    rw [hstage] at htries
    exact absurd htries Bool.false_ne_true
  | sleeping wakeAt =>
    rw [hstage] at htries
    exact if_pos (of_decide_eq_true htries)

theorem step_of_sleeping {wakeAt : Instant} (hstage : w.stage = .sleeping wakeAt)
    (hwake : s.now < wakeAt) : w.step host false s = w.checkDeadline s := by
  unfold step
  rw [if_neg Bool.false_ne_true, hstage]
  exact if_neg (Nat.not_le_of_gt hwake)

/-! ## What a sample finds -/

section Finding

variable {probe : Probe σ} {q : Supervisor σ}

/-- What a sample decides: the process is looked at, and if it is live the probe is asked. -/
def finding (host : Host σ) (h : Handle) (probe : Probe σ) (q : Supervisor σ) :
    Option (Except Error Unit) :=
  (q.tracked? h).bind fun r =>
    let status := (r.observe (host.childState q.now r.pid q.world)).2.status
    if status.isLive then if (probe.ask q.now q.world).1.ready then some (.ok ()) else none
    else some (.error (.exitedEarly h.component status.text))

/-- What is left once the probe has been asked. -/
def asked (probe : Probe σ) (q : Supervisor σ) : Supervisor σ :=
  { q with world := (probe.ask q.now q.world).2 }

/-- What a sample leaves that decides: the record of a process that is ready says so, and that of
one that has exited bears its exit status. -/
inductive Decides (host : Host σ) (h : Handle) (probe : Probe σ) (q : Supervisor σ) :
    Except Error Unit → Supervisor σ → Prop
  | ready {r : Record} (hr : q.tracked? h = some r) :
      Decides host h probe q (.ok ())
        ((asked probe q).putRecord h.component (some { r with status := .ready }))
  | exited {r : Record} (hr : (q.observeTracked host h).2.tracked? h = some r)
      (hgone : r.status.isLive = false) :
      Decides host h probe q (.error (.exitedEarly h.component r.status.text))
        (q.observeTracked host h).2

theorem Decides.now (hd : Decides host h probe q r t) : t.now = q.now := by
  cases hd with
  | ready => rfl
  | exited => exact (still_observeTracked host h q).now

/-- An attempt that decides ends the wait, and after another one the wait goes on. -/
theorem attempt_eq (hh : w.handle = h) (hprobe : w.probe = probe) (himm : probe.Immediate)
    (ht : q.Tracked h) :
    (finding host h probe q = none ∧ w.attempt host q = w.conclude host false (asked probe q)) ∨
      ∃ v t, finding host h probe q = some v ∧ Decides host h probe q v t ∧
        w.attempt host q = (.done v, t) := by
  subst hh hprobe
  obtain ⟨r, hr, hp⟩ := ht
  have hsome : q.tracked? w.handle = some r := tracked?_eq_some.mpr ⟨hr, hp⟩
  have hlook : (q.observeTracked host w.handle).2 = _ := observeTracked_of_tracked? hsome
  have hfinding : finding host w.handle w.probe q =
      let status := (r.observe (host.childState q.now r.pid q.world)).2.status
      if status.isLive then if (w.probe.ask q.now q.world).1.ready then some (.ok ()) else none
      else some (.error (.exitedEarly w.handle.component status.text)) := by
    unfold finding
    rw [hsome]
    rfl
  have hseen : (q.observeTracked host w.handle).2.tracked? w.handle =
      some (r.observe (host.childState q.now r.pid q.world)).2 := by
    rw [hlook, tracked?_eq_some, record?_putRecord, if_pos rfl]
    exact ⟨rfl, (Record.observe_pid _ r).trans hp⟩
  unfold attempt
  dsimp only
  rw [hfinding, hseen]
  dsimp only
  by_cases hlive : (r.observe (host.childState q.now r.pid q.world)).2.status.isLive = true
  · -- A look at a live process leaves its record as it was, so what counts is the answer.
    have hsame := Record.observe_of_isLive hlive
    rw [if_pos hlive, if_pos hlive, hlook, hsame, putRecord_self hr]
    have hask : w.askProbe host q =
        w.conclude host (w.probe.ask q.now q.world).1.ready (asked w.probe q) :=
      if_pos (himm q.now q.world)
    rw [hask]
    cases hready : (w.probe.ask q.now q.world).1.ready with
    | false => exact .inl ⟨rfl, rfl⟩
    | true =>
      have hset : (asked w.probe q).setStatus w.handle .ready =
          (asked w.probe q).putRecord w.handle.component (some { r with status := .ready }) := by
        have hasked : (asked w.probe q).tracked? w.handle = some r := hsome
        unfold setStatus
        rw [hasked]
        exact if_pos (hsame ▸ hlive)
      refine .inr ⟨.ok (), _, rfl, .ready hsome, ?_⟩
      rw [← hset]
      rfl
  · rw [if_neg hlive, if_neg hlive]
    exact .inr ⟨_, _, rfl, .exited hseen (Bool.eq_false_iff.mpr hlive), rfl⟩

end Finding

/-! ## The samples of a wait -/

/-- A wait for a process that takes a sample at its start and then one after another. -/
structure Sampling (σ : Type) (h : Handle) where
  host : Host σ
  beside : Beside σ h
  probe : Probe σ
  start : Supervisor σ
  /-- The moment of the sample that follows one at a moment. -/
  next : Instant → Instant
  le_next : ∀ t, t ≤ next t

namespace Sampling

/-- The samples with a pause between each two of them, on a timer. -/
def paced (timer : Timer) (host : Host σ) (e : Beside σ h) (probe : Probe σ) (s : Supervisor σ)
    (pause : Duration) : Sampling σ h :=
  ⟨host, e, probe, s, (timer.wake · pause), (timer.le_wake · pause)⟩

variable {x : Sampling σ h} {gate : Gate} {count n k : Nat}

def moment (x : Sampling σ h) : Nat → Instant
  | 0 => x.start.now
  | k + 1 => x.next (x.moment k)

/-- The state in which a sample is taken if no earlier one decides. -/
def state (x : Sampling σ h) : Nat → Supervisor σ
  | 0 => x.start
  | k + 1 => x.beside.reach (x.moment (k + 1)) (asked x.probe (x.state k))

/-- What some samples leave if none of them decides. -/
def after (x : Sampling σ h) : Nat → Supervisor σ
  | 0 => x.start
  | k + 1 => asked x.probe (x.state k)

def finds (x : Sampling σ h) (k : Nat) : Option (Except Error Unit) :=
  finding x.host h x.probe (x.state k)

/-- The moment of the cancellation. One that comes before the start counts from the start on. -/
def CancelledAt (x : Sampling σ h) (moment : Instant) : Prop :=
  ∃ c ∈ x.beside.cancelAt, moment = max x.start.now c

/-- What is left after some samples is what they left, or what has become of that since. -/
def Leaves (x : Sampling σ h) (n : Nat) (t : Supervisor σ) : Prop :=
  t = x.after n ∨ t = x.beside.reach t.now (x.after n)

/-- How a wait comes out that has time for `count` samples and lasts until `limit` at most: after
how many samples, with which result, and what it leaves. -/
inductive ComesOut (x : Sampling σ h) (timeout : Duration) (count : Nat) (limit : Instant) :
    Nat → Except Error Unit → Supervisor σ → Prop
  /-- The first sample decides that decides anything, unless there was a cancellation before. -/
  | decided {k : Nat} {v : Except Error Unit} {t : Supervisor σ} (hk : k < count)
      (hbefore : ∀ i < k, x.finds i = none) (hfinds : x.finds k = some v)
      (hcancel : ∀ c, x.CancelledAt c → x.moment k ≤ c)
      (hleaves : Decides x.host h x.probe (x.state k) v t) :
      ComesOut x timeout count limit (k + 1) v t
  /-- No sample decides, and there was no cancellation before the time was over. -/
  | timedOut {t : Supervisor σ} (hnone : ∀ i < count, x.finds i = none)
      (hcancel : ∀ c, x.CancelledAt c → limit ≤ c)
      (hnow : t.now = limit) (hleaves : x.Leaves count t) :
      ComesOut x timeout count limit count (.error (.notReady h.component timeout)) t
  /-- No sample before the cancellation decides, and the time was not over before it. -/
  | cancelled {n : Nat} {c : Instant} {t : Supervisor σ} (hc : x.CancelledAt c)
      (htime : c ≤ limit) (htaken : ∀ i < n, x.moment i ≤ c ∧ x.finds i = none)
      (hall : ∀ i < count, x.moment i < c → i < n) (hnow : t.now = c) (hleaves : x.Leaves n t) :
      ComesOut x timeout count limit n (.error .cancelled) t

def deadline (x : Sampling σ h) (gate : Gate) : Instant :=
  x.host.timer.expiry x.start.now gate.timeout

/-- The samples that a wait has time and attempts for. Its sleeps end with the next sample, but for
the last one, which may be any that lasts beyond its time. -/
structure Fits (x : Sampling σ h) (gate : Gate) (count : Nat) : Prop where
  due : ∀ k, k < count ↔ k ≤ gate.retries ∧ x.moment k ≤ x.deadline gate
  sleeps : ∀ k < count, x.host.timer.wake (x.moment k) gate.interval = x.moment (k + 1) ∨
    x.deadline gate < x.moment (k + 1) ∧
      x.deadline gate < x.host.timer.wake (x.moment k) gate.interval

/-- The wait as it stands before a sample. -/
structure Awaits (x : Sampling σ h) (gate : Gate) (k : Nat) (w : ReadinessWait σ) : Prop where
  deadline : w.deadline = x.deadline gate
  retries : w.retriesLeft + k = gate.retries
  stage : w.stage = .attempting ∨ w.stage = .sleeping (x.moment k)
  handle : w.handle = h
  probe : w.probe = x.probe
  gate : w.gate = gate

theorem now_state (x : Sampling σ h) (k : Nat) : (x.state k).now = x.moment k := by
  cases k with
  | zero => rfl
  | succ k => exact x.beside.now_reach _ _

theorem tracked_state (ht : x.start.Tracked h) (k : Nat) : (x.state k).Tracked h := by
  induction k with
  | zero => exact ht
  | succ k ih => exact x.beside.tracked_reach _ _ ih

theorem leaves_state (x : Sampling σ h) (k : Nat) : x.Leaves k (x.state k) := by
  cases k with
  | zero => exact .inl rfl
  | succ k =>
    right
    rw [now_state]
    rfl

theorem moment_le_moment {i : Nat} (hik : i ≤ k) : x.moment i ≤ x.moment k := by
  induction hik with
  | refl => exact Nat.le_refl _
  | step _ ih => exact Nat.le_trans ih (x.le_next _)

theorem start_le_moment (x : Sampling σ h) (k : Nat) : x.start.now ≤ x.moment k :=
  moment_le_moment (Nat.zero_le k)

/-! ### From one sample to the next -/

variable {w w' : ReadinessWait σ} {t : Supervisor σ} {r : Except Error Unit}

theorem Awaits.tries (hw : x.Awaits gate k w) : w.tries (x.moment k) = true := by
  unfold ReadinessWait.tries
  rcases hw.stage with hstage | hstage
  · rw [hstage]
  · rw [hstage]
    exact decide_eq_true (Nat.le_refl _)

theorem cancelledAt_of_cancels {now : Instant} (hstart : x.start.now ≤ now)
    (hcancels : x.beside.cancels w now = true) : ∃ c, x.CancelledAt c ∧ c ≤ now := by
  obtain ⟨hreached, -⟩ := Bool.and_eq_true_iff.mp hcancels
  obtain ⟨c, hc, hle⟩ := (Option.any_eq_true _ _).mp hreached
  exact ⟨_, ⟨c, hc, rfl⟩, Nat.max_le.mpr ⟨hstart, of_decide_eq_true hle⟩⟩

theorem CancelledAt.cancels {c : Instant} (hc : x.CancelledAt c) (hwake : c < w.wakeAt) :
    x.beside.cancels w c = true := by
  obtain ⟨c, hc, rfl⟩ := hc
  have hreached : ToolWait.reached x.beside.cancelAt (max x.start.now c) = true :=
    (Option.any_eq_true _ _).mpr ⟨c, hc, decide_eq_true (Nat.le_max_right _ _)⟩
  unfold Beside.cancels
  rw [hreached, decide_eq_true hwake, Bool.or_true]
  rfl

theorem returns_cancelled {e : Beside σ h} {s : Supervisor σ}
    (hcancels : e.cancels w s.now = true) :
    Returns host e w s [] (.error .cancelled) s := by
  have hexamined : w.examined e s = [] := by
    unfold examined
    rw [hcancels, Bool.not_true, Bool.and_false]
    exact if_neg Bool.false_ne_true
  rw [← hexamined]
  refine .ends ?_
  unfold round step
  rw [hcancels]
  rfl

theorem max_min_of_lt {start now wake c : Nat} (hstart : start ≤ now) (hnow : now ≤ max start c)
    (hlt : max start c < wake) : max now (min wake c) = max start c := by omega

theorem max_min_of_le {start now wake c : Nat} (hstart : start ≤ now) (hnow : now ≤ max start c)
    (hwake : now ≤ wake) (hle : wake ≤ max start c) : max now (min wake c) = wake := by omega

/-- The cancellation comes before the next thing that is due, or nothing is noticed of it until
then. -/
theorem next_moment {now wake : Instant} (hstart : x.start.now ≤ now)
    (hcancel : ∀ c, x.CancelledAt c → now ≤ c) (hwake : now ≤ wake) :
    let next := max now (Scripted.SupervisorCall.sooner wake x.beside.cancelAt)
    x.CancelledAt next ∧ next < wake ∨ (∀ c, x.CancelledAt c → wake ≤ c) ∧ next = wake := by
  dsimp only
  unfold CancelledAt at hcancel ⊢
  cases hcancelAt : x.beside.cancelAt with
  | none =>
    right
    exact ⟨fun c ⟨_, hc, _⟩ => absurd hc (Option.not_mem_none _), Nat.max_eq_right hwake⟩
  | some c =>
    have hle := hcancel _ ⟨c, hcancelAt, rfl⟩
    unfold Scripted.SupervisorCall.sooner
    dsimp only
    by_cases hlt : max x.start.now c < wake
    · left
      rw [max_min_of_lt hstart hle hlt]
      exact ⟨⟨c, rfl, rfl⟩, hlt⟩
    · right
      refine ⟨?_, max_min_of_le hstart hle hwake (Nat.le_of_not_gt hlt)⟩
      rintro _ ⟨_, ⟨rfl⟩, rfl⟩
      exact Nat.le_of_not_gt hlt

/-- The wait in the pause after a sample that does not decide. -/
def pause (x : Sampling σ h) (w : ReadinessWait σ) (left k : Nat) : ReadinessWait σ :=
  { w with retriesLeft := left,
           stage := .sleeping (x.host.timer.wake (x.moment k) w.gate.interval) }

def pauseEnd (x : Sampling σ h) (w : ReadinessWait σ) (left k : Nat) : Instant :=
  max (x.moment k)
    (Scripted.SupervisorCall.sooner (x.pause w left k).wakeAt x.beside.cancelAt)

/-- What comes of a wait that stands before a sample. -/
theorem Awaits.goes (hw : x.Awaits gate k w) (himm : x.probe.Immediate)
    (ht : x.start.Tracked h) :
    (∃ c, x.CancelledAt c ∧ c ≤ x.moment k ∧
      Returns x.host x.beside w (x.state k) [] (.error .cancelled) (x.state k)) ∨
    (∃ v t, x.finds k = some v ∧ Decides x.host h x.probe (x.state k) v t ∧
      Returns x.host x.beside w (x.state k) [x.state k] v t) ∨
    x.finds k = none ∧ (gate.retries = k ∧
        Returns x.host x.beside w (x.state k) [x.state k]
          (.error (.notReady h.component gate.timeout)) (x.after (k + 1)) ∨
      ∃ left, left + (k + 1) = gate.retries ∧ w.examined x.beside (x.state k) = [x.state k] ∧
        w.round x.host x.beside (x.state k) =
          (.again (x.pause w left k),
            x.beside.reach (x.pauseEnd w left k) (x.after (k + 1)))) := by
  have hnow := x.now_state k
  cases hcancels : x.beside.cancels w (x.moment k) with
  | true =>
    left
    obtain ⟨c, hc, hle⟩ := cancelledAt_of_cancels (x.start_le_moment k) hcancels
    rw [← hnow] at hcancels
    exact ⟨c, hc, hle, returns_cancelled hcancels⟩
  | false =>
    right
    have hexamined : w.examined x.beside (x.state k) = [x.state k] := by
      unfold examined
      rw [hnow, hw.tries, hcancels]
      rfl
    have hstep : w.step x.host (x.beside.cancels w (x.state k).now) (x.state k) =
        w.attempt x.host (x.state k) := by
      rw [hnow, hcancels]
      exact step_of_tries (hnow ▸ hw.tries)
    rw [← hexamined]
    rcases attempt_eq hw.handle hw.probe himm (tracked_state ht k) with
      ⟨hnone, hattempt⟩ | ⟨v, t, hv, hdecides, hattempt⟩
    · right
      refine ⟨hnone, ?_⟩
      have hleft := hw.retries
      have hasked : asked x.probe (x.state k) = x.after (k + 1) := rfl
      rw [hattempt, hasked] at hstep
      unfold conclude at hstep
      rw [if_neg Bool.false_ne_true] at hstep
      cases hretries : w.retriesLeft with
      | zero =>
        rw [hretries] at hstep hleft
        left
        refine ⟨by omega, .ends ?_⟩
        unfold round
        rw [hstep]
        dsimp only [timedOut]
        rw [hw.handle, hw.gate]
      | succ left =>
        rw [hretries] at hstep hleft
        have hafter : (x.after (k + 1)).now = x.moment k := hnow
        right
        refine ⟨left, by omega, rfl, ?_⟩
        unfold round
        rw [hstep]
        dsimp only
        rw [hafter]
        rfl
    · left
      refine ⟨v, t, hv, hdecides, .ends ?_⟩
      unfold round
      rw [hstep, hattempt]

/-- A wait that sleeps beyond the end of its time is over then. -/
theorem returns_at_deadline {e : Beside σ h} {s : Supervisor σ} {wakeAt : Instant}
    (hstage : w.stage = .sleeping wakeAt) (hwake : s.now < wakeAt) (hdeadline : w.deadline ≤ s.now)
    (hcancels : e.cancels w s.now = false) :
    Returns host e w s [] (.error (.notReady w.handle.component w.gate.timeout)) s := by
  have hexamined : w.examined e s = [] := by
    have htries : w.tries s.now = false := by
      unfold ReadinessWait.tries
      rw [hstage]
      exact decide_eq_false (Nat.not_le_of_gt hwake)
    unfold examined
    rw [htries, Bool.false_and]
    exact if_neg Bool.false_ne_true
  rw [← hexamined]
  refine .ends ?_
  unfold round
  rw [hcancels, step_of_sleeping hstage hwake]
  unfold checkDeadline
  rw [if_pos hdeadline]
  rfl

/-- When a wait is over that nothing decides: its attempts or its time are used up. -/
def limit (x : Sampling σ h) (gate : Gate) : Instant :=
  min (x.moment gate.retries) (x.deadline gate)

/-- A pause ends with the next sample, or the time is over before. -/
theorem Fits.wake_cases (hx : x.Fits gate count) (hk : k < count) :
    (x.moment (k + 1) ≤ x.deadline gate ∧
        x.host.timer.wake (x.moment k) gate.interval = x.moment (k + 1)) ∨
      x.deadline gate < x.moment (k + 1) ∧
        x.deadline gate < x.host.timer.wake (x.moment k) gate.interval := by
  rcases hx.sleeps k hk with heq | hlong
  · rw [heq]
    rcases Nat.lt_or_ge (x.deadline gate) (x.moment (k + 1)) with hlt | hle
    · exact .inr ⟨hlt, hlt⟩
    · exact .inl ⟨hle, rfl⟩
  · exact .inr hlong

/-- A pause that lasts beyond the time of the wait follows the last sample. -/
theorem Fits.count_eq (hx : x.Fits gate count) (hk : k < count)
    (hlong : x.deadline gate < x.moment (k + 1)) : count = k + 1 := by
  have hnot : ¬ k + 1 < count := fun hlt =>
    absurd ((hx.due (k + 1)).mp hlt).2 (Nat.not_le_of_gt hlong)
  omega

theorem Awaits.wakeAt_pause (hw : x.Awaits gate k w) (left : Nat) :
    (x.pause w left k).wakeAt =
      min (x.host.timer.wake (x.moment k) gate.interval) (x.deadline gate) := by
  unfold pause ReadinessWait.wakeAt
  dsimp only
  rw [hw.deadline, hw.gate]

theorem Awaits.le_wakeAt_pause (hw : x.Awaits gate k w) (hx : x.Fits gate count) (hk : k < count)
    (left : Nat) : x.moment k ≤ (x.pause w left k).wakeAt := by
  rw [hw.wakeAt_pause, Nat.le_min]
  exact ⟨x.host.timer.le_wake _ _, ((hx.due k).mp hk).2⟩

/-- A pause does not last beyond the time of the wait or the next sample. -/
theorem Awaits.pause_le (hw : x.Awaits gate k w) (hx : x.Fits gate count) (hk : k < count)
    {left : Nat} (hleft : left + (k + 1) = gate.retries) {now : Instant}
    (hnow : now ≤ (x.pause w left k).wakeAt) :
    now ≤ x.limit gate ∧ ∀ i < count, x.moment i < now → i < k + 1 := by
  have hretries : x.moment (k + 1) ≤ x.moment gate.retries := moment_le_moment (by omega)
  rw [hw.wakeAt_pause, Nat.le_min] at hnow
  unfold limit
  rw [Nat.le_min]
  rcases hx.wake_cases hk with ⟨-, hwake⟩ | ⟨hlong, -⟩
  · rw [hwake] at hnow
    refine ⟨⟨Nat.le_trans hnow.1 hretries, hnow.2⟩, fun i _ hlt => ?_⟩
    by_contra hge
    have hle := moment_le_moment (x := x) (Nat.le_of_not_gt hge)
    exact absurd (Nat.lt_of_lt_of_le hlt hnow.1) (Nat.not_lt_of_ge hle)
  · have hlong' := Nat.le_trans (Nat.le_of_lt hlong) hretries
    refine ⟨⟨Nat.le_trans hnow.2 hlong', hnow.2⟩, fun i hi _ => ?_⟩
    exact hx.count_eq hk hlong ▸ hi

/-- What comes of the pause after a sample that has not decided: a cancellation, another sample, or
the end of the time. -/
theorem Awaits.pauses (hw : x.Awaits gate k w) (hx : x.Fits gate count) (hk : k < count)
    {left : Nat} (hleft : left + (k + 1) = gate.retries)
    (hcancel : ∀ c, x.CancelledAt c → x.moment k ≤ c) :
    let now := x.pauseEnd w left k
    let t := x.beside.reach now (x.after (k + 1))
    (x.CancelledAt now ∧ now ≤ x.limit gate ∧
        (∀ i < count, x.moment i < now → i < k + 1) ∧
        Returns x.host x.beside (x.pause w left k) t [] (.error .cancelled) t) ∨
      (k + 1 < count ∧ now = x.moment (k + 1) ∧ x.Awaits gate (k + 1) (x.pause w left k) ∧
        ∀ c, x.CancelledAt c → now ≤ c) ∨
      count = k + 1 ∧ now = x.limit gate ∧ (∀ c, x.CancelledAt c → now ≤ c) ∧
        Returns x.host x.beside (x.pause w left k) t []
          (.error (.notReady h.component gate.timeout)) t := by
  intro now t
  have hnow : t.now = now := x.beside.now_reach _ _
  have hretries : x.moment (k + 1) ≤ x.moment gate.retries := moment_le_moment (by omega)
  have hnext : x.CancelledAt now ∧ now < (x.pause w left k).wakeAt ∨
      (∀ c, x.CancelledAt c → (x.pause w left k).wakeAt ≤ c) ∧ now = (x.pause w left k).wakeAt :=
    next_moment (x.start_le_moment k) hcancel (hw.le_wakeAt_pause hx hk left)
  have hcancelled (hc : x.CancelledAt now)
      (hcancels : x.beside.cancels (x.pause w left k) now = true)
      (hle : now ≤ (x.pause w left k).wakeAt) :
      x.CancelledAt now ∧ now ≤ x.limit gate ∧
        (∀ i < count, x.moment i < now → i < k + 1) ∧
        Returns x.host x.beside (x.pause w left k) t [] (.error .cancelled) t := by
    obtain ⟨htime, hall⟩ := hw.pause_le hx hk hleft hle
    rw [← hnow] at hcancels
    exact ⟨hc, htime, hall, returns_cancelled hcancels⟩
  rcases hnext with ⟨hc, hlt⟩ | ⟨hlater, heq⟩
  · exact .inl (hcancelled hc (hc.cancels hlt) (Nat.le_of_lt hlt))
  have hover := heq
  rw [hw.wakeAt_pause] at hover
  rw [← heq] at hlater
  rcases hx.wake_cases hk with ⟨hshort, hwake⟩ | ⟨hlong, hwake⟩
  · -- The next sample is due.
    have hmoment : now = x.moment (k + 1) := by
      rw [hover, hwake]
      exact Nat.min_eq_left hshort
    refine .inr (.inl ⟨(hx.due (k + 1)).mpr ⟨by omega, hshort⟩, hmoment, ?_, hlater⟩)
    refine ⟨hw.deadline, hleft, .inr ?_, hw.handle, hw.probe, hw.gate⟩
    unfold pause
    rw [hw.gate, hwake]
  · -- The time is over; a cancellation may come at the same moment.
    have hend : now = x.deadline gate := by
      rw [hover]
      exact Nat.min_eq_right (Nat.le_of_lt hwake)
    cases hcancels : x.beside.cancels (x.pause w left k) now with
    | true =>
      obtain ⟨c, hc, hle⟩ := cancelledAt_of_cancels (hend ▸ x.host.timer.le_expiry _ _) hcancels
      obtain rfl : c = now := Nat.le_antisymm hle (hlater c hc)
      exact .inl (hcancelled hc hcancels (Nat.le_of_eq heq))
    | false =>
      have hlimit : x.limit gate = x.deadline gate :=
        Nat.min_eq_right (Nat.le_trans (Nat.le_of_lt hlong) hretries)
      refine .inr (.inr ⟨hx.count_eq hk hlong, by rw [hend, hlimit], hlater, ?_⟩)
      obtain ⟨hdeadline, -, -, rfl, -, rfl⟩ := hw
      refine returns_at_deadline rfl ?_ ?_ ?_
      · rw [hnow, hend]
        exact hwake
      · rw [hnow, hend]
        exact Nat.le_of_eq hdeadline
      · rwa [hnow]

/-- From a sample on that nothing has decided before. -/
theorem returns_from {k : Nat} {w : ReadinessWait σ} (hx : x.Fits gate count)
    (himm : x.probe.Immediate) (ht : x.start.Tracked h) (hk : k < count) (hw : x.Awaits gate k w)
    (hbefore : ∀ i < k, x.finds i = none) (hcancel : ∀ c, x.CancelledAt c → x.moment k ≤ c) :
    ∃ j r t, Returns x.host x.beside w (x.state k) ((List.range' k j).map x.state) r t ∧
      x.ComesOut gate.timeout count (x.limit gate) (k + j) r t := by
  have hdue := (hx.due k).mp hk
  have hlimit : x.moment k ≤ x.limit gate :=
    Nat.le_min.mpr ⟨moment_le_moment hdue.1, hdue.2⟩
  rcases hw.goes himm ht with ⟨c, hc, hle, hreturns⟩ | ⟨v, t, hv, hdecides, hreturns⟩ |
    ⟨hnone, hgoes⟩
  · -- The cancellation comes at the moment of the sample.
    obtain rfl : c = x.moment k := Nat.le_antisymm hle (hcancel c hc)
    refine ⟨0, _, _, hreturns, .cancelled hc hlimit ?_ ?_ (x.now_state k) (x.leaves_state k)⟩
    · exact fun i hi => ⟨moment_le_moment (Nat.le_of_lt hi), hbefore i hi⟩
    · intro i _ hlt
      by_contra hge
      exact absurd hlt (Nat.not_lt_of_ge (moment_le_moment (Nat.le_of_not_gt hge)))
  · exact ⟨1, _, _, hreturns, .decided hk hbefore hv hcancel hdecides⟩
  · have hundecided : ∀ i < k + 1, x.finds i = none := by
      intro i hi
      rcases Nat.lt_succ_iff_lt_or_eq.mp hi with hlt | rfl
      · exact hbefore i hlt
      · exact hnone
    rcases hgoes with ⟨hspent, hreturns⟩ | ⟨left, hleft, hexamined, hround⟩
    · -- The attempts are used up, so no pause follows the sample.
      have hcount : count = k + 1 := by
        have hnot := mt (hx.due (k + 1)).mp fun hdue' => by omega
        omega
      have hover : x.limit gate = x.moment k := by
        unfold limit
        rw [hspent, Nat.min_eq_left hdue.2]
      refine ⟨1, _, _, hreturns, ?_⟩
      subst hcount
      exact .timedOut hundecided (hover ▸ hcancel) (hover ▸ x.now_state k) (.inl rfl)
    · -- What comes of the pause comes of the wait, which has taken one sample more.
      have hnow := x.beside.now_reach (x.pauseEnd w left k) (x.after (k + 1))
      have hleaves : x.Leaves (k + 1)
          (x.beside.reach (x.pauseEnd w left k) (x.after (k + 1))) := by
        right
        rw [hnow]
      rcases hw.pauses hx hk hleft hcancel with ⟨hc, htime, hall, hreturns⟩ |
        ⟨hk', hnext, hw', hcancel'⟩ | ⟨rfl, hnext, hcancel', hreturns⟩
      · refine ⟨1, _, _, .cons hexamined hround hreturns,
          .cancelled hc htime ?_ hall hnow hleaves⟩
        intro i hi
        have hle := moment_le_moment (x := x) (Nat.le_of_lt_succ hi)
        exact ⟨Nat.le_trans hle (hcancel _ hc), hundecided i hi⟩
      · rw [hnext] at hround hcancel'
        obtain ⟨j, r, t, hreturns, hcomes⟩ := returns_from hx himm ht hk' hw' hundecided hcancel'
        refine ⟨j + 1, r, t, .cons hexamined hround hreturns, ?_⟩
        rwa [Nat.add_comm j 1, ← Nat.add_assoc]
      · rw [hnext] at hcancel'
        exact ⟨1, _, _, .cons hexamined hround hreturns,
          .timedOut hundecided hcancel' (hnow.trans hnext) hleaves⟩
termination_by count - k

/-! ### What a wait comes out with -/

variable {timeout : Duration} {limit c : Instant} {v : Except Error Unit}

theorem CancelledAt.unique {c' : Instant} (hc : x.CancelledAt c) (hc' : x.CancelledAt c') :
    c = c' := by
  obtain ⟨a, ha, rfl⟩ := hc
  obtain ⟨b, hb, rfl⟩ := hc'
  rw [Option.mem_unique ha hb]

/-- The first sample that decides anything decides, if there is no cancellation until then. -/
theorem ComesOut.of_finds (hx : x.ComesOut timeout count limit n r t) (hk : k < count)
    (hbefore : ∀ i < k, x.finds i = none) (hfinds : x.finds k = some v)
    (hcancel : ∀ c, x.CancelledAt c → x.moment k < c) :
    n = k + 1 ∧ r = v ∧ Decides x.host h x.probe (x.state k) v t := by
  have hsome (i : Nat) (hi : i = k) : ¬ x.finds i = none := by
    rw [hi, hfinds]
    exact Option.some_ne_none v
  cases hx with
  | @decided k' _ _ _ hbefore' hfinds' _ hleaves =>
    rcases Nat.lt_trichotomy k k' with hlt | rfl | hlt
    · exact absurd (hbefore' k hlt) (hsome k rfl)
    · cases hfinds.symm.trans hfinds'
      exact ⟨rfl, rfl, hleaves⟩
    · cases (hbefore k' hlt).symm.trans hfinds'
  | timedOut hnone => exact absurd (hnone k hk) (hsome k rfl)
  | cancelled hc _ htaken hall =>
    exact absurd (htaken k (hall k hk (hcancel _ hc))).2 (hsome k rfl)

theorem ComesOut.of_none (hx : x.ComesOut timeout count limit n r t)
    (hnone : ∀ i < count, x.finds i = none)
    (hcancel : ∀ c, x.CancelledAt c → limit < c) :
    n = count ∧ r = .error (.notReady h.component timeout) ∧ t.now = limit ∧
      x.Leaves count t := by
  cases hx with
  | decided hk _ hfinds => cases (hnone _ hk).symm.trans hfinds
  | timedOut _ _ hnow hleaves => exact ⟨rfl, rfl, hnow, hleaves⟩
  | cancelled hc htime => exact absurd (hcancel _ hc) (Nat.not_lt_of_ge htime)

/-- A cancellation before all that would decide the wait ends it at once. -/
theorem ComesOut.of_cancelledAt (hx : x.ComesOut timeout count limit n r t)
    (hc : x.CancelledAt c) (htime : c < limit)
    (hbefore : ∀ i < count, x.moment i ≤ c → x.finds i = none) :
    r = .error .cancelled ∧ t.now = c ∧ x.Leaves n t ∧
      (∀ i < n, x.moment i ≤ c) ∧ ∀ i < count, x.moment i < c → i < n := by
  cases hx with
  | decided hk _ hfinds hcancel => cases (hbefore _ hk (hcancel c hc)).symm.trans hfinds
  | timedOut _ hcancel => exact absurd htime (Nat.not_lt_of_ge (hcancel c hc))
  | cancelled hc' _ htaken hall hnow hleaves =>
    obtain rfl := hc.unique hc'
    exact ⟨rfl, hnow, hleaves, fun i hi => (htaken i hi).1, hall⟩

end Sampling

/-! ## Whole milliseconds -/

section Millis

variable {t p : Nat}

theorem millis_ofMillis (n : Nat) : (Duration.ofMillis n).millis = n :=
  Nat.mul_div_cancel n (by decide)

theorem mul_ofMillis (k p : Nat) : k * Duration.ofMillis p = Duration.ofMillis (k * p) :=
  (Nat.mul_assoc k p _).symm

theorem ofMillis_le_ofMillis {m n : Nat} : Duration.ofMillis m ≤ Duration.ofMillis n ↔ m ≤ n :=
  Nat.mul_le_mul_right_iff (by decide)

theorem lt_div_add_one_iff (hp : 1 ≤ p) {k : Nat} : k < t / p + 1 ↔ k * p ≤ t := by
  rw [Nat.lt_succ_iff, Nat.le_div_iff_mul_le hp]

theorem retries_ofMillis (hp : 1 ≤ p) (hbudget : t / p + 1 < UInt64.size) :
    Gate.retries ⟨.ofMillis t, .ofMillis p⟩ = t / p + 1 := by
  unfold Gate.retries
  dsimp only
  rw [millis_ofMillis, millis_ofMillis, Nat.max_eq_right hp,
    Nat.mod_eq_of_lt (Nat.lt_of_succ_lt hbudget), Nat.mod_eq_of_lt hbudget]

end Millis

/-! ## Timers that keep the times of a wait -/

section Keeping

variable {timer : Timer} {gate : Gate} {now : Instant} {e : Beside σ h} {probe : Probe σ}
  {s : Supervisor σ} {count : Nat}

/-- A timer keeps the times of a wait that starts at a moment: its time is over when it should be,
and so is every pause, but that the last one may be any that lasts beyond its time. -/
structure Keeps (timer : Timer) (gate : Gate) (now : Instant) : Prop where
  expiry : timer.expiry now gate.timeout = now + gate.timeout
  wake : ∀ k, k * gate.interval ≤ gate.timeout →
    timer.wake (now + k * gate.interval) gate.interval = now + (k + 1) * gate.interval ∨
    gate.timeout < (k + 1) * gate.interval ∧
      now + gate.timeout < timer.wake (now + k * gate.interval) gate.interval

theorem add_succ_mul (now k every : Nat) : now + k * every + every = now + (k + 1) * every := by
  rw [Nat.succ_mul, Nat.add_assoc]

theorem keeps_exact (gate : Gate) (now : Instant) : Keeps .exact gate now :=
  ⟨rfl, fun k _ => .inl (add_succ_mul now k gate.interval)⟩

/-- A timer with a longest sleep keeps the times of a wait whose pauses or whose whole time it can
sleep. -/
theorem keeps_sleepingAtMost {longest : Duration}
    (h : gate.interval ≤ longest ∨ gate.timeout < longest) :
    Keeps (.sleepingAtMost longest) gate now := by
  refine ⟨rfl, fun k _ => ?_⟩
  change now + k * gate.interval + min gate.interval longest = _ ∨ _ ∧ _ < _ + min _ _
  rcases Nat.le_total gate.interval longest with hle | hle
  · rw [Nat.min_eq_left hle]
    exact .inl (add_succ_mul now k gate.interval)
  · rw [Nat.min_eq_right hle]
    rcases h with hle' | hlt
    · rw [Nat.le_antisymm hle hle']
      exact .inl (add_succ_mul now k gate.interval)
    · have hinterval : gate.timeout < gate.interval := Nat.lt_of_lt_of_le hlt hle
      refine .inr ⟨Nat.lt_of_lt_of_le hinterval (Nat.le_mul_of_pos_left _ (Nat.succ_pos k)), ?_⟩
      exact Nat.add_lt_add_of_le_of_lt (Nat.le_add_right _ _) hlt

theorem moment_exact (k : Nat) :
    (Sampling.paced .exact host e probe s gate.interval).moment k = s.now + k * gate.interval := by
  induction k with
  | zero => exact congrArg (s.now + ·) (Nat.zero_mul _).symm
  | succ k ih =>
    rw [Sampling.moment, ih]
    exact add_succ_mul s.now k gate.interval

/-- The samples at whole intervals fit a wait whose times are kept. -/
theorem Keeps.fits (hkeeps : Keeps host.timer gate s.now)
    (hcount : ∀ k, k < count ↔ k ≤ gate.retries ∧ k * gate.interval ≤ gate.timeout) :
    (Sampling.paced .exact host e probe s gate.interval).Fits gate count where
  due k := by
    have hdeadline : (Sampling.paced .exact host e probe s gate.interval).deadline gate =
        s.now + gate.timeout := hkeeps.expiry
    rw [hcount, moment_exact, hdeadline, Nat.add_le_add_iff_left]
  sleeps k hk := by
    have hdeadline : (Sampling.paced .exact host e probe s gate.interval).deadline gate =
        s.now + gate.timeout := hkeeps.expiry
    rw [moment_exact, moment_exact, hdeadline]
    exact (hkeeps.wake k ((hcount k).mp hk).2).imp_right fun ⟨hover, hwake⟩ =>
      ⟨Nat.add_lt_add_left hover _, hwake⟩

theorem Keeps.limit (hkeeps : Keeps host.timer gate s.now) :
    (Sampling.paced .exact host e probe s gate.interval).limit gate =
      s.now + min (gate.retries * gate.interval) gate.timeout := by
  unfold Sampling.limit Sampling.deadline
  rw [moment_exact, ← Nat.add_min_add_left]
  exact congrArg (min _) hkeeps.expiry

end Keeping

section Millis

variable {t p : Nat}

/-- The attempts are enough for all samples that the wait has time for. -/
theorem lt_div_add_one_iff_due (hp : 1 ≤ p) (hbudget : t / p + 1 < UInt64.size) (k : Nat) :
    k < t / p + 1 ↔ k ≤ Gate.retries ⟨.ofMillis t, .ofMillis p⟩ ∧
      k * Duration.ofMillis p ≤ Duration.ofMillis t := by
  rw [retries_ofMillis hp hbudget, mul_ofMillis, ofMillis_le_ofMillis, ← lt_div_add_one_iff hp]
  omega

theorem min_retries_ofMillis (hp : 1 ≤ p) (hbudget : t / p + 1 < UInt64.size) :
    min (Gate.retries ⟨.ofMillis t, .ofMillis p⟩ * Duration.ofMillis p) (Duration.ofMillis t) =
      Duration.ofMillis t := by
  rw [retries_ofMillis hp hbudget, mul_ofMillis]
  refine Nat.min_eq_right (ofMillis_le_ofMillis.mpr ?_)
  rw [Nat.mul_comm]
  exact Nat.le_of_lt (Nat.lt_mul_div_succ t hp)

/-- The wait for a process that stays tracked takes its samples at whole intervals from its start,
as long as it has time. The first one decides that finds the process exited or the probe satisfied.
If none does, the time is over when it is over, and a cancellation before all that ends the wait at
once. One at the same moment may or may not. -/
theorem returns_by_samples (host : Host σ) (e : Beside σ h) (probe : Probe σ) {s : Supervisor σ}
    {t p : Nat} (htracked : s.Tracked h) (hprobe : probe.Immediate) (hp : 1 ≤ p)
    (hbudget : t / p + 1 < UInt64.size)
    (htimer : Keeps host.timer ⟨.ofMillis t, .ofMillis p⟩ s.now) :
    let gate : Gate := ⟨.ofMillis t, .ofMillis p⟩
    let x : Sampling σ h := .paced .exact host e probe s gate.interval
    ∃ n r s',
      Returns host e (start host h probe gate s.now) s ((List.range n).map x.state) r s' ∧
      (∀ samples r₁ s₁, Returns host e (start host h probe gate s.now) s samples r₁ s₁ →
        samples = (List.range n).map x.state ∧ r₁ = r ∧ s₁ = s') ∧
      (∀ k, (x.state k).now = s.now + Duration.ofMillis (k * p)) ∧
      x.ComesOut gate.timeout (t / p + 1) (s.now + gate.timeout) n r s' ∧
      (∀ k v, k * p ≤ t → (∀ i < k, x.finds i = none) → x.finds k = some v →
        (∀ c, x.CancelledAt c → s.now + Duration.ofMillis (k * p) < c) →
        n = k + 1 ∧ r = v ∧ Decides host h probe (x.state k) v s') ∧
      ((∀ k, k * p ≤ t → x.finds k = none) →
        (∀ c, x.CancelledAt c → s.now + gate.timeout < c) →
        n = t / p + 1 ∧ r = .error (.notReady h.component gate.timeout) ∧
          s'.now = s.now + gate.timeout ∧ x.Leaves n s') ∧
      ∀ c, x.CancelledAt c → c < s.now + gate.timeout →
        (∀ k, k * p ≤ t → s.now + Duration.ofMillis (k * p) ≤ c → x.finds k = none) →
        r = .error .cancelled ∧ s'.now = c ∧ x.Leaves n s' ∧
          (∀ k < n, s.now + Duration.ofMillis (k * p) ≤ c) ∧
          ∀ k, k * p ≤ t → s.now + Duration.ofMillis (k * p) < c → k < n := by
  intro gate x
  have hmoment (k : Nat) : x.moment k = s.now + Duration.ofMillis (k * p) :=
    (moment_exact k).trans (congrArg (s.now + ·) (mul_ofMillis k p))
  have hlimit : x.limit gate = s.now + gate.timeout :=
    htimer.limit.trans (congrArg (s.now + ·) (min_retries_ofMillis hp hbudget))
  have hawaits : x.Awaits gate 0 (start host h probe gate s.now) :=
    ⟨rfl, Nat.add_zero _, .inl rfl, rfl, rfl, rfl⟩
  have hfirst (c : Instant) (hc : x.CancelledAt c) : x.moment 0 ≤ c := by
    obtain ⟨c, -, rfl⟩ := hc
    exact Nat.le_max_left _ _
  obtain ⟨n, r, s', hreturns, hcomes⟩ :=
    x.returns_from (htimer.fits (lt_div_add_one_iff_due hp hbudget)) hprobe htracked
      (Nat.succ_pos _) hawaits (fun i hi => absurd hi (Nat.not_lt_zero i)) hfirst
  rw [← List.range_eq_range'] at hreturns
  rw [hlimit, Nat.zero_add] at hcomes
  refine ⟨n, r, s', hreturns, fun samples r₁ s₁ hother => hother.unique hreturns,
    fun k => (x.now_state k).trans (hmoment k), hcomes, fun k v hk hbefore hfinds hcancel => ?_,
    fun hnone hcancel => ?_, fun c hc htime hbefore => ?_⟩
  · exact hcomes.of_finds ((lt_div_add_one_iff hp).mpr hk) hbefore hfinds
      fun c hc => hmoment k ▸ hcancel c hc
  · obtain ⟨rfl, hr, hnow, hleaves⟩ :=
      hcomes.of_none (fun k hk => hnone k ((lt_div_add_one_iff hp).mp hk)) hcancel
    exact ⟨rfl, hr, hnow, hleaves⟩
  · obtain ⟨hr, hnow, hleaves, htaken, hall⟩ := hcomes.of_cancelledAt hc htime fun k hk hle =>
      hbefore k ((lt_div_add_one_iff hp).mp hk) (hmoment k ▸ hle)
    exact ⟨hr, hnow, hleaves, fun k hk => hmoment k ▸ htaken k hk, fun k hk hlt =>
      hall k ((lt_div_add_one_iff hp).mpr hk) ((hmoment k).symm ▸ hlt)⟩

end Millis

section Example

open Scripted

/-- Nothing but time passes beside a wait. -/
def idle (h : Handle) : Beside World h where
  reach t s := { s with now := t }
  now_reach _ _ := rfl
  tracked_reach _ _ ht := ht

/-- A main runtime that exits after five milliseconds. -/
def fleeting : Supervisor World where
  world := {
    processes := [{ component := .mainRuntime, pid := .ofNat 101, plan := {},
                    ending := some ⟨Duration.ofMillis 5, some 3⟩ }] }
  table := { PerComponent.const none with
    mainRuntime := some { pid := .ofNat 101, status := .starting, startedAt := 0 } }

/-- The exit is found by the third sample. -/
theorem fleeting_exit_is_sampled :
    ∃ samples s', Returns Scripted.host (idle ⟨.mainRuntime, .ofNat 101⟩)
      (start Scripted.host ⟨.mainRuntime, .ofNat 101⟩ (.fixed false) ⟨.ofMillis 10, .ofMillis 3⟩ 0)
      fleeting samples (.error (.exitedEarly .mainRuntime "exited with code 3")) s' ∧
      samples.length = 3 ∧ s'.now = Duration.ofMillis 6 := by
  obtain ⟨n, r, s', hreturns, -, hnow, -, hfinds, -⟩ :=
    returns_by_samples Scripted.host (idle ⟨.mainRuntime, .ofNat 101⟩) (.fixed false)
      (s := fleeting) (t := 10) (p := 3) ⟨_, rfl, rfl⟩ (fun _ _ => rfl) (by decide)
      (by decide) (keeps_sleepingAtMost (.inl (by decide)))
  obtain ⟨rfl, rfl, hdecides⟩ := hfinds 2 _ (by decide) (by decide +kernel) rfl fun c ⟨_, hc, _⟩ =>
    absurd hc (Option.not_mem_none _)
  exact ⟨_, s', hreturns, rfl, hdecides.now.trans (hnow 2)⟩

end Example

end ReadinessWait

end Launchpad
