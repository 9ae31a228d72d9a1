import Launchpad.Proofs.Host.Promises
import Launchpad.Supervisor.Launch
import Launchpad.Supervisor.Readiness
import Launchpad.Supervisor.ToolWait
import Mathlib.Logic.Basic

/-!
# The processes that a supervisor has started

The roots of a supervisor are the processes that it has started for components, as its journal has
them. What the modules behind this one prove of calls that go on beside each other rests on three
relations between the supervisor before and after a step of any of them:

* `StartsNothing`: nothing was started, and no record is new.
* `Steady`: besides, no record was let go. Nearly every operation is steady.
* `Extends`: some processes may have been started, and the record of a process that runs was kept.

`Accounted` is the invariant of all of them: every record is that of a root, and every root that
runs has its record. It needs two things of the machine: identifiers are not reused
(`ExitsAreFinal`), and the system can tell how a child stands for as long as it runs
(`LossesAreFinal`), as it does of every child that has not been waited for. Were a query refused of
a process that runs, its record would become that of a failure, and a termination would let go of
it. Together the two say that no root that does not run is found to run later (`staysEnded_iff`).
-/

namespace Launchpad

/-- The process that a request to the host has started for a component. -/
def HostCall.root? : HostCall → Option Handle
  | .spawned c p => some ⟨c, p⟩
  | _ => none

namespace Record

/-- Whether the process could not be supervised or ended. -/
def HasFailed (r : Record) : Prop := ∃ reason, r.status = .failed reason

/-- What may become of a record: it stays that of one process, and a failure stays one. -/
structure Becomes (r r' : Record) : Prop where
  pid : r'.pid = r.pid
  failed : r.HasFailed → r'.HasFailed

theorem Becomes.refl (r : Record) : r.Becomes r := ⟨rfl, id⟩

theorem Becomes.trans {r r' r'' : Record} (h : r.Becomes r') (h' : r'.Becomes r'') :
    r.Becomes r'' :=
  ⟨h'.pid.trans h.pid, h'.failed ∘ h.failed⟩

theorem not_hasFailed_of_isLive {r : Record} (h : r.status.isLive = true) : ¬ r.HasFailed := by
  rintro ⟨reason, hr⟩
  rw [hr] at h
  exact absurd h (by simp [ProcessStatus.isLive])

theorem becomes_observe (state : ChildState) (r : Record) : r.Becomes (r.observe state).2 := by
  refine ⟨observe_pid state r, fun hf => ?_⟩
  cases hl : r.status.isLive with
  | true => exact absurd hf (not_hasFailed_of_isLive hl)
  | false => rwa [observe_of_not_live hl]

end Record

namespace Supervisor

variable {σ : Type} {host : Host σ} {s s' s'' : Supervisor σ} {h : Handle}

/-- The processes that were started for components, latest first. -/
def roots (s : Supervisor σ) : List Handle := s.journal.filterMap fun e => e.call.root?

/-- Whether the record of a component is that of the process. -/
def Tracked (s : Supervisor σ) (h : Handle) : Prop :=
  ∃ r, s.record? h.component = some r ∧ r.pid = h.pid

def Runs (host : Host σ) (h : Handle) (s : Supervisor σ) : Prop :=
  host.childState s.now h.pid s.world = .running

def HasExited (host : Host σ) (h : Handle) (s : Supervisor σ) : Prop :=
  ∃ code, host.childState s.now h.pid s.world = .exited code

/-- Whether the system cannot tell how a process that was started stands. -/
def IsLost (host : Host σ) (h : Handle) (s : Supervisor σ) : Prop :=
  ∃ reason, host.childState s.now h.pid s.world = .unknown reason

instance : Decidable (Runs host h s) := inferInstanceAs (Decidable (_ = _))

instance : Decidable (HasExited host h s) :=
  match hstate : host.childState s.now h.pid s.world with
  | .exited code => isTrue ⟨code, hstate⟩
  | .running | .unknown _ => isFalse fun ⟨_, hexited⟩ => by cases hstate.symm.trans hexited

theorem roots_note (s : Supervisor σ) (call : HostCall) :
    (s.note call).roots = call.root?.toList ++ s.roots := by
  unfold roots note
  rw [List.filterMap_cons]
  cases call.root? <;> rfl

theorem tracked?_eq_some {r : Record} :
    s.tracked? h = some r ↔ s.record? h.component = some r ∧ r.pid = h.pid := by
  simp [tracked?, Option.filter_eq_some_iff]

theorem tracked?_eq_none : s.tracked? h = none ↔ ¬ s.Tracked h := by
  simp [tracked?, Tracked, Option.filter_eq_none_iff]

theorem isSome_tracked? : (s.tracked? h).isSome = true ↔ s.Tracked h := by
  rw [← not_iff_not, ← tracked?_eq_none, Bool.not_eq_true, Option.isSome_eq_false_iff,
    Option.isNone_iff_eq_none]

/-- A component has the record of one process at a time. -/
theorem Tracked.eq {h' : Handle} (ht : s.Tracked h) (ht' : s.Tracked h')
    (hc : h.component = h'.component) : h = h' := by
  obtain ⟨r, hr, hp⟩ := ht
  obtain ⟨r', hr', hp'⟩ := ht'
  rw [hc, hr'] at hr
  cases Option.some.inj hr
  cases h
  cases h'
  simp_all

@[simp] theorem record?_putRecord (s : Supervisor σ) (c d : Component) (r : Option Record) :
    (s.putRecord c r).record? d = if d = c then r else s.record? d :=
  PerComponent.get_set s.table c d r

@[simp] theorem roots_putRecord (s : Supervisor σ) (c : Component) (r : Option Record) :
    (s.putRecord c r).roots = s.roots := rfl

/-! ## Operations that start nothing -/

/-- Nothing is started, and every record is what may become of one that there was before. -/
structure StartsNothing (s s' : Supervisor σ) : Prop where
  roots : s'.roots = s.roots
  closed : s.closed = true → s'.closed = true
  records : ∀ c r', s'.record? c = some r' → ∃ r, s.record? c = some r ∧ r.Becomes r'

theorem StartsNothing.refl (s : Supervisor σ) : StartsNothing s s :=
  ⟨rfl, id, fun _ r hr => ⟨r, hr, .refl r⟩⟩

theorem StartsNothing.trans (h₁ : StartsNothing s s') (h₂ : StartsNothing s' s'') :
    StartsNothing s s'' where
  roots := h₂.roots.trans h₁.roots
  closed := h₂.closed ∘ h₁.closed
  records c r'' hr'' := by
    obtain ⟨r', hr', hb'⟩ := h₂.records c r'' hr''
    obtain ⟨r, hr, hb⟩ := h₁.records c r' hr'
    exact ⟨r, hr, hb.trans hb'⟩

theorem StartsNothing.tracked_of (hs : StartsNothing s s') (ht : s'.Tracked h) : s.Tracked h := by
  obtain ⟨r', hr', hp⟩ := ht
  obtain ⟨r, hr, hb⟩ := hs.records h.component r' hr'
  exact ⟨r, hr, hb.pid.symm.trans hp⟩

theorem startsNothing_drop (s : Supervisor σ) (c : Component) :
    StartsNothing s (s.putRecord c none) := by
  refine ⟨rfl, id, fun d r' hr' => ?_⟩
  rw [record?_putRecord] at hr'
  split at hr'
  · cases hr'
  · exact ⟨r', hr', .refl r'⟩

/-! ## Steady operations -/

/-- Nothing is started, and every record stays where it is. -/
structure Steady (s s' : Supervisor σ) : Prop extends StartsNothing s s' where
  tracked : ∀ h, s.Tracked h → s'.Tracked h

theorem Steady.refl (s : Supervisor σ) : Steady s s := ⟨.refl s, fun _ => id⟩

theorem Steady.trans (h₁ : Steady s s') (h₂ : Steady s' s'') : Steady s s'' :=
  ⟨h₁.toStartsNothing.trans h₂.toStartsNothing, fun h => h₂.tracked h ∘ h₁.tracked h⟩

/-- An operation that leaves the records alone is steady, whatever it does to the machine. -/
theorem Steady.of_table (ht : s'.table = s.table) (hr : s'.roots = s.roots)
    (hc : s.closed = true → s'.closed = true) : Steady s s' := by
  have hrec : ∀ c, s'.record? c = s.record? c := fun c => by rw [record?, ht, record?]
  refine ⟨⟨hr, hc, fun c r h => ⟨r, (hrec c).symm.trans h, .refl r⟩⟩, fun h ⟨r, hr, hp⟩ => ?_⟩
  exact ⟨r, (hrec _).trans hr, hp⟩

/-- A record is replaced by what may become of it. -/
theorem Steady.putRecord {c : Component} {r r' : Record} (hr : s.record? c = some r)
    (hb : r.Becomes r') : Steady s (s.putRecord c (some r')) := by
  refine ⟨⟨rfl, id, fun d q hq => ?_⟩, fun h ⟨q, hq, hp⟩ => ?_⟩
  · rw [record?_putRecord] at hq
    split at hq
    · next hd =>
      cases Option.some.inj hq
      exact ⟨r, hd ▸ hr, hb⟩
    · exact ⟨q, hq, .refl q⟩
  · unfold Tracked
    rw [record?_putRecord]
    split
    · next hd =>
      rw [hd, hr] at hq
      cases Option.some.inj hq
      exact ⟨r', rfl, hb.pid.trans hp⟩
    · exact ⟨q, hq, hp⟩

theorem steady_note {call : HostCall} (hc : call.root? = none) (s : Supervisor σ) :
    Steady s (s.note call) :=
  .of_table rfl (by rw [roots_note, hc]; rfl) id

theorem steady_world (s : Supervisor σ) (now : Instant) (world : σ) :
    Steady s { s with now, world } := .of_table rfl rfl id

theorem steady_close (s : Supervisor σ) : Steady s s.close := .of_table rfl rfl fun _ => rfl

theorem steady_observe (host : Host σ) (c : Component) (s : Supervisor σ) :
    Steady s (s.observe host c).2 := by
  unfold observe
  split
  · exact .refl s
  · next r hr => exact .putRecord hr (Record.becomes_observe _ r)

theorem steady_observeTracked (host : Host σ) (h : Handle) (s : Supervisor σ) :
    Steady s (s.observeTracked host h).2 := by
  unfold observeTracked
  split
  · exact .refl s
  · exact steady_observe host h.component s

theorem steady_setStatus (h : Handle) (status : ProcessStatus) (s : Supervisor σ) :
    Steady s (s.setStatus h status) := by
  unfold setStatus
  split
  · next r hr =>
    split
    · next hl =>
      have hb : r.Becomes { r with status } :=
        ⟨rfl, fun hf => absurd hf (Record.not_hasFailed_of_isLive hl)⟩
      exact .putRecord (tracked?_eq_some.mp hr).1 hb
    · exact .refl s
  · exact .refl s

theorem steady_markRunning (s : Supervisor σ) : Steady s s.markRunning := by
  have hb : ∀ r : Record, r.Becomes
      (if r.status = .ready then { r with status := .running } else r) := fun r => by
    split
    · next hr =>
      exact ⟨rfl, fun hf => absurd hf (Record.not_hasFailed_of_isLive (by rw [hr]; rfl))⟩
    · exact .refl r
  have hrec : ∀ c, s.markRunning.record? c = (s.record? c).map fun r =>
      if r.status = .ready then { r with status := .running } else r := fun c =>
    PerComponent.get_map _ s.table c
  refine ⟨⟨rfl, id, fun c r' hr' => ?_⟩, fun h ⟨r, hr, hp⟩ => ?_⟩
  · rw [hrec] at hr'
    obtain ⟨r, hr, rfl⟩ := Option.map_eq_some_iff.mp hr'
    exact ⟨r, hr, hb r⟩
  · exact ⟨_, by rw [hrec, hr]; rfl, (hb r).pid.trans hp⟩

theorem steady_refresh (host : Host σ) (s : Supervisor σ) : Steady s (s.refresh host).2 := by
  have h (cs : List Component) : ∀ s, Steady s (cs.foldl (fun s c => (s.observe host c).2) s) := by
    induction cs with
    | nil => exact .refl
    | cons c cs ih => exact fun s => (steady_observe host c s).trans (ih _)
  exact h _ s

/-! ## Operations that start or let go of a process -/

/-- The processes `new` are started and tracked, and a record that is let go of is that of a process
that does not run. A closed supervisor starts nothing. -/
structure Extends (host : Host σ) (new : List Handle) (s s' : Supervisor σ) : Prop where
  roots : s'.roots = new ++ s.roots
  closed : s.closed = true → s'.closed = true ∧ new = []
  records : ∀ c r', s'.record? c = some r' →
    (∃ r, s.record? c = some r ∧ r.Becomes r') ∨ ⟨c, r'.pid⟩ ∈ new
  kept : ∀ h, s.Tracked h → Runs host h s → s'.Tracked h
  started : ∀ h ∈ new, s'.Tracked h

theorem StartsNothing.extends (hs : StartsNothing s s')
    (hkept : ∀ h, s.Tracked h → Runs host h s → s'.Tracked h) : Extends host [] s s' where
  roots := hs.roots
  closed hc := ⟨hs.closed hc, rfl⟩
  records c r' hr' := .inl (hs.records c r' hr')
  kept := hkept
  started _ hm := absurd hm List.not_mem_nil

theorem Steady.extends (hs : Steady s s') : Extends host [] s s' :=
  hs.toStartsNothing.extends fun h ht _ => hs.tracked h ht

theorem Extends.startsNothing (he : Extends host [] s s') : StartsNothing s s' where
  roots := he.roots
  closed hc := (he.closed hc).1
  records c r' hr' := (he.records c r' hr').resolve_right List.not_mem_nil

/-- Steady operations may come before one that extends, while the machine stands still. -/
theorem Extends.of_steady {new : List Handle} (hs : Steady s s') (hw : s'.world = s.world)
    (hn : s'.now = s.now) (he : Extends host new s' s'') : Extends host new s s'' where
  roots := by rw [he.roots, hs.roots]
  closed hc := he.closed (hs.closed hc)
  records c r'' hr'' := by
    rcases he.records c r'' hr'' with ⟨r', hr', hb'⟩ | hm
    · obtain ⟨r, hr, hb⟩ := hs.records c r' hr'
      exact .inl ⟨r, hr, hb.trans hb'⟩
    · exact .inr hm
  kept h ht hr := he.kept h (hs.tracked h ht) (by unfold Runs; rwa [hw, hn])
  started := he.started

theorem observe_alive {c : Component} {r : Record} (hr : s.record? c = some r) :
    (s.observe host c).1 = (host.childState s.now r.pid s.world == .running) := by
  unfold observe
  rw [hr]
  exact Record.observe_alive _ r

theorem observe_world (host : Host σ) (c : Component) (s : Supervisor σ) :
    (s.observe host c).2.world = s.world ∧ (s.observe host c).2.now = s.now ∧
      (s.observe host c).2.closed = s.closed := by
  unfold observe
  split <;> exact ⟨rfl, rfl, rfl⟩

/-- A process that is found not to run does not run. -/
theorem not_runs_of_observe {c : Component} (ha : (s.observe host c).1 = false) {r : Record}
    (hr : (s.observe host c).2.record? c = some r) :
    ¬ Runs host ⟨c, r.pid⟩ (s.observe host c).2 := by
  obtain ⟨r₀, hr₀, hb⟩ := (steady_observe host c s).records c r hr
  obtain ⟨hw, hn, -⟩ := observe_world host c s
  rw [observe_alive hr₀] at ha
  unfold Runs
  rw [hw, hn, hb.pid]
  simpa using ha

/-- A process takes the place of one of its component that does not run. -/
theorem startProcess_cases (host : Host σ) (c : Component) (command : Command) (s : Supervisor σ)
    (hopen : s.closed = false)
    (hfree : ∀ r, s.record? c = some r → ¬ Runs host ⟨c, r.pid⟩ s) :
    (∃ e s', s.startProcess host c command = (.error e, s') ∧ Steady s s') ∨
    (∃ p s', s.startProcess host c command = (.ok ⟨c, p⟩, s') ∧
      Extends host [⟨c, p⟩] s s' ∧ ∀ h, h.component ≠ c → s.Tracked h → s'.Tracked h) := by
  unfold startProcess
  split
  · next cause world _ => exact .inl ⟨_, _, rfl, steady_world s s.now world⟩
  · next p world _ =>
    refine .inr ⟨p, _, rfl, ⟨?_, ?_, ?_, ?_, ?_⟩, ?_⟩
    · rw [roots_putRecord, roots_note]
      rfl
    · intro hc
      exact absurd (hopen.symm.trans hc) Bool.false_ne_true
    · intro d r' hr'
      rw [record?_putRecord] at hr'
      split at hr'
      · next hd =>
        cases Option.some.inj hr'
        exact .inr (List.mem_singleton.mpr (by rw [hd]))
      · exact .inl ⟨r', hr', .refl r'⟩
    · rintro h ⟨r, hr, hp⟩ hruns
      unfold Tracked
      rw [record?_putRecord]
      split
      · next hd =>
        rw [hd] at hr
        refine absurd ?_ (hfree r hr)
        unfold Runs at hruns ⊢
        rwa [hp]
      · exact ⟨r, hr, hp⟩
    · intro h hm
      cases List.mem_singleton.mp hm
      exact ⟨_, by rw [record?_putRecord, if_pos rfl], rfl⟩
    · rintro h hne ⟨r, hr, hp⟩
      exact ⟨r, by rw [record?_putRecord, if_neg hne]; exact hr, hp⟩

/-- A launch starts the process of its component or fails and starts nothing. The records of other
components stay. -/
theorem launch_cases (host : Host σ) (c : Component) (command : Command) (s : Supervisor σ) :
    (∃ e s', s.launch host c command = (.error e, s') ∧ Steady s s') ∨
    (∃ p s', s.launch host c command = (.ok ⟨c, p⟩, s') ∧ s.closed = false ∧
      Extends host [⟨c, p⟩] s s' ∧ ∀ h, h.component ≠ c → s.Tracked h → s'.Tracked h) := by
  have hnote : Steady s (s.note (.prepare command)) := steady_note rfl s
  unfold launch
  dsimp only
  split
  · exact .inl ⟨_, _, rfl, hnote⟩
  · split
    · exact .inl ⟨_, _, rfl, hnote⟩
    · next hclosed =>
      have hopen : s.closed = false := Bool.not_eq_true _ ▸ hclosed
      split
      · next hnone =>
        rcases startProcess_cases host c command (s.note (.prepare command)) hopen
            (fun r hr => absurd (hnone.symm.trans hr) (by simp)) with
          ⟨e, s', heq, hs⟩ | ⟨p, s', heq, he, hkeep⟩
        · exact .inl ⟨e, s', heq, hnote.trans hs⟩
        · exact .inr ⟨p, s', heq, hopen, .of_steady hnote rfl rfl he,
            fun h hne ht => hkeep h hne (hnote.tracked h ht)⟩
      · next r hr =>
        have hobs := hnote.trans (steady_observe host c (s.note (.prepare command)))
        split
        · exact .inl ⟨_, _, rfl, hobs⟩
        · next hdead =>
          obtain ⟨hw, hn, hc⟩ := observe_world host c (s.note (.prepare command))
          rcases startProcess_cases host c command _ (hc.trans hopen)
              (fun _ hr => not_runs_of_observe (Bool.not_eq_true _ ▸ hdead) hr) with
            ⟨e, s', heq, hs⟩ | ⟨p, s', heq, he, hkeep⟩
          · exact .inl ⟨e, s', heq, hobs.trans hs⟩
          · exact .inr ⟨p, s', heq, hopen, .of_steady hobs hw hn he,
              fun h hne ht => hkeep h hne (hobs.tracked h ht)⟩

/-! ## Records of the roots that run -/

/-- No root that has exited runs again: identifiers are not reused. -/
def ExitsAreFinal (host : Host σ) (s s' : Supervisor σ) : Prop :=
  ∀ h ∈ s.roots, HasExited host h s → ¬ Runs host h s'

/-- No root that has been lost runs: how a child stands cannot be told only when it is gone. -/
def LossesAreFinal (host : Host σ) (s s' : Supervisor σ) : Prop :=
  ∀ h ∈ s.roots, IsLost host h s → ¬ Runs host h s'

/-- No root that does not run is found to run later. -/
def StaysEnded (host : Host σ) (s s' : Supervisor σ) : Prop :=
  ∀ h ∈ s.roots, Runs host h s' → Runs host h s

instance (s s' : Supervisor σ) : Decidable (ExitsAreFinal host s s') :=
  inferInstanceAs (Decidable (∀ h ∈ s.roots, _ → _))

theorem staysEnded_iff :
    StaysEnded host s s' ↔ ExitsAreFinal host s s' ∧ LossesAreFinal host s s' := by
  have hstate (h : Handle) : Runs host h s ↔ ¬ HasExited host h s ∧ ¬ IsLost host h s := by
    unfold Runs HasExited IsLost
    cases host.childState s.now h.pid s.world <;> simp
  simp only [StaysEnded, ExitsAreFinal, LossesAreFinal, hstate, ← forall_and]
  refine forall₂_congr fun h _ => ⟨fun hend => ⟨fun hx hr => (hend hr).1 hx, fun hx hr => ?_⟩,
    fun hend hr => ⟨fun hx => hend.1 hx hr, fun hx => hend.2 hx hr⟩⟩
  exact (hend hr).2 hx

/-- Every record is that of a root, and every root that runs has its record. -/
structure Accounted (host : Host σ) (s : Supervisor σ) : Prop where
  rooted : ∀ h, s.Tracked h → h ∈ s.roots
  tracked : ∀ h ∈ s.roots, Runs host h s → s.Tracked h

theorem Extends.tracked_cases {new : List Handle} (he : Extends host new s s')
    (ht : s'.Tracked h) : s.Tracked h ∨ h ∈ new := by
  obtain ⟨r', hr', hp⟩ := ht
  rcases he.records h.component r' hr' with ⟨r, hr, hb⟩ | hm
  · exact .inl ⟨r, hr, hb.pid.symm.trans hp⟩
  · rw [hp] at hm
    exact .inr hm

theorem Accounted.extends {new : List Handle} (ha : Accounted host s)
    (he : Extends host new s s') (hend : StaysEnded host s s') : Accounted host s' where
  rooted h ht := by
    rw [he.roots, List.mem_append]
    rcases he.tracked_cases ht with ht | hm
    · exact .inr (ha.rooted h ht)
    · exact .inl hm
  tracked h hm hr := by
    rw [he.roots, List.mem_append] at hm
    rcases hm with hm | hm
    · exact he.started h hm
    · have hruns := hend h hm hr
      exact he.kept h (ha.tracked h hm hruns) hruns

/-! ## Runs -/

section Runs

variable {α μ : Type} {supervisor : α → Supervisor σ} {step : μ → α → α}
  {R : Supervisor σ → Supervisor σ → Prop} {x : α} {ms ms' : List μ}

/-- The supervisors before and after each step of a run are related. -/
def EachStep (supervisor : α → Supervisor σ) (step : μ → α → α)
    (R : Supervisor σ → Supervisor σ → Prop) : α → List μ → Prop
  | _, [] => True
  | x, m :: ms =>
    R (supervisor x) (supervisor (step m x)) ∧ EachStep supervisor step R (step m x) ms

instance EachStep.decidable [∀ s s', Decidable (R s s')] (x : α) (ms : List μ) :
    Decidable (EachStep supervisor step R x ms) :=
  match ms with
  | [] => inferInstanceAs (Decidable True)
  | m :: ms =>
    have := decidable (step m x) ms
    inferInstanceAs (Decidable (_ ∧ _))

theorem EachStep.staysEnded (hpids : EachStep supervisor step (ExitsAreFinal host) x ms)
    (hlost : EachStep supervisor step (LossesAreFinal host) x ms) :
    EachStep supervisor step (StaysEnded host) x ms := by
  induction ms generalizing x with
  | nil => trivial
  | cons m ms ih => exact ⟨staysEnded_iff.mpr ⟨hpids.1, hlost.1⟩, ih hpids.2 hlost.2⟩

theorem eachStep_append : EachStep supervisor step R x (ms ++ ms') ↔
    EachStep supervisor step R x ms ∧
      EachStep supervisor step R (ms.foldl (fun x m => step m x) x) ms' := by
  induction ms generalizing x with
  | nil => exact ⟨fun h => ⟨trivial, h⟩, And.right⟩
  | cons m ms ih => exact (and_congr_right fun _ => ih).trans and_assoc.symm

/-- What every such step keeps, every such run keeps. -/
theorem EachStep.keeps {P : α → Prop} (hrun : EachStep supervisor step R x ms)
    (hstep : ∀ x m, P x → R (supervisor x) (supervisor (step m x)) → P (step m x)) (h : P x) :
    P (ms.foldl (fun x m => step m x) x) := by
  induction ms generalizing x with
  | nil => exact h
  | cons m ms ih => exact ih hrun.2 (hstep x m h hrun.1)

end Runs

end Supervisor

/-- A host that can tell how every child stands loses none. -/
theorem Host.TellsChildren.eachStep {σ α μ : Type} {host : Host σ} {supervisor : α → Supervisor σ}
    {step : μ → α → α} {x : α} {ms : List μ} (h : host.TellsChildren) :
    Supervisor.EachStep supervisor step (Supervisor.LossesAreFinal host) x ms := by
  induction ms generalizing x with
  | nil => trivial
  | cons m ms ih => exact ⟨fun _ _ ⟨reason, hlost⟩ => absurd hlost (h _ _ _ reason), ih⟩

end Launchpad
