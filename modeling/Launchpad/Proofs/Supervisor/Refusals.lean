import Launchpad.Proofs.Scripted.Host
import Launchpad.Proofs.Supervisor.Records
import Launchpad.Supervisor.Launch

/-!
# What keeps a component from being launched

Four things can be in the way of a launch: the host refuses the command, the supervisor is closed, a
process of the component still runs, or the process does not start. `objections` lists them in this
order for any state of the supervisor. A launch fails with the first of them, and then nothing is
started and every record stays that of its process; without any the launch starts one process and
gives the component its record (`launch_starts_unless_refused`).

Whether a process runs is asked of the host. What its record says does not count, so that a process
that could not be ended keeps its place as well as one that is ready. The look is all that a failed
launch leaves in the records. It makes a live record that of an exited process, provided that the
host can tell how the process stands, as it can of every child that has not been waited for
(`Tells`, `Record.Found`). Were it unable to, the record would be that of a failure (`Record.Seen`).
-/

namespace Launchpad

def causes {ε α : Type} : Except ε α → List ε
  | .error e => [e]
  | .ok _ => []

theorem causes_eq_nil {ε α : Type} {r : Except ε α} : causes r = [] ↔ ∃ a, r = .ok a := by
  cases r <;> simp [causes]

namespace Record

/-- What a look makes of a record, by how its process stands: it stays as it is, unless it is live
and the process is not found to run. -/
inductive Seen (state : ChildState) : Record → Record → Prop
  | stays (r : Record) : Seen state r r
  | exited {r : Record} {code : Option Int32} (hlive : r.status.isLive = true)
      (hstate : state = .exited code) : Seen state r { r with status := .exited code }
  /-- The host cannot tell how the process stands. -/
  | lost {r : Record} {reason : String} (hlive : r.status.isLive = true)
      (hstate : state = .unknown reason) :
      Seen state r { r with status := .failed ("status query failed: " ++ reason) }

/-- What a look makes of a record if how the process stands can be told: a live record may become
that of an exited process. -/
inductive Found (state : ChildState) : Record → Record → Prop
  | stays (r : Record) : Found state r r
  | exited {r : Record} {code : Option Int32} (hlive : r.status.isLive = true)
      (hstate : state = .exited code) : Found state r { r with status := .exited code }

theorem Seen.found {state : ChildState} {r r' : Record} (h : r.Seen state r')
    (hstate : ∀ reason, state ≠ .unknown reason) : r.Found state r' := by
  cases h with
  | stays => exact .stays r
  | exited hlive hexited => exact .exited hlive hexited
  | lost _ hlost => exact absurd hlost (hstate _)

theorem seen_observe (state : ChildState) (r : Record) : Seen state r (r.observe state).2 := by
  unfold observe
  split
  · next hlive =>
    cases state with
    | running => exact .stays r
    | exited code => exact .exited hlive rfl
    | unknown reason => exact .lost hlive rfl
  · exact .stays r

end Record

namespace Supervisor

variable {σ : Type} {host : Host σ} {s s' s'' : Supervisor σ} {c d : Component} {command : Command}
  {e : Error} {p : Pid}

/-- What is in the way of a launch, in the order in which it is noticed. -/
def objections (host : Host σ) (c : Component) (command : Command) (s : Supervisor σ) :
    List Error :=
  causes (host.prepare (.component c) command s.world) ++
    (if s.closed then [.cancelled] else []) ++
    ((s.record? c).filter fun r => Runs host ⟨c, r.pid⟩ s).toList.map
      (fun r => .alreadyRunning c r.pid) ++
    (causes (host.spawn s.now c command s.world).1).map (.launch c command.program)

/-- Neither the host nor the supervisor refuses to launch a component, and its process starts. -/
structure Admits (host : Host σ) (c : Component) (command : Command) (s : Supervisor σ) :
    Prop where
  prepared : host.prepare (.component c) command s.world = .ok ()
  accepts : s.closed = false
  spawns : ∃ p, (host.spawn s.now c command s.world).1 = .ok p

theorem objections_eq_nil_iff : objections host c command s = [] ↔
    Admits host c command s ∧ ∀ r, s.record? c = some r → ¬ Runs host ⟨c, r.pid⟩ s := by
  have hadmits : Admits host c command s ↔
      (∃ u, host.prepare (.component c) command s.world = .ok u) ∧ s.closed = false ∧
        ∃ p, (host.spawn s.now c command s.world).1 = .ok p :=
    ⟨fun h => ⟨⟨(), h.prepared⟩, h.accepts, h.spawns⟩,
      fun ⟨⟨_, hprepared⟩, hopen, hspawns⟩ => ⟨hprepared, hopen, hspawns⟩⟩
  rw [hadmits]
  simp only [objections, List.append_eq_nil_iff, causes_eq_nil, List.map_eq_nil_iff,
    Option.toList_eq_nil_iff, Option.filter_eq_none_iff, decide_eq_true_iff]
  constructor
  · rintro ⟨⟨⟨hprepared, hopen⟩, hfree⟩, hspawns⟩
    exact ⟨⟨hprepared, by simpa using hopen, hspawns⟩, hfree⟩
  · rintro ⟨⟨hprepared, hopen, hspawns⟩, hfree⟩
    exact ⟨⟨⟨hprepared, by simp [hopen]⟩, hfree⟩, hspawns⟩

/-! ## What a launch leaves -/

/-- What a launch that fails leaves: nothing has been started, and every record is that of the same
process. The machine is as it was, unless it has failed to start a process. -/
structure Declines (host : Host σ) (c : Component) (command : Command) (s s' : Supervisor σ) :
    Prop extends Touches c s s' where
  roots : s'.roots = s.roots
  closed : s'.closed = s.closed
  world : s'.world = s.world ∨
    ∃ cause, host.spawn s.now c command s.world = (.error cause, s'.world)
  seen : Option.Rel (fun r r' => r.Seen (host.childState s.now r.pid s.world) r')
    (s.record? c) (s'.record? c)

/-- The host can tell how the tracked process of a component stands. -/
def Tells (host : Host σ) (c : Component) (s : Supervisor σ) : Prop :=
  ∀ r, s.record? c = some r → ¬ IsLost host ⟨c, r.pid⟩ s

/-- What a launch that fails leaves if it can be told how the tracked process stands: besides, at
most a live record has become that of an exited process. -/
structure Refuses (host : Host σ) (c : Component) (command : Command) (s s' : Supervisor σ) :
    Prop extends Declines host c command s s' where
  found : Option.Rel (fun r r' => r.Found (host.childState s.now r.pid s.world) r')
    (s.record? c) (s'.record? c)

theorem Declines.refuses (hd : Declines host c command s s') (htells : Tells host c s) :
    Refuses host c command s s' := by
  refine ⟨hd, ?_⟩
  have hseen := hd.seen
  generalize hr : s.record? c = before, s'.record? c = after at hseen ⊢
  cases hseen with
  | none => exact .none
  | some h => exact .some (h.found fun reason hlost => htells _ hr ⟨reason, hlost⟩)

/-- What a launch that succeeds leaves: one process has been started, and its component has a new
record. -/
structure Starts (host : Host σ) (c : Component) (command : Command) (p : Pid)
    (s s' : Supervisor σ) : Prop where
  roots : s'.roots = ⟨c, p⟩ :: s.roots
  closed : s'.closed = s.closed
  spawned : host.spawn s.now c command s.world = (.ok p, s'.world)
  record : s'.record? c = some { pid := p, status := .starting, startedAt := s.now }
  others : ∀ d, d ≠ c → s'.record? d = s.record? d

/-- The supervisor when it has been found out whether the component is free. -/
def looked (host : Host σ) (c : Component) (command : Command) (s : Supervisor σ) : Supervisor σ :=
  ((s.note (.prepare command)).observe host c).2

theorem roots_observe (host : Host σ) (c : Component) (s : Supervisor σ) :
    (s.observe host c).2.roots = s.roots := (steady_observe host c s).roots

theorem seen_observe (host : Host σ) (c : Component) (s : Supervisor σ) :
    Option.Rel (fun r r' => r.Seen (host.childState s.now r.pid s.world) r')
      (s.record? c) ((s.observe host c).2.record? c) := by
  unfold observe
  split
  · next hr =>
    rw [hr]
    exact .none
  · next r hr =>
    rw [record?_putRecord, if_pos rfl, hr]
    exact .some (Record.seen_observe _ r)

theorem declines_note (host : Host σ) (c : Component) (command : Command) (s : Supervisor σ) :
    Declines host c command s (s.note (.prepare command)) where
  toTouches := touches_of_table c rfl
  roots := roots_note s _
  closed := rfl
  world := .inl rfl
  seen := by
    change Option.Rel _ (s.record? c) (s.record? c)
    cases s.record? c with
    | none => exact .none
    | some r => exact .some (.stays r)

theorem declines_looked (host : Host σ) (c : Component) (command : Command) (s : Supervisor σ) :
    Declines host c command s (looked host c command s) where
  toTouches :=
    have hnote : Touches c s (s.note (.prepare command)) := touches_of_table c rfl
    hnote.trans (touches_observe host c _)
  roots := (roots_observe host c _).trans (roots_note s _)
  closed := (observe_world host c _).2.2
  world := .inl (observe_world host c _).1
  seen := seen_observe host c (s.note (.prepare command))

theorem looked_machine (host : Host σ) (c : Component) (command : Command) (s : Supervisor σ) :
    (looked host c command s).world = s.world ∧ (looked host c command s).now = s.now :=
  ⟨(observe_world host c _).1, (observe_world host c _).2.1⟩

/-! ## The four checks -/

/-- A launch is a series of checks. Only the third one looks at a process. -/
theorem launch_eq (host : Host σ) (c : Component) (command : Command) (s : Supervisor σ) :
    s.launch host c command =
      match host.prepare (.component c) command s.world with
      | .error e => (.error e, s.note (.prepare command))
      | .ok () =>
        if s.closed then (.error .cancelled, s.note (.prepare command))
        else match (s.record? c).filter fun r => Runs host ⟨c, r.pid⟩ s with
          | some r => (.error (.alreadyRunning c r.pid), looked host c command s)
          | none => (looked host c command s).startProcess host c command := by
  unfold launch looked
  dsimp only
  -- Neither the host nor the records know of the note that is taken first.
  change (match host.prepare (.component c) command s.world with | .error e => _ | .ok () => _) = _
  cases host.prepare (.component c) command s.world with
  | error e => rfl
  | ok u =>
    change (if s.closed then _ else _) = ite ..
    congr 1
    cases hr : s.record? c with
    | none =>
      have hnone : (s.note (.prepare command)).record? c = none := hr
      simp only [hnone, observe, Option.filter_none]
    | some r =>
      have hsome : (s.note (.prepare command)).record? c = some r := hr
      have hruns : Runs host ⟨c, r.pid⟩ s ↔
          ((s.note (.prepare command)).observe host c).1 = true := by
        rw [observe_alive hsome, beq_iff_eq]
        exact Iff.rfl
      rw [hsome, Option.filter_some]
      by_cases h : Runs host ⟨c, r.pid⟩ s
      · simp [h, hruns.mp h]
      · simp [h, mt hruns.mpr h]

theorem Declines.startProcess {cause : SystemError} (hd : Declines host c command s s')
    (hworld : s'.world = s.world) (hnow : s'.now = s.now)
    (hspawn : (host.spawn s.now c command s.world).1 = .error cause) :
    ∃ s'', s'.startProcess host c command = (.error (.launch c command.program cause), s'') ∧
      Declines host c command s s'' := by
  have hpair : host.spawn s.now c command s.world =
      (.error cause, (host.spawn s.now c command s.world).2) := Prod.ext hspawn rfl
  unfold Supervisor.startProcess
  rw [hworld, hnow, hpair]
  exact ⟨_, rfl, ⟨hd.toTouches.trans (touches_of_table c rfl), hd.roots, hd.closed,
    .inr ⟨cause, hpair⟩, hd.seen⟩⟩

theorem Declines.starts (hd : Declines host c command s s') (hworld : s'.world = s.world)
    (hnow : s'.now = s.now) (hspawn : (host.spawn s.now c command s.world).1 = .ok p) :
    ∃ s'', s'.startProcess host c command = (.ok ⟨c, p⟩, s'') ∧ Starts host c command p s s'' := by
  have hpair : host.spawn s.now c command s.world =
      (.ok p, (host.spawn s.now c command s.world).2) := Prod.ext hspawn rfl
  unfold Supervisor.startProcess
  rw [hworld, hnow, hpair]
  refine ⟨_, rfl, ⟨?_, hd.closed, hpair, ?_, fun d hne => ?_⟩⟩
  · rw [roots_putRecord, roots_note]
    exact congrArg (_ :: ·) hd.roots
  · rw [record?_putRecord, if_pos rfl]
    rfl
  · rw [record?_putRecord, if_neg hne]
    exact hd.others d hne

theorem launch_of_objection {es : List Error} (h : objections host c command s = e :: es) :
    ∃ s', s.launch host c command = (.error e, s') ∧ Declines host c command s s' := by
  unfold objections at h
  rw [launch_eq]
  -- The first check that objects decides, so the cases come in the order of the checks.
  cases hprepare : host.prepare (.component c) command s.world with
  | error e' =>
    obtain rfl : e' = e := by simpa [hprepare, causes] using congrArg List.head? h
    exact ⟨_, rfl, declines_note host c command s⟩
  | ok u =>
    cases hclosed : s.closed with
    | true =>
      obtain rfl : .cancelled = e := by
        simpa [hprepare, hclosed, causes] using congrArg List.head? h
      exact ⟨_, rfl, declines_note host c command s⟩
    | false =>
      cases hfree : (s.record? c).filter fun r => Runs host ⟨c, r.pid⟩ s with
      | some r =>
        obtain rfl : .alreadyRunning c r.pid = e := by
          simpa [hprepare, hclosed, hfree, causes] using congrArg List.head? h
        exact ⟨_, rfl, declines_looked host c command s⟩
      | none =>
        cases hspawn : (host.spawn s.now c command s.world).1 with
        | ok p => simp [hprepare, hclosed, hfree, hspawn, causes] at h
        | error cause =>
          obtain rfl : .launch c command.program cause = e := by
            simpa [hprepare, hclosed, hfree, hspawn, causes] using congrArg List.head? h
          obtain ⟨hworld, hnow⟩ := looked_machine host c command s
          exact (declines_looked host c command s).startProcess hworld hnow hspawn

theorem launch_of_no_objection (h : objections host c command s = []) :
    ∃ p s', s.launch host c command = (.ok ⟨c, p⟩, s') ∧ Starts host c command p s s' := by
  obtain ⟨⟨hprepare, haccepts, p, hspawn⟩, hfree⟩ := objections_eq_nil_iff.mp h
  have hnone : ((s.record? c).filter fun r => Runs host ⟨c, r.pid⟩ s) = none :=
    Option.filter_eq_none_iff.mpr fun r hr => by simpa using hfree r hr
  obtain ⟨hworld, hnow⟩ := looked_machine host c command s
  obtain ⟨s', hstart, hs'⟩ := (declines_looked host c command s).starts hworld hnow hspawn
  rw [launch_eq, hprepare, haccepts, hnone]
  exact ⟨p, s', hstart, hs'⟩

/-- A launch succeeds if and only if nothing is in its way. -/
theorem launch_ok_iff :
    (∃ h, (s.launch host c command).1 = .ok h) ↔ objections host c command s = [] := by
  cases hobjections : objections host c command s with
  | nil =>
    obtain ⟨p, s', heq, -⟩ := launch_of_no_objection hobjections
    exact iff_of_true ⟨_, congrArg Prod.fst heq⟩ rfl
  | cons e es =>
    obtain ⟨s', heq, -⟩ := launch_of_objection hobjections
    refine iff_of_false ?_ (List.cons_ne_nil e es)
    rintro ⟨h, hok⟩
    cases (congrArg Prod.fst heq).symm.trans hok

theorem launch_starts_iff :
    (∃ p s', s.launch host c command = (.ok ⟨c, p⟩, s') ∧ Starts host c command p s s') ↔
      objections host c command s = [] :=
  ⟨fun ⟨p, _, heq, _⟩ => launch_ok_iff.mp ⟨⟨c, p⟩, congrArg Prod.fst heq⟩, launch_of_no_objection⟩

section Example

open Scripted

end Example

end Supervisor

end Launchpad
