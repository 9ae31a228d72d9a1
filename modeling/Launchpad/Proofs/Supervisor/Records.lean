import Launchpad.Proofs.Supervisor.Waits
import Mathlib.Data.List.Forall2

/-!
# What becomes of the records

What the supervisor tells of its processes is what its records say. Of a single record, everything
but a launch and the end of a termination keeps two things: it stays the record of its process, and
once it is not live it never changes (`Retains`). Two kinds of operations do more or less than that:

* `Touches`: only the record of one component may have changed, as in the wait for it.
* `Fades`: no record has taken on another live status. Looking at the processes and letting time
  pass do no more.

The statuses that are listed then follow the records (`Retains.statuses`).
-/

namespace Launchpad

namespace Record

/-- A record that is live after a look is as it was before. -/
theorem observe_of_isLive {state : ChildState} {r : Record}
    (h : (r.observe state).2.status.isLive = true) : (r.observe state).2 = r := by
  cases hl : r.status.isLive with
  | false => exact observe_of_not_live hl state
  | true =>
    unfold observe at h ⊢
    rw [if_pos hl] at h ⊢
    cases state with
    | running => rfl
    | exited => exact absurd h Bool.false_ne_true
    | unknown => exact absurd h Bool.false_ne_true

end Record

namespace Supervisor

variable {σ : Type} {host : Host σ} {s s' s'' : Supervisor σ} {h : Handle} {c d : Component}
  {status : ProcessStatus}

/-- The record of a component says that its process is not alive. -/
def Gone (s : Supervisor σ) (c : Component) : Prop :=
  ∃ r, s.record? c = some r ∧ r.status.isLive = false

/-- If the record of a component is live, it has this status. -/
def Shows (s : Supervisor σ) (c : Component) (status : ProcessStatus) : Prop :=
  ∀ r, s.record? c = some r → r.status.isLive = true → r.status = status

theorem shows_of_none (hnone : s.record? c = none) : s.Shows c status := by
  intro r hr
  cases hnone.symm.trans hr

theorem Shows.of_record? (hs : s.Shows c status) (heq : s'.record? c = s.record? c) :
    s'.Shows c status := by
  intro r hr
  exact hs r (heq.symm.trans hr)

/-! ## Operations that keep the records -/

/-- Every record stays that of its process, and what is not live stays as it is. -/
structure Retains (s s' : Supervisor σ) : Prop where
  pids : ∀ c, (s'.record? c).map Record.pid = (s.record? c).map Record.pid
  final : ∀ c r, s.record? c = some r → r.status.isLive = false → s'.record? c = some r

theorem Retains.refl (s : Supervisor σ) : Retains s s := ⟨fun _ => rfl, fun _ _ hr _ => hr⟩

theorem Retains.trans (h₁ : Retains s s') (h₂ : Retains s' s'') : Retains s s'' where
  pids c := (h₂.pids c).trans (h₁.pids c)
  final c r hr hl := h₂.final c r (h₁.final c r hr hl) hl

theorem Retains.record? (hr : Retains s s') {r : Record} (h : s.record? c = some r) :
    ∃ r', s'.record? c = some r' ∧ r'.pid = r.pid := by
  have hpid : (s'.record? c).map Record.pid = some r.pid := by
    rw [hr.pids c, h]
    rfl
  exact Option.map_eq_some_iff.mp hpid

theorem Retains.isSome (hr : Retains s s') (c : Component) :
    (s'.record? c).isSome = (s.record? c).isSome := by
  rw [← Option.isSome_map, hr.pids c, Option.isSome_map]

theorem Retains.tracked (hr : Retains s s') (ht : s.Tracked h) : s'.Tracked h := by
  obtain ⟨r, hrec, hp⟩ := ht
  obtain ⟨r', hrec', hp'⟩ := hr.record? hrec
  exact ⟨r', hrec', hp'.trans hp⟩

theorem Retains.gone (hr : Retains s s') (hg : s.Gone c) : s'.Gone c := by
  obtain ⟨r, hrec, hl⟩ := hg
  exact ⟨r, hr.final c r hrec hl, hl⟩

/-- Only the record of one component may have changed. -/
structure Touches (c : Component) (s s' : Supervisor σ) : Prop extends Retains s s' where
  others : ∀ d, d ≠ c → s'.record? d = s.record? d

theorem Touches.refl (c : Component) (s : Supervisor σ) : Touches c s s :=
  ⟨.refl s, fun _ _ => rfl⟩

theorem Touches.trans (h₁ : Touches c s s') (h₂ : Touches c s' s'') : Touches c s s'' :=
  ⟨h₁.toRetains.trans h₂.toRetains, fun d hd => (h₂.others d hd).trans (h₁.others d hd)⟩

/-- Every live record has the status that it had. -/
structure Fades (s s' : Supervisor σ) : Prop extends Retains s s' where
  shows : ∀ c status, s.Shows c status → s'.Shows c status

theorem Fades.refl (s : Supervisor σ) : Fades s s := ⟨.refl s, fun _ _ => id⟩

theorem Fades.trans (h₁ : Fades s s') (h₂ : Fades s' s'') : Fades s s'' :=
  ⟨h₁.toRetains.trans h₂.toRetains, fun c status => h₂.shows c status ∘ h₁.shows c status⟩

theorem touches_of_table (c : Component) (ht : s'.table = s.table) : Touches c s s' := by
  have hrec : ∀ c, s'.record? c = s.record? c := fun c => congrArg (·.get c) ht
  exact ⟨⟨fun c => by rw [hrec], fun c r hr _ => (hrec c).trans hr⟩, fun d _ => hrec d⟩

theorem fades_of_table (ht : s'.table = s.table) : Fades s s' := by
  refine ⟨(touches_of_table .mainRuntime ht).toRetains, fun c status hs => ?_⟩
  exact hs.of_record? (congrArg (·.get c) ht)

theorem touches_putRecord {r r' : Record} (hr : s.record? c = some r) (hp : r'.pid = r.pid)
    (hl : r.status.isLive = false → r' = r) : Touches c s (s.putRecord c (some r')) := by
  refine ⟨⟨fun d => ?_, fun d q hq hgone => ?_⟩, fun d hd => ?_⟩
  · rw [record?_putRecord]
    split
    · next hd => rw [hd, hr, Option.map_some, Option.map_some, hp]
    · rfl
  · rw [record?_putRecord]
    split
    · next hd =>
      rw [hd, hr] at hq
      cases Option.some.inj hq
      rw [hl hgone]
    · exact hq
  · rw [record?_putRecord, if_neg hd]

/-! ## Single operations -/

theorem touches_observe (host : Host σ) (c : Component) (s : Supervisor σ) :
    Touches c s (s.observe host c).2 := by
  unfold observe
  split
  · exact .refl c s
  · next r hr =>
    exact touches_putRecord hr (Record.observe_pid _ r) fun hl => Record.observe_of_not_live hl _

/-- A look at a process leaves its record as it is, or finds the process gone. -/
theorem shows_observe (host : Host σ) (s : Supervisor σ) (hs : s.Shows d status) :
    (s.observe host c).2.Shows d status := by
  unfold observe
  split
  · exact hs
  · next r hr =>
    intro q hq hlive
    rw [record?_putRecord] at hq
    split at hq
    · next hd =>
      cases Option.some.inj hq
      rw [Record.observe_of_isLive hlive]
      rw [Record.observe_of_isLive hlive] at hlive
      exact hs r (hd ▸ hr) hlive
    · exact hs q hq hlive

theorem fades_observe (host : Host σ) (c : Component) (s : Supervisor σ) :
    Fades s (s.observe host c).2 :=
  ⟨(touches_observe host c s).toRetains, fun _ _ => shows_observe host s⟩

/-- Looking at all processes. -/
theorem fades_refresh (host : Host σ) (s : Supervisor σ) : Fades s (s.refresh host).2 := by
  have h (cs : List Component) : ∀ s, Fades s (cs.foldl (fun s c => (s.observe host c).2) s) := by
    induction cs with
    | nil => exact .refl
    | cons c cs ih => exact fun s => (fades_observe host c s).trans (ih _)
  exact h _ s

theorem touches_observeTracked (host : Host σ) (h : Handle) (s : Supervisor σ) :
    Touches h.component s (s.observeTracked host h).2 := by
  unfold observeTracked
  split
  · exact .refl _ s
  · exact touches_observe host h.component s

theorem touches_setStatus (h : Handle) (status : ProcessStatus) (s : Supervisor σ) :
    Touches h.component s (s.setStatus h status) := by
  unfold setStatus
  split
  · next r hr =>
    split
    · next hlive =>
      refine touches_putRecord (tracked?_eq_some.mp hr).1 rfl fun hgone => ?_
      exact absurd (hlive.symm.trans hgone) Bool.noConfusion
    · exact .refl _ s
  · exact .refl _ s

/-- The record of a process that is tracked takes on the status that is set, if it is live. -/
theorem shows_setStatus (ht : s.Tracked h) (status : ProcessStatus) :
    (s.setStatus h status).Shows h.component status := by
  obtain ⟨r, hr, hp⟩ := ht
  unfold setStatus
  rw [tracked?_eq_some.mpr ⟨hr, hp⟩]
  dsimp only
  split
  · intro q hq _
    rw [record?_putRecord, if_pos rfl] at hq
    cases Option.some.inj hq
    rfl
  · next hgone =>
    intro q hq hlive
    cases Option.some.inj (hr.symm.trans hq)
    exact absurd hlive hgone

theorem record?_markRunning (s : Supervisor σ) (c : Component) :
    s.markRunning.record? c = (s.record? c).map fun r =>
      if r.status = .ready then { r with status := .running } else r :=
  PerComponent.get_map _ s.table c

theorem retains_markRunning (s : Supervisor σ) : Retains s s.markRunning := by
  refine ⟨fun c => ?_, fun c r hr hgone => ?_⟩
  · rw [record?_markRunning, Option.map_map]
    congr 1
    funext r
    dsimp only [Function.comp_apply]
    split <;> rfl
  · have hready : r.status ≠ .ready := by
      intro hready
      rw [hready] at hgone
      cases hgone
    rw [record?_markRunning, hr, Option.map_some, if_neg hready]

/-- Whatever is ready runs from then on. -/
theorem shows_markRunning (hs : s.Shows c .ready) : s.markRunning.Shows c .running := by
  intro q hq hlive
  rw [record?_markRunning] at hq
  obtain ⟨r, hr, rfl⟩ := Option.map_eq_some_iff.mp hq
  split
  · rfl
  · next hready =>
    rw [if_neg hready] at hlive
    exact absurd (hs r hr hlive) hready

/-! ## Launching -/

theorem record?_startProcess (host : Host σ) {c d : Component} (command : Command)
    (s : Supervisor σ) (hd : d ≠ c) :
    (s.startProcess host c command).2.record? d = s.record? d := by
  unfold startProcess
  split
  · rfl
  · exact (record?_putRecord ..).trans (if_neg hd)

/-- A launch leaves the records of the other components alone. -/
theorem record?_launch (host : Host σ) {c d : Component} (command : Command) (s : Supervisor σ)
    (hd : d ≠ c) : (s.launch host c command).2.record? d = s.record? d := by
  unfold launch
  dsimp only
  split
  · rfl
  · split
    · rfl
    · split
      · exact record?_startProcess host command _ hd
      · have hobs := (touches_observe host c (s.note (.prepare command))).others d hd
        split
        · exact hobs
        · exact (record?_startProcess host command _ hd).trans hobs

end Supervisor

/-! ## What is listed -/

/-- A component as its record lists it. -/
def Record.listed (c : Component) (r : Record) : ComponentStatus :=
  { component := c, pid := r.pid, status := r.status, startedAt := r.startedAt.timestamp }

namespace ComponentStatus

/-- The components that are listed as not alive. -/
def gone (ks : List ComponentStatus) : List Component :=
  (ks.filter fun k => !k.status.isLive).map (·.component)

theorem mem_gone {ks : List ComponentStatus} {c : Component} :
    c ∈ gone ks ↔ ∃ k ∈ ks, k.status.isLive = false ∧ k.component = c := by
  simp [gone, and_assoc]

theorem gone_eq_nil {ks : List ComponentStatus} :
    gone ks = [] ↔ ∀ k ∈ ks, k.status.isLive = true := by
  simp [gone]

/-- The same process at a later moment: what is not alive does not change. -/
structure Persists (k k' : ComponentStatus) : Prop where
  component : k'.component = k.component
  pid : k'.pid = k.pid
  final : k.status.isLive = false → k' = k

section

variable {ks ks' : List ComponentStatus}

theorem processes_eq (h : List.Forall₂ Persists ks ks') :
    ks'.map (fun k => (k.component, k.pid)) = ks.map fun k => (k.component, k.pid) := by
  induction h with
  | nil => rfl
  | cons hk _ ih => rw [List.map_cons, List.map_cons, ih, hk.component, hk.pid]

theorem mem_of_gone (h : List.Forall₂ Persists ks ks') :
    ∀ k ∈ ks, k.status.isLive = false → k ∈ ks' := by
  induction h with
  | nil => exact List.forall_mem_nil _
  | cons hk _ ih =>
    intro k hmem hl
    rcases List.mem_cons.mp hmem with rfl | hmem
    · rw [hk.final hl]
      exact List.mem_cons_self
    · exact List.mem_cons_of_mem _ (ih k hmem hl)

/-- More is gone later, and it is listed in the same order. -/
theorem sublist_gone (h : List.Forall₂ Persists ks ks') :
    (gone ks).Sublist (gone ks') := by
  induction h with
  | nil => exact .refl _
  | @cons k k' ks ks' hk _ ih =>
    cases hl : k.status.isLive with
    | false =>
      rw [hk.final hl]
      simpa [gone, hl] using ih
    | true =>
      have hskip : gone (k :: ks) = gone ks := by simp [gone, hl]
      rw [hskip]
      refine ih.trans ?_
      unfold gone
      exact ((List.sublist_cons_self k' ks').filter _).map _

end

end ComponentStatus

namespace Supervisor

variable {σ : Type} {s s' : Supervisor σ}

theorem mem_statuses {k : ComponentStatus} :
    k ∈ s.statuses ↔ ∃ r, s.record? k.component = some r ∧ k = r.listed k.component := by
  unfold statuses
  rw [List.mem_filterMap]
  constructor
  · rintro ⟨c, -, hc⟩
    obtain ⟨r, hr, rfl⟩ := Option.map_eq_some_iff.mp hc
    exact ⟨r, hr, rfl⟩
  · rintro ⟨r, hr, hk⟩
    exact ⟨k.component, Component.mem_launchOrder _, by rw [hr, hk]; rfl⟩

theorem mem_gone_statuses {c : Component} : c ∈ ComponentStatus.gone s.statuses ↔ s.Gone c := by
  rw [ComponentStatus.mem_gone]
  constructor
  · rintro ⟨k, hk, hl, rfl⟩
    obtain ⟨r, hr, heq⟩ := mem_statuses.mp hk
    exact ⟨r, hr, by rwa [heq] at hl⟩
  · rintro ⟨r, hr, hl⟩
    exact ⟨r.listed c, mem_statuses.mpr ⟨r, hr, rfl⟩, hl, rfl⟩

/-- The components of the records are listed in launch order. -/
theorem component_statuses (s : Supervisor σ) :
    s.statuses.map (·.component) = Component.launchOrder.filter fun c => (s.record? c).isSome := by
  unfold statuses
  rw [List.map_filterMap, ← List.filterMap_eq_filter]
  congr 1
  funext c
  cases hr : s.record? c <;> simp [hr, Option.guard]

theorem Retains.listed (h : Retains s s') (c : Component) :
    Option.Rel ComponentStatus.Persists ((s.record? c).map (Record.listed c))
      ((s'.record? c).map (Record.listed c)) := by
  cases hr : s.record? c with
  | none =>
    have hnone : s'.record? c = none := by simpa [hr] using h.isSome c
    rw [hnone]
    exact .none
  | some r =>
    obtain ⟨r', hr', hp⟩ := h.record? hr
    rw [hr']
    refine .some ⟨rfl, hp, fun hl => ?_⟩
    cases Option.some.inj (hr'.symm.trans (h.final c r hr hl))
    rfl

theorem Retains.statuses (h : Retains s s') :
    List.Forall₂ ComponentStatus.Persists s.statuses s'.statuses := by
  refine List.rel_filterMap ?_ (List.forall₂_same.mpr fun c _ => rfl)
  rintro c _ rfl
  exact h.listed c

end Supervisor

/-! ## Waiting for a component -/

namespace ReadinessWait

variable {σ : Type} {w : ReadinessWait σ} {s s' : Supervisor σ}

open Supervisor

/-- What a step of a wait makes of the records: that of its component may change, and is ready or
gone when the wait has found it ready. -/
structure Settles (w : ReadinessWait σ) (s : Supervisor σ) (x : Step σ) : Prop where
  touches : Touches w.handle.component s x.2
  ready : x.1 = .done (.ok ()) → s.Tracked w.handle → x.2.Shows w.handle.component .ready

/-- A wait that goes on without touching more. -/
theorem Settles.again {x : Step σ} (ht : Touches w.handle.component s x.2)
    (hx : x.1 ≠ .done (.ok ())) : w.Settles s x :=
  ⟨ht, fun h => absurd h hx⟩

theorem Settles.after {x : Step σ} (ht : Touches w.handle.component s s') (h : w.Settles s' x) :
    w.Settles s x :=
  ⟨ht.trans h.touches, fun hx hw => h.ready hx (ht.tracked hw)⟩

theorem settles_conclude (w : ReadinessWait σ) (ready : Bool) (s : Supervisor σ) :
    w.Settles s (w.conclude host ready s) := by
  unfold conclude
  split
  · exact ⟨touches_setStatus w.handle .ready s, fun _ hw => shows_setStatus hw .ready⟩
  · split <;> exact .again (.refl _ s) nofun

theorem settles_askProbe (w : ReadinessWait σ) (s : Supervisor σ) :
    w.Settles s (w.askProbe host s) := by
  have ht : Touches w.handle.component s { s with world := (w.probe.ask s.now s.world).2 } :=
    touches_of_table _ rfl
  unfold askProbe
  dsimp only
  split
  · exact (settles_conclude w _ _).after ht
  · exact .again ht nofun

theorem settles_attempt (host : Host σ) (w : ReadinessWait σ) (s : Supervisor σ) :
    w.Settles s (w.attempt host s) := by
  have ht := touches_observeTracked host w.handle s
  unfold attempt
  dsimp only
  split
  · split
    · exact (settles_askProbe w _).after ht
    · exact .again ht nofun
  · exact (settles_askProbe w _).after ht

theorem settles_checkDeadline (w : ReadinessWait σ) (s : Supervisor σ) :
    w.Settles s (w.checkDeadline s) := by
  unfold checkDeadline
  split <;> exact .again (.refl _ s) nofun

theorem settles_step (host : Host σ) (cancelled : Bool) (w : ReadinessWait σ) (s : Supervisor σ) :
    w.Settles s (w.step host cancelled s) := by
  unfold step
  split
  · exact .again (.refl _ s) nofun
  · split
    · exact settles_attempt host w s
    · split
      · exact settles_conclude w _ s
      · exact settles_checkDeadline w s
    · split
      · exact settles_attempt host w s
      · exact settles_checkDeadline w s

end ReadinessWait

end Launchpad
