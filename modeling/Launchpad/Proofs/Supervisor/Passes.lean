import Launchpad.Proofs.Supervisor.Polls

/-!
# A termination from its beginning to its end

A termination that nothing else comes between goes through two passes. The members are found at its
beginning: those of the group that are not in the tree, then the tree, the root last (`membersOf`).
Each of them is asked to end, once and in this order; those that live at the last look of the grace
period are killed in the same way, once it is over.

`Underway` holds after every step of it, whatever the host answers and whenever processes end: it
says what has been asked of the host so far, and that somebody lived at every look. `TwoPasses` says
what this comes to in the end.
-/

namespace Launchpad

/-- What is asked for by requests that are noted latest first, in the order of asking. -/
def calls (events : List Event) : List HostCall := (events.map (·.call)).reverse

namespace Termination

open Supervisor ExitWait

variable {σ : Type} {host : Host σ} {s₀ s s' : Supervisor σ} {t t' : Termination} {h : Handle}
  {config : TerminationConfig} {graceful forced : List (Supervisor σ)} {x : Step σ}

/-! ## The members -/

/-- The tree of a process while it runs, nothing once it has exited. -/
def treeNow (host : Host σ) (h : Handle) (s : Supervisor σ) : List Pid :=
  if Runs host h s then treeOf host h s else []

/-- The members of the group of a process that are not in its tree, then the tree. -/
def membersOf (host : Host σ) (h : Handle) (s : Supervisor σ) : List Pid :=
  ((groupOf host h s).filter fun p => !(treeNow host h s).contains p) ++ treeNow host h s

/-- How they are found. -/
def enumeration (host : Host σ) (h : Handle) (s : Supervisor σ) : List HostCall :=
  (if Runs host h s then [.processTree h.pid] else []) ++ [.processGroup h.pid]

theorem targets_eq (host : Host σ) (h : Handle) (s : Supervisor σ) :
    targets host h s = membersOf host h s := by
  have hobs := still_observeTracked host h s
  have htree := still_treeMembers host h (decide (Runs host h s)) (s.observeTracked host h).2
  unfold targets members membersOf treeNow
  dsimp only
  rw [stragglers_eq, groupOf_still (hobs.trans htree), treeMembers_eq, treeOf_still hobs]
  simp only [decide_eq_true_eq]

/-- No member comes twice if neither the group nor the tree names a process twice. -/
theorem nodup_membersOf (hgroup : (groupOf host h s).Nodup) (htree : (treeOf host h s).Nodup) :
    (membersOf host h s).Nodup := by
  have htree : (treeNow host h s).Nodup := by
    unfold treeNow
    split
    · exact htree
    · exact .nil
  refine List.nodup_append.mpr ⟨hgroup.filter _, htree, ?_⟩
  rintro p hp _ hq rfl
  have hnot := (List.mem_filter.mp hp).2
  simp [hq] at hnot

/-- A root that runs is the last member. -/
theorem getLast?_membersOf (hruns : Runs host h s)
    (hroot : ∀ tree, host.processTree s.now h.pid s.world = .ok tree → tree.root = h.pid) :
    (membersOf host h s).getLast? = some h.pid := by
  have htree : (treeOf host h s).getLast? = some h.pid := by
    unfold treeOf
    split
    · next tree heq => rw [ProcessTree.members, List.getLast?_concat, hroot tree heq]
    · rfl
  unfold membersOf treeNow
  rw [if_pos hruns, List.getLast?_append, htree]
  rfl

/-- A root that has exited is a member only if its group names it. -/
theorem not_mem_membersOf (hexited : ¬ Runs host h s) (hgroup : h.pid ∉ groupOf host h s) :
    h.pid ∉ membersOf host h s := by
  unfold membersOf treeNow
  rw [if_neg hexited, List.append_nil, List.mem_filter]
  exact fun hp => hgroup hp.1

/-! ## What has been asked of the host -/

/-- Since `s`, the members have been found, then some have been asked to end and some killed, those
not before the grace period was over that began with the first look. -/
def Requests (host : Host σ) (h : Handle) (config : TerminationConfig) (s : Supervisor σ)
    (graceful : List (Supervisor σ)) (asked killed : List Pid) (s' : Supervisor σ) : Prop :=
  ∃ found asks kills : List Event,
    s'.journal = kills ++ asks ++ found ++ s.journal ∧
    calls found = enumeration host h s ∧ calls asks = asked.map .terminate ∧
    calls kills = killed.map .kill ∧
    ∀ e ∈ kills, ∃ first, graceful.head? = some first ∧ first.now + config.gracePeriod ≤ e.time

namespace Requests

variable {asked killed : List Pid} {p : Pid}

theorem of_journal (h' : Requests host h config s₀ graceful asked killed s)
    (hj : s'.journal = s.journal) : Requests host h config s₀ graceful asked killed s' := by
  unfold Requests
  rw [hj]
  exact h'

theorem ask (h' : Requests host h config s₀ graceful asked [] s) :
    Requests host h config s₀ graceful (asked ++ [p]) [] (ask host p s) := by
  obtain ⟨found, asks, kills, hj, hfound, hasks, hkills, htime⟩ := h'
  have hnil : kills = [] := by simpa [calls] using hkills
  subst hnil
  refine ⟨found, ⟨s.now, .terminate p⟩ :: asks, [], ?_, hfound, ?_, rfl, nofun⟩
  · show _ :: s.journal = _
    rw [hj]
    rfl
  · simpa [calls] using hasks

theorem kill (h' : Requests host h config s₀ graceful asked killed s)
    (hover : ∃ first, graceful.head? = some first ∧ first.now + config.gracePeriod ≤ s.now) :
    Requests host h config s₀ graceful asked (killed ++ [p]) (kill host p s) := by
  obtain ⟨found, asks, kills, hj, hfound, hasks, hkills, htime⟩ := h'
  refine ⟨found, asks, ⟨s.now, .kill p⟩ :: kills, ?_, hfound, hasks, ?_, fun e he => ?_⟩
  · show _ :: s.journal = _
    rw [hj]
    rfl
  · simpa [calls] using hkills
  · rcases List.mem_cons.mp he with rfl | he
    · exact hover
    · exact htime e he

/-- A further look does not count for what has been asked before. -/
theorem look (h' : Requests host h config s₀ graceful asked killed s) (hj : s'.journal = s.journal)
    (looked : Supervisor σ) :
    Requests host h config s₀ (graceful ++ [looked]) asked killed s' := by
  obtain ⟨found, asks, kills, hj', hfound, hasks, hkills, htime⟩ := h'
  refine ⟨found, asks, kills, hj.trans hj', hfound, hasks, hkills, fun e he => ?_⟩
  obtain ⟨first, hfirst, hle⟩ := htime e he
  exact ⟨first, by rw [List.head?_append, hfirst]; rfl, hle⟩

end Requests

/-! ## The looks -/

/-- Those of some processes that live at the last look. -/
def leftAfter (host : Host σ) (h : Handle) (pids : List Pid) (looks : List (Supervisor σ)) :
    List Pid :=
  match looks.getLast? with
  | some s => living host h s pids
  | none => []

@[simp] theorem leftAfter_concat {pids : List Pid} {looks : List (Supervisor σ)} :
    leftAfter host h pids (looks ++ [s]) = living host h s pids := by
  unfold leftAfter
  rw [List.getLast?_concat]

/-- The state of the supervisor, if a step takes a look of the pass in it. -/
def lookNow (pass : Pass) (x : Termination × Supervisor σ) : List (Supervisor σ) :=
  match x.1.lookOf x.2.now with
  | some (p, _) => if p = pass then [x.2] else []
  | none => []

/-- The states in which the looks of a pass are taken. -/
def looks (host : Host σ) (pass : Pass) (t : Termination) (s : Supervisor σ)
    (changes : List (Supervisor σ → Supervisor σ)) : List (Supervisor σ) :=
  (visited (step host) t s changes).flatMap (lookNow pass)

theorem lookNow_of_some {pass : Pass} {wait : ExitWait}
    (hlook : t.lookOf s.now = some (pass, wait)) (other : Pass) :
    lookNow other (t, s) = if pass = other then [s] else [] := by
  unfold lookNow
  rw [hlook]

theorem lookNow_of_none (hlook : t.lookOf s.now = none) (pass : Pass) :
    lookNow pass (t, s) = [] := by
  unfold lookNow
  rw [hlook]

/-! ## The end -/

/-- What two passes come to, with the looks that have been taken in them. -/
structure TwoPasses (host : Host σ) (h : Handle) (config : TerminationConfig) (s : Supervisor σ)
    (graceful forced : List (Supervisor σ)) (r : Result) (s' : Supervisor σ) : Prop where
  /-- The members have been asked to end, each once and in their order, and those that lived at the
  last look of the grace period have been killed, each once and in their order. -/
  requests : Requests host h config s graceful (membersOf host h s)
    (leftAfter host h (membersOf host h s) graceful) s'
  /-- There was nobody, or one of the looks has found that all are gone. -/
  ok_iff : r = .ok () ↔ membersOf host h s = [] ∨
    (∃ g ∈ graceful, ∀ p ∈ membersOf host h s, ¬ Lives host h g p) ∨
    ∃ f ∈ forced, ∀ p ∈ leftAfter host h (membersOf host h s) graceful, ¬ Lives host h f p
  /-- Those that lived at the last look are told of. -/
  failures : ∀ failures, r = .error failures → failures ≠ [] ∧ failures =
    (leftAfter host h (leftAfter host h (membersOf host h s) graceful) forced).map
      (failureOf h.component)
  /-- The record is dropped. -/
  ok_record : r = .ok () → s'.record? h.component = none
  /-- The record is kept, and says what is left. -/
  error_record : ∀ failures, r = .error failures → ∃ q, s.record? h.component = some q ∧
    s'.record? h.component =
      some { q with status := .failed (TerminationFailure.summary failures) }
  /-- The records of the other components stay as they are. -/
  others : ∀ c, c ≠ h.component → s'.record? c = s.record? c

theorem finish_nil_eq (ht : s.Tracked h) :
    finish h [] s = (.done (.ok ()), s.putRecord h.component none) := by
  unfold finish
  rw [if_pos (by rfl), if_pos (isSome_tracked?.mpr ht)]

theorem finish_left_eq {left : List Pid} {r : Record} (hne : left ≠ [])
    (hr : s.record? h.component = some r) (hp : r.pid = h.pid) :
    let failures := left.map (failureOf h.component)
    finish h left s = (.done (.error failures), s.putRecord h.component
      (some { r with status := .failed (TerminationFailure.summary failures) })) := by
  unfold finish
  rw [if_neg (by simpa using hne), tracked?_eq_some.mpr ⟨hr, hp⟩]

section Ends

variable (ht : s₀.Tracked h) (hs : Spares h s₀ s)
  (hreq : Requests host h config s₀ graceful (membersOf host h s₀)
    (leftAfter host h (membersOf host h s₀) graceful) s)

include ht hs hreq

/-- A look has found nobody. -/
theorem twoPasses_ok (forced : List (Supervisor σ)) (hgone : membersOf host h s₀ = [] ∨
      (∃ g ∈ graceful, ∀ p ∈ membersOf host h s₀, ¬ Lives host h g p) ∨
      ∃ f ∈ forced, ∀ p ∈ leftAfter host h (membersOf host h s₀) graceful, ¬ Lives host h f p) :
    ∃ s', finish h [] s = (.done (.ok ()), s') ∧
      TwoPasses host h config s₀ graceful forced (.ok ()) s' := by
  refine ⟨_, finish_nil_eq (hs.tracked ht), hreq.of_journal rfl, iff_of_true rfl hgone, nofun,
    fun _ => ?_, nofun, fun c hc => ?_⟩
  · rw [record?_putRecord, if_pos rfl]
  · rw [record?_putRecord, if_neg hc, hs.others c hc]

/-- Somebody has been found by every look. -/
theorem twoPasses_error {left : List Pid}
    (hleft : leftAfter host h (leftAfter host h (membersOf host h s₀) graceful) forced = left)
    (hne : left ≠ []) (hmembers : membersOf host h s₀ ≠ [])
    (hgraceful : ∀ g ∈ graceful, living host h g (membersOf host h s₀) ≠ [])
    (hforced : ∀ f ∈ forced,
      living host h f (leftAfter host h (membersOf host h s₀) graceful) ≠ []) :
    ∃ r s', finish h left s = (.done r, s') ∧
      TwoPasses host h config s₀ graceful forced r s' := by
  obtain ⟨q, hq, hp⟩ := ht
  obtain ⟨status, hq'⟩ := hs.own q hq
  refine ⟨_, _, finish_left_eq hne hq' hp, hreq.of_journal rfl, iff_of_false nofun ?_, ?_, nofun,
    ?_, fun c hc => ?_⟩
  · rintro (hnil | ⟨g, hg, hdead⟩ | ⟨f, hf, hdead⟩)
    · exact hmembers hnil
    · exact hgraceful g hg (living_eq_nil_iff.mpr hdead)
    · exact hforced f hf (living_eq_nil_iff.mpr hdead)
  · rintro _ ⟨rfl⟩
    exact ⟨by simpa using hne, by rw [hleft]⟩
  · rintro _ ⟨rfl⟩
    exact ⟨q, hq, by rw [record?_putRecord, if_pos rfl]⟩
  · rw [record?_putRecord, if_neg hc, hs.others c hc]

end Ends

/-! ## On the way -/

/-- Where a termination stands, with the looks that have been taken so far. -/
def Stands (host : Host σ) (h : Handle) (config : TerminationConfig) (s₀ s : Supervisor σ)
    (graceful forced : List (Supervisor σ)) : Stage → Prop
  | .entry => False
  | .asking members left => members = membersOf host h s₀ ∧ graceful = [] ∧ forced = [] ∧
    ∃ asked, asked ++ left = members ∧ Requests host h config s₀ [] asked [] s
  | .grace wait => wait.handle = h ∧ wait.pids = membersOf host h s₀ ∧ forced = [] ∧
    (∃ first, graceful.head? = some first ∧ wait.deadline = first.now + config.gracePeriod) ∧
    Requests host h config s₀ graceful (membersOf host h s₀) [] s
  | .forcing survivors left => survivors = leftAfter host h (membersOf host h s₀) graceful ∧
    forced = [] ∧
    (∃ first, graceful.head? = some first ∧ first.now + config.gracePeriod ≤ s.now) ∧
    ∃ killed, killed ++ left = survivors ∧
      Requests host h config s₀ graceful (membersOf host h s₀) killed s
  | .forced wait => wait.handle = h ∧
    wait.pids = leftAfter host h (membersOf host h s₀) graceful ∧
    Requests host h config s₀ graceful (membersOf host h s₀)
      (leftAfter host h (membersOf host h s₀) graceful) s

/-- A termination on its way: somebody has been found by every look so far. -/
structure Underway (host : Host σ) (h : Handle) (config : TerminationConfig) (s₀ : Supervisor σ)
    (graceful forced : List (Supervisor σ)) (t : Termination) (s : Supervisor σ) : Prop where
  handle : t.handle = h
  sameConfig : t.config = config
  members : membersOf host h s₀ ≠ []
  spares : Spares h s₀ s
  beforeKill : ∀ g ∈ graceful, living host h g (membersOf host h s₀) ≠ []
  afterKill : ∀ f ∈ forced, living host h f (leftAfter host h (membersOf host h s₀) graceful) ≠ []
  stands : Stands host h config s₀ s graceful forced t.stage

/-- What a step has made of a termination on its way. -/
def Leads (host : Host σ) (h : Handle) (config : TerminationConfig) (s₀ : Supervisor σ)
    (graceful forced : List (Supervisor σ)) (x : Step σ) : Prop :=
  match x.1 with
  | .again t => Underway host h config s₀ graceful forced t x.2
  | .done r => TwoPasses host h config s₀ graceful forced r x.2

namespace Underway

variable {wait : ExitWait}

theorem look_graceful (hu : Underway host h config s₀ graceful forced t s)
    (hlook : t.lookOf s.now = some (.graceful, wait)) :
    wait.handle = h ∧ wait.pids = membersOf host h s₀ ∧ forced = [] ∧
      (∃ first, (graceful ++ [s]).head? = some first ∧
        wait.deadline = first.now + config.gracePeriod) ∧
      Requests host h config s₀ graceful (membersOf host h s₀) [] s := by
  have hstands := hu.stands
  unfold lookOf at hlook
  split at hlook
  · next members hstage =>
    obtain ⟨-, rfl⟩ := Prod.mk.inj (Option.some.inj hlook)
    rw [hstage] at hstands
    obtain ⟨rfl, rfl, rfl, asked, hasked, hreq⟩ := hstands
    rw [List.append_nil] at hasked
    subst hasked
    exact ⟨hu.handle, rfl, rfl, ⟨s, rfl, by rw [← hu.sameConfig]; rfl⟩, hreq⟩
  · next hstage =>
    rw [hstage] at hstands
    obtain ⟨hh, hpids, rfl, ⟨first, hfirst, hdeadline⟩, hreq⟩ := hstands
    split at hlook
    · obtain ⟨-, rfl⟩ := Prod.mk.inj (Option.some.inj hlook)
      exact ⟨hh, hpids, rfl, ⟨first, by rw [List.head?_append, hfirst]; rfl, hdeadline⟩, hreq⟩
    · cases hlook
  · cases hlook
  · split at hlook <;> cases hlook
  · cases hlook

theorem look_forced (hu : Underway host h config s₀ graceful forced t s)
    (hlook : t.lookOf s.now = some (.forced, wait)) :
    wait.handle = h ∧ wait.pids = leftAfter host h (membersOf host h s₀) graceful ∧
      Requests host h config s₀ graceful (membersOf host h s₀)
        (leftAfter host h (membersOf host h s₀) graceful) s := by
  have hstands := hu.stands
  unfold lookOf at hlook
  split at hlook
  · cases hlook
  · split at hlook <;> cases hlook
  · next survivors hstage =>
    obtain ⟨-, rfl⟩ := Prod.mk.inj (Option.some.inj hlook)
    rw [hstage] at hstands
    obtain ⟨rfl, rfl, -, killed, hkilled, hreq⟩ := hstands
    rw [List.append_nil] at hkilled
    exact ⟨hu.handle, rfl, hkilled ▸ hreq⟩
  · next hstage =>
    rw [hstage] at hstands
    split at hlook
    · obtain ⟨-, rfl⟩ := Prod.mk.inj (Option.some.inj hlook)
      exact hstands
    · cases hlook
  · cases hlook

/-- A termination that goes on to another stage. -/
theorem again {stage : Stage} {graceful' forced' : List (Supervisor σ)}
    (hu : Underway host h config s₀ graceful forced t s) (hspares : Spares h s s')
    (hbefore : ∀ g ∈ graceful', living host h g (membersOf host h s₀) ≠ [])
    (hafter : ∀ f ∈ forced',
      living host h f (leftAfter host h (membersOf host h s₀) graceful') ≠ [])
    (hstands : Stands host h config s₀ s' graceful' forced' stage) :
    Underway host h config s₀ graceful' forced' { t with stage } s' :=
  ⟨hu.handle, hu.sameConfig, hu.members, hu.spares.trans hspares, hbefore, hafter, hstands⟩

/-- A step leads on: another signal, another look, the second pass, or the end. -/
theorem leads (ht : s₀.Tracked h) (hu : Underway host h config s₀ graceful forced t s)
    (htakes : Takes host t s x) :
    Leads host h config s₀ (graceful ++ lookNow .graceful (t, s))
      (forced ++ lookNow .forced (t, s)) x := by
  obtain rfl := hu.handle
  cases htakes with
  | @asks members left p hstage =>
    have hstands := hu.stands
    rw [hstage] at hstands
    obtain ⟨rfl, rfl, rfl, asked, hasked, hreq⟩ := hstands
    have hnone : t.lookOf s.now = none := by rw [lookOf, hstage]
    rw [lookNow_of_none hnone, lookNow_of_none hnone, List.append_nil]
    exact hu.again (.of_table _ rfl) (List.forall_mem_nil _) (List.forall_mem_nil _)
      ⟨rfl, rfl, rfl, asked ++ [p], by rw [← hasked, List.append_assoc]; rfl, hreq.ask⟩
  | @kills survivors left p hstage =>
    have hstands := hu.stands
    rw [hstage] at hstands
    obtain ⟨rfl, rfl, hover, killed, hkilled, hreq⟩ := hstands
    have hnone : t.lookOf s.now = none := by rw [lookOf, hstage]
    rw [lookNow_of_none hnone, lookNow_of_none hnone, List.append_nil, List.append_nil]
    exact hu.again (.of_table _ rfl) hu.beforeKill (List.forall_mem_nil _)
      ⟨rfl, rfl, hover, killed ++ [p], by rw [← hkilled, List.append_assoc]; rfl, hreq.kill hover⟩
  | sleeps hearly hnone =>
    rw [lookNow_of_none hnone, lookNow_of_none hnone, List.append_nil, List.append_nil]
    exact hu
  | @waits pass wait s' hlook hs halive htime =>
    rw [lookNow_of_some hlook, lookNow_of_some hlook]
    cases pass with
    | graceful =>
      obtain ⟨hh, hpids, rfl, hfirst, hreq⟩ := hu.look_graceful hlook
      have hbefore := List.forall_mem_append.mpr
        ⟨hu.beforeKill, List.forall_mem_singleton.mpr (hpids ▸ halive)⟩
      exact hu.again hs.toSpares hbefore (List.forall_mem_nil _)
        ⟨hh, hpids, rfl, hfirst, hreq.look hs.journal s⟩
    | forced =>
      obtain ⟨hh, hpids, hreq⟩ := hu.look_forced hlook
      have hafter := List.forall_mem_append.mpr
        ⟨hu.afterKill, List.forall_mem_singleton.mpr (hpids ▸ halive)⟩
      rw [if_neg nofun, if_pos rfl, List.append_nil]
      exact hu.again hs.toSpares hu.beforeKill hafter ⟨hh, hpids, hreq.of_journal hs.journal⟩
  | @forces wait left s' hlook hs hleft halive htime =>
    obtain ⟨hh, hpids, rfl, ⟨first, hfirst, hdeadline⟩, hreq⟩ := hu.look_graceful hlook
    have hleft : living host t.handle s (membersOf host t.handle s₀) = left := hpids ▸ hleft
    have hbefore := List.forall_mem_append.mpr
      ⟨hu.beforeKill, List.forall_mem_singleton.mpr (hleft ▸ halive)⟩
    have hover : first.now + config.gracePeriod ≤ s'.now := by
      rw [hs.now, ← hdeadline]
      exact htime
    rw [lookNow_of_some hlook, lookNow_of_some hlook]
    exact hu.again hs.toSpares hbefore (List.forall_mem_nil _)
      ⟨by rw [if_pos rfl, leftAfter_concat, hleft], rfl, ⟨first, hfirst, hover⟩, [], rfl,
        hreq.look hs.journal s⟩
  | @clears pass wait s' hlook hs hleft =>
    have hspares := hu.spares.trans hs.toSpares
    rw [lookNow_of_some hlook, lookNow_of_some hlook]
    cases pass with
    | graceful =>
      obtain ⟨-, hpids, rfl, -, hreq⟩ := hu.look_graceful hlook
      rw [hpids] at hleft
      have hgone := living_eq_nil_iff.mp hleft
      have hkilled : leftAfter host t.handle (membersOf host t.handle s₀) (graceful ++ [s]) = [] :=
        leftAfter_concat.trans hleft
      obtain ⟨s'', heq, hpasses⟩ := twoPasses_ok ht hspares
        (hkilled.symm ▸ hreq.look hs.journal s) []
        (.inr (.inl ⟨s, List.mem_append_right _ (List.mem_singleton_self s), hgone⟩))
      rw [heq]
      exact hpasses
    | forced =>
      obtain ⟨-, hpids, hreq⟩ := hu.look_forced hlook
      rw [hpids] at hleft
      have hgone := living_eq_nil_iff.mp hleft
      obtain ⟨s'', heq, hpasses⟩ := twoPasses_ok ht hspares (hreq.of_journal hs.journal)
        (forced ++ [s])
        (.inr (.inr ⟨s, List.mem_append_right _ (List.mem_singleton_self s), hgone⟩))
      rw [if_neg nofun, if_pos rfl, List.append_nil, heq]
      exact hpasses
  | @fails wait left s' hlook hs hleft halive htime =>
    obtain ⟨-, hpids, hreq⟩ := hu.look_forced hlook
    have hleft : living host t.handle s
        (leftAfter host t.handle (membersOf host t.handle s₀) graceful) = left := hpids ▸ hleft
    have hafter := List.forall_mem_append.mpr
      ⟨hu.afterKill, List.forall_mem_singleton.mpr (hleft ▸ halive)⟩
    obtain ⟨r, s'', heq, hpasses⟩ := twoPasses_error ht (hu.spares.trans hs.toSpares)
      (hreq.of_journal hs.journal) (leftAfter_concat.trans hleft) halive hu.members hu.beforeKill
      hafter
    rw [lookNow_of_some hlook, lookNow_of_some hlook, if_neg nofun, if_pos rfl, List.append_nil,
      heq]
    exact hpasses

/-- Time passes, and the machine changes. -/
theorem passes (hu : Underway host h config s₀ graceful forced t s) (p : Passing σ) :
    Underway host h config s₀ graceful forced t (p.apply s) := by
  refine ⟨hu.handle, hu.sameConfig, hu.members, hu.spares.trans (.of_table h rfl), hu.beforeKill,
    hu.afterKill, ?_⟩
  have hstands := hu.stands
  cases hstage : t.stage with
  | entry =>
    rw [hstage] at hstands
    exact hstands
  | asking members left =>
    rw [hstage] at hstands
    exact hstands
  | grace wait =>
    rw [hstage] at hstands
    exact hstands
  | forcing survivors left =>
    rw [hstage] at hstands
    obtain ⟨hleft, hforced, ⟨first, hfirst, hover⟩, hreq⟩ := hstands
    exact ⟨hleft, hforced, ⟨first, hfirst, Nat.le_trans hover (Nat.le_add_right _ _)⟩, hreq⟩
  | forced wait =>
    rw [hstage] at hstands
    exact hstands

theorem stage_ne_entry (hu : Underway host h config s₀ graceful forced t s) :
    t.stage ≠ .entry := by
  intro hstage
  have hstands := hu.stands
  rw [hstage] at hstands
  exact hstands

theorem wait_handle (hu : Underway host h config s₀ graceful forced t s) {wait : ExitWait}
    (hwait : t.stage.wait? = some wait) : wait.handle = t.handle := by
  have hstands := hu.stands
  rw [hu.handle]
  cases hstage : t.stage with
  | grace wait' =>
    rw [hstage] at hstands hwait
    cases hwait
    exact hstands.1
  | forced wait' =>
    rw [hstage] at hstands hwait
    cases hwait
    exact hstands.1
  | _ =>
    rw [hstage] at hwait
    cases hwait

theorem takes (ht : s₀.Tracked h) (hu : Underway host h config s₀ graceful forced t s) :
    Takes host t s (t.step host s) :=
  step_takes (hu.handle.symm ▸ hu.spares.tracked ht) hu.stage_ne_entry fun _ => hu.wait_handle

/-- What becomes of a termination on its way. -/
theorem drive (ht : s₀.Tracked h) (hu : Underway host h config s₀ graceful forced t s)
    {passings : List (Passing σ)} {r : Result}
    (hrun : Launchpad.drive (step host) t s (passings.map Passing.apply) = (.done r, s')) :
    TwoPasses host h config s₀
      (graceful ++ looks host .graceful t s (passings.map Passing.apply))
      (forced ++ looks host .forced t s (passings.map Passing.apply)) r s' := by
  induction passings generalizing t s graceful forced with
  | nil => cases hrun
  | cons p passings ih =>
    have hleads := hu.leads ht (hu.takes ht)
    unfold looks
    rw [List.map_cons] at hrun ⊢
    unfold Launchpad.drive at hrun
    unfold visited
    rw [List.flatMap_cons, List.flatMap_cons, ← List.append_assoc, ← List.append_assoc]
    cases hstep : step host t s with
    | mk q s₁ =>
      rw [hstep] at hrun hleads
      cases q with
      | again t₁ => exact ih (Underway.passes hleads p) hrun
      | done r₁ =>
        cases hrun
        dsimp only
        rw [List.flatMap_nil, List.append_nil, List.flatMap_nil, List.append_nil]
        exact hleads

end Underway

/-! ## The beginning -/

theorem treeMembers_noted (host : Host σ) (h : Handle) (rootAlive : Bool) (s : Supervisor σ) :
    (treeMembers host h rootAlive s).2 =
      if rootAlive then s.note (.processTree h.pid) else s := by
  unfold treeMembers
  split
  · dsimp only
    split <;> rfl
  · rfl

theorem stragglers_noted (host : Host σ) (h : Handle) (tree : List Pid) (s : Supervisor σ) :
    (stragglers host h tree s).2 = s.note (.processGroup h.pid) := by
  unfold stragglers
  dsimp only
  split <;> rfl

/-- The members are found, and nothing else is done yet. -/
theorem members_found (host : Host σ) (h : Handle) (config : TerminationConfig)
    (s : Supervisor σ) :
    let found := members host h (decide (Runs host h s)) (s.observeTracked host h).2
    found.1 = membersOf host h s ∧ Spares h s found.2 ∧
      Requests host h config s [] [] [] found.2 := by
  have hpeeks := peeks_observeTracked host h s
  refine ⟨targets_eq host h s, ?_, ?_⟩
  · unfold members
    dsimp only
    rw [stragglers_noted, treeMembers_noted]
    split <;> exact hpeeks.toSpares.trans (.of_table h rfl)
  · unfold members
    dsimp only
    rw [stragglers_noted, treeMembers_noted]
    simp only [decide_eq_true_eq]
    by_cases hruns : Runs host h s
    · refine ⟨[⟨s.now, .processGroup h.pid⟩, ⟨s.now, .processTree h.pid⟩], [], [], ?_, ?_, rfl, rfl,
        nofun⟩
      · rw [if_pos hruns]
        simp only [note, hpeeks.journal, hpeeks.now]
        rfl
      · simp [calls, enumeration, hruns]
    · refine ⟨[⟨s.now, .processGroup h.pid⟩], [], [], ?_, ?_, rfl, rfl, nofun⟩
      · rw [if_neg hruns]
        simp only [note, hpeeks.journal, hpeeks.now]
        rfl
      · simp [calls, enumeration, hruns]

/-- The first step finds the members, and ends the termination if there are none. -/
theorem leads_entry (ht : s.Tracked h) :
    Leads host h config s [] [] (step host { handle := h, config } s) := by
  obtain ⟨hfound, hspares, hreq⟩ := members_found host h config s
  have hpair : s.observeTracked host h =
      (some (decide (Runs host h s)), (s.observeTracked host h).2) :=
    Prod.ext (observeTracked_of_tracked ht) rfl
  show Leads host h config s [] [] (enter host { handle := h, config } s)
  unfold enter
  dsimp only
  rw [hpair]
  dsimp only
  rw [hfound]
  split
  · next hnil =>
    have hnil := List.isEmpty_iff.mp hnil
    obtain ⟨s', heq, hpasses⟩ := twoPasses_ok ht hspares (by rw [hnil]; exact hreq) [] (.inl hnil)
    rw [heq]
    exact hpasses
  · next hne =>
    have hne : membersOf host h s ≠ [] := fun hnil => hne (List.isEmpty_iff.mpr hnil)
    exact ⟨rfl, rfl, hne, hspares, List.forall_mem_nil _, List.forall_mem_nil _, rfl, rfl, rfl, [],
      rfl, hreq⟩

/-- If there are members, they are to be asked next. -/
theorem entry_again (hx : (step host { handle := h, config } s).1 = .again t) :
    t = { handle := h, config, stage := .asking (membersOf host h s) (membersOf host h s) } := by
  have hdoes := step_does host { handle := h, config } s
  have hnone : Stage.watched (.entry : Stage) = none := rfl
  generalize step host { handle := h, config } s = x at hdoes hx
  cases hdoes with
  | misses => cases hx
  | finds =>
    rw [← targets_eq]
    exact (Progress.again.inj hx).symm
  | findsNobody => exact absurd hx finish_ne_again
  | signals hwatched => cases hnone.symm.trans hwatched
  | waits hwatched => cases hnone.symm.trans hwatched
  | forces hwatched => cases hnone.symm.trans hwatched
  | finishes hwatched => cases hnone.symm.trans hwatched

/-! ## The whole -/

/-- A run that has not come to its end has had fewer due steps than were left. -/
theorem Underway.dueSteps_lt (ht : s₀.Tracked h)
    (hu : Underway host h config s₀ graceful forced t s) {passings : List (Passing σ)}
    (hrun : Launchpad.drive (step host) t s (passings.map Passing.apply) = (.again t', s')) :
    dueSteps host t s (passings.map Passing.apply) < t.stepsLeft := by
  induction passings generalizing t s graceful forced with
  | nil => exact stepsLeft_pos hu.stage_ne_entry
  | cons p passings ih =>
    have htakes := hu.takes ht
    have hleads := hu.leads ht htakes
    unfold dueSteps at ih ⊢
    rw [List.map_cons] at hrun ⊢
    unfold Launchpad.drive at hrun
    unfold visited
    rw [List.countP_cons]
    cases hstep : step host t s with
    | mk q s₁ =>
      rw [hstep] at hrun htakes hleads
      cases q with
      | again t₁ =>
        have hrest := ih (Underway.passes hleads p) hrun
        have hone := htakes.fewer rfl
        dsimp only at hrest ⊢
        omega
      | done r₁ => cases hrun

theorem twoPasses_of_drive (ht : s.Tracked h) {passings : List (Passing σ)} {r : Result}
    (hrun : drive (step host) { handle := h, config } s (passings.map Passing.apply) =
      (.done r, s')) :
    TwoPasses host h config s
      (looks host .graceful { handle := h, config } s (passings.map Passing.apply))
      (looks host .forced { handle := h, config } s (passings.map Passing.apply)) r s' := by
  have hleads : Leads host h config s [] [] (step host { handle := h, config } s) := leads_entry ht
  cases passings with
  | nil => cases hrun
  | cons p passings =>
    have hnone (pass : Pass) : lookNow pass (({ handle := h, config } : Termination), s) = [] :=
      lookNow_of_none rfl pass
    unfold looks
    rw [List.map_cons] at hrun ⊢
    unfold drive at hrun
    unfold visited
    rw [List.flatMap_cons, List.flatMap_cons, hnone, hnone, List.nil_append, List.nil_append]
    cases hstep : step host { handle := h, config } s with
    | mk q s₁ =>
      rw [hstep] at hrun hleads
      cases q with
      | again t₁ => exact (Underway.passes hleads p).drive ht hrun
      | done r₁ =>
        cases hrun
        exact hleads

theorem done_of_dueSteps (ht : s.Tracked h) {passings : List (Passing σ)}
    (hdue : stepsFor config (membersOf host h s) ≤
      dueSteps host { handle := h, config } s (passings.map Passing.apply)) :
    ∃ r s', drive (step host) { handle := h, config } s (passings.map Passing.apply) =
      (.done r, s') := by
  have hleads : Leads host h config s [] [] (step host { handle := h, config } s) := leads_entry ht
  cases passings with
  | nil => exact absurd hdue (by simp [stepsFor, dueSteps, visited])
  | cons p passings =>
    rw [List.map_cons] at hdue ⊢
    unfold drive
    unfold dueSteps visited at hdue
    rw [List.countP_cons] at hdue
    split
    · next t₁ s₁ heq =>
      rw [heq] at hleads hdue
      have hu := Underway.passes hleads p
      obtain rfl := entry_again (congrArg Prod.fst heq)
      cases hrest : drive (step host) _ (p.apply s₁) (passings.map Passing.apply) with
      | mk progress s' =>
        cases progress with
        | done r => exact ⟨r, s', rfl⟩
        | again t' =>
          have hlt := hu.dueSteps_lt ht hrest
          have hone :
              (if isDue (({ handle := h, config } : Termination), s) then 1 else 0) ≤ 1 := by
            split <;> decide
          simp only [dueSteps, stepsLeft, stepsFor] at hlt hdue
          omega
    · exact ⟨_, _, rfl⟩

/-- A termination of a tracked process that nothing else comes between ends after a number of steps
that are due, and it goes through its two passes. Its members are each named once and the root last,
if the host does so; a root that has exited is not among them unless its group names it. -/
theorem ends_in_two_passes (ht : s.Tracked h) (config : TerminationConfig)
    (passings : List (Passing σ)) :
    let t : Termination := { handle := h, config }
    let changes := passings.map Passing.apply
    (stepsFor config (membersOf host h s) ≤ dueSteps host t s changes →
      ∃ r s', drive (step host) t s changes = (.done r, s')) ∧
    (∀ r s', drive (step host) t s changes = (.done r, s') →
      TwoPasses host h config s (looks host .graceful t s changes)
        (looks host .forced t s changes) r s') ∧
    ((groupOf host h s).Nodup → (treeOf host h s).Nodup → (membersOf host h s).Nodup) ∧
    (Runs host h s →
      (∀ tree, host.processTree s.now h.pid s.world = .ok tree → tree.root = h.pid) →
      (membersOf host h s).getLast? = some h.pid) ∧
    (¬ Runs host h s → h.pid ∉ groupOf host h s → h.pid ∉ membersOf host h s) := by
  intro t changes
  refine ⟨fun hdue => ?_, fun r s' hrun => ?_, nodup_membersOf, getLast?_membersOf,
    not_mem_membersOf⟩
  · exact done_of_dueSteps ht hdue
  · exact twoPasses_of_drive ht hrun

section Example

open Scripted

/-- A main runtime that does not end when it is asked to, with another process in its group that
does. -/
def guarded : Supervisor World :=
  let plan : Plan := { terminate := { endsAfter := none }, treeFails := true, group := [stray] }
  launchedOn { script := { plans := .const plan, bystanders := [(stray, {})] } }

/-- What happens while it is terminated: both are asked to end, the main runtime is looked at until
the grace period is over, and killed. -/
def untilKilled : List (Passing World) :=
  [{}, {}, {}, { time := exitPollInterval }, { time := exitPollInterval }, {}, {}, {}]

def killedAlone : Supervisor World :=
  (drive (step plainHost) parting guarded (untilKilled.map Passing.apply)).2

theorem stubborn_root_is_killed_alone :
    guarded.Tracked parting.handle ∧
      drive (step plainHost) parting guarded (untilKilled.map Passing.apply) =
        (.done (.ok ()), killedAlone) ∧
      Requests plainHost parting.handle parting.config guarded
        (looks plainHost .graceful parting guarded (untilKilled.map Passing.apply))
        [stray, parting.handle.pid] [parting.handle.pid] killedAlone := by
  have htracked : guarded.Tracked parting.handle := ⟨_, rfl, rfl⟩
  have hrun : drive (step plainHost) parting guarded (untilKilled.map Passing.apply) =
      (.done (.ok ()), killedAlone) := Prod.ext rfl rfl
  have hmembers : membersOf plainHost parting.handle guarded = [stray, parting.handle.pid] := by
    decide +kernel
  have hleft : leftAfter plainHost parting.handle [stray, parting.handle.pid]
      (looks plainHost .graceful parting guarded (untilKilled.map Passing.apply)) =
        [parting.handle.pid] := by
    decide +kernel
  have hpasses : TwoPasses plainHost parting.handle parting.config guarded
      (looks plainHost .graceful parting guarded (untilKilled.map Passing.apply))
      (looks plainHost .forced parting guarded (untilKilled.map Passing.apply)) (.ok ())
      killedAlone :=
    (ends_in_two_passes htracked parting.config untilKilled).2.1 _ _ hrun
  have hreq := hpasses.requests
  rw [hmembers, hleft] at hreq
  exact ⟨htracked, hrun, hreq⟩

end Example

end Termination

end Launchpad
