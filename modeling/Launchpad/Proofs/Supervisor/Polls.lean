import Launchpad.Proofs.Supervisor.Offspring

/-!
# Terminations with nothing else going on

While no other operation goes on, only time passes beside a termination, and the machine changes as
it does (`Passing`). Then a look tells the truth about every member, and it changes nothing but the
status of the record of the root (`look_cases`).

A termination looks at its members when a look is due, and waits for the next one if somebody lives
and there is time left. The looks that are left to it bound the number of steps that are due
(`Takes.fewer`).
-/

namespace Launchpad

/-- Some time passes, and the machine changes meanwhile. -/
structure Passing (σ : Type) where
  time : Duration := 0
  change : σ → σ := id

def Passing.apply {σ : Type} (p : Passing σ) (s : Supervisor σ) : Supervisor σ :=
  { s with now := s.now + p.time, world := p.change s.world }

/-- A call each time that it goes on, with the state that it goes on in. -/
def visited {κ α S : Type} (step : κ → S → Progress κ α × S) (c : κ) (s : S) :
    List (S → S) → List (κ × S)
  | [] => []
  | change :: changes =>
    (c, s) :: match step c s with
      | (.again c, s) => visited step c (change s) changes
      | (.done _, _) => []

namespace Supervisor

variable {σ : Type} {host : Host σ} {s s' s'' : Supervisor σ} {h : Handle}

/-- No record changes but that of one component, and of that nothing but its status. -/
structure Spares (h : Handle) (s s' : Supervisor σ) : Prop where
  own : ∀ r, s.record? h.component = some r →
    ∃ status, s'.record? h.component = some { r with status }
  others : ∀ c, c ≠ h.component → s'.record? c = s.record? c

theorem Spares.refl (h : Handle) (s : Supervisor σ) : Spares h s s :=
  ⟨fun r hr => ⟨r.status, hr⟩, fun _ _ => rfl⟩

theorem Spares.trans (h₁ : Spares h s s') (h₂ : Spares h s' s'') : Spares h s s'' where
  own r hr := by
    obtain ⟨_, hr'⟩ := h₁.own r hr
    obtain ⟨status, hr''⟩ := h₂.own _ hr'
    exact ⟨status, hr''⟩
  others c hc := (h₂.others c hc).trans (h₁.others c hc)

theorem Spares.of_table (h : Handle) (ht : s'.table = s.table) : Spares h s s' := by
  have hrec (c : Component) : s'.record? c = s.record? c := by rw [record?, ht, record?]
  exact ⟨fun r hr => ⟨r.status, (hrec _).trans hr⟩, fun c _ => hrec c⟩

theorem Spares.tracked (hs : Spares h s s') (ht : s.Tracked h) : s'.Tracked h := by
  obtain ⟨r, hr, hp⟩ := ht
  obtain ⟨status, hr'⟩ := hs.own r hr
  exact ⟨_, hr', hp⟩

/-- Besides, the machine stands still, and nothing is asked of it. -/
structure Peeks (h : Handle) (s s' : Supervisor σ) : Prop extends Still s s', Spares h s s' where
  journal : s'.journal = s.journal

theorem Peeks.refl (h : Handle) (s : Supervisor σ) : Peeks h s s := ⟨.refl s, .refl h s, rfl⟩

theorem Peeks.trans (h₁ : Peeks h s s') (h₂ : Peeks h s' s'') : Peeks h s s'' :=
  ⟨h₁.toStill.trans h₂.toStill, h₁.toSpares.trans h₂.toSpares, h₂.journal.trans h₁.journal⟩

theorem peeks_observe (host : Host σ) (h : Handle) (s : Supervisor σ) :
    Peeks h s (s.observe host h.component).2 := by
  have hstill := still_observe host h.component s
  cases hr : s.record? h.component with
  | none =>
    unfold observe
    rw [hr]
    exact .refl h s
  | some r =>
    unfold observe at hstill ⊢
    rw [hr] at hstill ⊢
    refine ⟨hstill, ⟨fun q hq => ?_, fun c hc => ?_⟩, rfl⟩
    · cases hr.symm.trans hq
      refine ⟨(r.observe (host.childState s.now r.pid s.world)).2.status, ?_⟩
      rw [record?_putRecord, if_pos rfl]
      unfold Record.observe
      split
      · split <;> rfl
      · rfl
    · rw [record?_putRecord, if_neg hc]

theorem peeks_observeTracked (host : Host σ) (h : Handle) (s : Supervisor σ) :
    Peeks h s (s.observeTracked host h).2 := by
  unfold observeTracked
  split
  · exact .refl h s
  · exact peeks_observe host h s

end Supervisor

namespace ExitWait

open Supervisor

variable {σ : Type} {host : Host σ} {s : Supervisor σ} {h : Handle}

theorem peeks_isMemberAlive (host : Host σ) (h : Handle) (p : Pid) (s : Supervisor σ) :
    Peeks h s (isMemberAlive host h p s).2 := by
  unfold isMemberAlive
  split
  · exact peeks_observeTracked host h s
  · exact .refl h s

theorem peeks_survivors (host : Host σ) (h : Handle) (ps : List Pid) (s : Supervisor σ) :
    Peeks h s (survivors host h ps s).2 := by
  induction ps generalizing s with
  | nil => exact .refl h s
  | cons p ps ih => exact (peeks_isMemberAlive host h p s).trans (ih _)

end ExitWait

namespace Termination

open Supervisor ExitWait

variable {σ : Type} {host : Host σ} {s s' : Supervisor σ} {t t' : Termination} {h : Handle}

/-- Those of some processes of a tree that live. -/
def living (host : Host σ) (h : Handle) (s : Supervisor σ) (pids : List Pid) : List Pid :=
  pids.filter fun p => Lives host h s p

theorem living_eq_nil_iff {pids : List Pid} :
    living host h s pids = [] ↔ ∀ p ∈ pids, ¬ Lives host h s p := by
  simp [living, List.filter_eq_nil_iff]

/-- A look ends the wait if nobody lives or the time is over, and else it is not the last one. -/
theorem look_cases (host : Host σ) {wait : ExitWait} (ht : s.Tracked h) (hh : wait.handle = h) :
    ∃ s', Peeks h s s' ∧ wait.look host s =
      if living host h s wait.pids = [] ∨ wait.deadline ≤ s.now then
        (.done (living host h s wait.pids), s')
      else (.again { wait with wakeAt := s.now + exitPollInterval }, s') := by
  subst hh
  have hleft : (survivors host wait.handle wait.pids s).1 =
      living host wait.handle s wait.pids := by
    rw [survivors_eq]
    unfold living
    congr 1
    funext p
    exact Bool.eq_iff_iff.mpr ((findsAlive_iff ht).trans decide_eq_true_iff.symm)
  have hs := peeks_survivors host wait.handle wait.pids s
  refine ⟨_, hs, ?_⟩
  unfold look
  dsimp only
  rw [hleft, hs.now]
  simp only [Bool.or_eq_true, List.isEmpty_iff, decide_eq_true_eq]

/-! ## What a step can do -/

/-- The two passes of a termination: it asks its members to end, and kills those that do not. -/
inductive Pass where
  | graceful
  | forced
  deriving DecidableEq, Repr

/-- A wait that runs in a pass. -/
def Pass.waiting : Pass → ExitWait → Stage
  | .graceful => .grace
  | .forced => .forced

/-- The wait whose look a step takes, with its pass: a new one after the last signal, or one whose
next look is due. -/
def lookOf (t : Termination) (now : Instant) : Option (Pass × ExitWait) :=
  match t.stage with
  | .asking members [] => some (.graceful, .start t.handle members t.config.gracePeriod now)
  | .grace wait => if wait.wakeAt ≤ now then some (.graceful, wait) else none
  | .forcing killed [] => some (.forced, .start t.handle killed t.config.forceWait now)
  | .forced wait => if wait.wakeAt ≤ now then some (.forced, wait) else none
  | _ => none

/-- All that a step can do once the members have been found. -/
inductive Takes (host : Host σ) (t : Termination) (s : Supervisor σ) : Step σ → Prop
  | asks {members left : List Pid} {p : Pid} (hstage : t.stage = .asking members (p :: left)) :
      Takes host t s (.again { t with stage := .asking members left }, ask host p s)
  | kills {killed left : List Pid} {p : Pid} (hstage : t.stage = .forcing killed (p :: left)) :
      Takes host t s (.again { t with stage := .forcing killed left }, kill host p s)
  /-- No look is due. -/
  | sleeps (hearly : s.now < t.wakeAt) (hnone : t.lookOf s.now = none) :
      Takes host t s (.again t, s)
  /-- Somebody lives, and there is time left. -/
  | waits {pass : Pass} {wait : ExitWait} {s' : Supervisor σ}
      (hlook : t.lookOf s.now = some (pass, wait)) (hs : Peeks t.handle s s')
      (halive : living host t.handle s wait.pids ≠ []) (htime : s.now < wait.deadline) :
      Takes host t s (.again
        { t with stage := pass.waiting { wait with wakeAt := s.now + exitPollInterval } }, s')
  /-- Somebody lives, and the grace period is over. -/
  | forces {wait : ExitWait} {left : List Pid} {s' : Supervisor σ}
      (hlook : t.lookOf s.now = some (.graceful, wait)) (hs : Peeks t.handle s s')
      (hleft : living host t.handle s wait.pids = left) (halive : left ≠ [])
      (htime : wait.deadline ≤ s.now) :
      Takes host t s (.again { t with stage := .forcing left left }, s')
  /-- Nobody lives. -/
  | clears {pass : Pass} {wait : ExitWait} {s' : Supervisor σ}
      (hlook : t.lookOf s.now = some (pass, wait)) (hs : Peeks t.handle s s')
      (hleft : living host t.handle s wait.pids = []) :
      Takes host t s (finish t.handle [] s')
  /-- Somebody lives, and the time after the kill is over. -/
  | fails {wait : ExitWait} {left : List Pid} {s' : Supervisor σ}
      (hlook : t.lookOf s.now = some (.forced, wait)) (hs : Peeks t.handle s s')
      (hleft : living host t.handle s wait.pids = left) (halive : left ≠ [])
      (htime : wait.deadline ≤ s.now) :
      Takes host t s (finish t.handle left s')

section Looking

variable {wait : ExitWait} (ht : s.Tracked t.handle) (hh : wait.handle = t.handle)

include ht hh

theorem takes_resumeGrace (hlook : t.lookOf s.now = some (.graceful, wait)) :
    Takes host t s (t.resumeGrace (wait.look host s).1 (wait.look host s).2) := by
  obtain ⟨s', hs, heq⟩ := look_cases host ht hh
  rw [heq]
  split
  · next hlast =>
    cases hleft : living host t.handle s wait.pids with
    | nil => exact .clears hlook hs hleft
    | cons p left =>
      have htime : wait.deadline ≤ s.now := hlast.resolve_left (by simp [hleft])
      exact .forces hlook hs hleft (List.cons_ne_nil p left) htime
  · next hlast =>
    obtain ⟨halive, htime⟩ := not_or.mp hlast
    exact .waits hlook hs halive (Nat.lt_of_not_le htime)

theorem takes_resumeForced (hlook : t.lookOf s.now = some (.forced, wait)) :
    Takes host t s (t.resumeForced (wait.look host s).1 (wait.look host s).2) := by
  obtain ⟨s', hs, heq⟩ := look_cases host ht hh
  rw [heq]
  split
  · next hlast =>
    by_cases hleft : living host t.handle s wait.pids = []
    · show Takes host t s (finish t.handle (living host t.handle s wait.pids) s')
      rw [hleft]
      exact .clears hlook hs hleft
    · exact .fails hlook hs rfl hleft (hlast.resolve_left hleft)
  · next hlast =>
    obtain ⟨halive, htime⟩ := not_or.mp hlast
    exact .waits hlook hs halive (Nat.lt_of_not_le htime)

end Looking

theorem step_takes (ht : s.Tracked t.handle) (hstage : t.stage ≠ .entry)
    (hwait : ∀ wait, t.stage.wait? = some wait → wait.handle = t.handle) :
    Takes host t s (t.step host s) := by
  obtain ⟨h, config, stage⟩ := t
  cases stage with
  | entry => exact absurd rfl hstage
  | asking members left =>
    cases left with
    | cons p left => exact .asks rfl
    | nil => exact takes_resumeGrace ht rfl rfl
  | grace wait =>
    simp only [step, ExitWait.step]
    split
    · next hdue => exact takes_resumeGrace ht (hwait wait rfl) (if_pos hdue)
    · next hearly => exact .sleeps (Nat.lt_of_not_le hearly) (if_neg hearly)
  | forcing killed left =>
    cases left with
    | cons p left => exact .kills rfl
    | nil => exact takes_resumeForced ht rfl rfl
  | forced wait =>
    simp only [step, ExitWait.step]
    split
    · next hdue => exact takes_resumeForced ht (hwait wait rfl) (if_pos hdue)
    · next hearly => exact .sleeps (Nat.lt_of_not_le hearly) (if_neg hearly)

/-! ## How many steps it takes -/

/-- The looks that fit into a length of time, with one at its beginning and one at its end. -/
def looksWithin (d : Duration) : Nat := (d + exitPollInterval - 1) / exitPollInterval + 1

/-- The looks that are left to a wait. -/
def looksLeft (wait : ExitWait) : Nat := looksWithin (wait.deadline - wait.wakeAt)

/-- The steps that are at most due from now on, once the members have been found. -/
def stepsLeft (t : Termination) : Nat :=
  match t.stage with
  | .entry => 0
  | .asking members left => left.length + looksWithin t.config.gracePeriod + members.length +
    looksWithin t.config.forceWait
  | .grace wait => looksLeft wait + wait.pids.length + looksWithin t.config.forceWait
  | .forcing _ left => left.length + looksWithin t.config.forceWait
  | .forced wait => looksLeft wait

/-- The steps that are at most due in a termination of some members. -/
def stepsFor (config : TerminationConfig) (members : List Pid) : Nat :=
  1 + members.length + looksWithin config.gracePeriod + members.length +
    looksWithin config.forceWait

def isDue (x : Termination × Supervisor σ) : Bool := x.1.wakeAt ≤ x.2.now

def dueSteps (host : Host σ) (t : Termination) (s : Supervisor σ)
    (changes : List (Supervisor σ → Supervisor σ)) : Nat :=
  (visited (step host) t s changes).countP isDue

/-- A look before the deadline leaves one look less. -/
theorem looksWithin_again {wakeAt now deadline : Nat} (hdue : wakeAt ≤ now)
    (htime : now < deadline) :
    looksWithin (deadline - (now + exitPollInterval)) + 1 ≤ looksWithin (deadline - wakeAt) := by
  simp only [looksWithin, exitPollInterval, Duration.ofMillis]
  omega

theorem stepsLeft_pos (hstage : t.stage ≠ .entry) : 0 < t.stepsLeft := by
  have hpos (d : Duration) : 0 < looksWithin d := Nat.succ_pos _
  have hforce := hpos t.config.forceWait
  unfold stepsLeft
  cases heq : t.stage with
  | entry => exact absurd heq hstage
  | forced wait => exact hpos _
  | _ => exact Nat.add_pos_right _ hforce

theorem stepsLeft_of_lookOf {now : Instant} {pass : Pass} {wait : ExitWait}
    (hlook : t.lookOf now = some (pass, wait)) : wait.wakeAt ≤ now ∧ t.stepsLeft = looksLeft wait +
      match pass with
      | .graceful => wait.pids.length + looksWithin t.config.forceWait
      | .forced => 0 := by
  unfold lookOf at hlook
  unfold stepsLeft
  split at hlook
  · next members hstage =>
    cases hlook
    rw [hstage]
    simp [ExitWait.start, looksLeft, Nat.add_assoc]
  · next hstage =>
    split at hlook
    · next hdue =>
      cases hlook
      rw [hstage]
      exact ⟨hdue, Nat.add_assoc _ _ _⟩
    · cases hlook
  · next killed hstage =>
    cases hlook
    rw [hstage]
    simp [ExitWait.start, looksLeft]
  · next hstage =>
    split at hlook
    · next hdue =>
      cases hlook
      rw [hstage]
      exact ⟨hdue, rfl⟩
    · cases hlook
  · cases hlook

/-- A step that is due leaves a step less. -/
theorem Takes.fewer {x : Step σ} (htakes : Takes host t s x) (hx : x.1 = .again t') :
    t'.stepsLeft + (if isDue (t, s) then 1 else 0) ≤ t.stepsLeft := by
  have hone : (if isDue (t, s) then 1 else 0) ≤ 1 := by split <;> decide
  cases htakes with
  | asks hstage =>
    cases hx
    simp only [stepsLeft, hstage, List.length_cons]
    omega
  | kills hstage =>
    cases hx
    simp only [stepsLeft, hstage, List.length_cons]
    omega
  | sleeps hearly hnone =>
    cases hx
    have hnot : isDue (t, s) = false := decide_eq_false (Nat.not_le_of_lt hearly)
    rw [hnot]
    exact Nat.le_refl _
  | @waits pass wait s' hlook hs halive htime =>
    cases hx
    obtain ⟨hdue, hleft⟩ := stepsLeft_of_lookOf hlook
    have hfewer := looksWithin_again hdue htime
    rw [hleft]
    cases pass <;> simp only [stepsLeft, Pass.waiting, looksLeft] <;> omega
  | @forces wait left s' hlook hs hleft halive htime =>
    cases hx
    obtain ⟨-, heq⟩ := stepsLeft_of_lookOf hlook
    have hlength : left.length ≤ wait.pids.length := hleft ▸ List.length_filter_le _ _
    have hpos : 0 < looksLeft wait := Nat.succ_pos _
    rw [heq]
    simp only [stepsLeft]
    omega
  | clears => exact absurd hx finish_ne_again
  | fails => exact absurd hx finish_ne_again

end Termination

end Launchpad
