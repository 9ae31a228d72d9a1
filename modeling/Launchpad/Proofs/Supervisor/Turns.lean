import Launchpad.Proofs.Supervisor.Operations
import Launchpad.Proofs.Supervisor.Passes

/-!
# A sweep turn by turn

While no other operation goes on, a sweep is a series of terminations with nothing but time between
them (`turns_of_drive`): one for each process that is tracked at its start, the last component in
launch order first. Each of them goes through its two passes, whatever the ones before it have come
to, and it touches no record but its own. So the failures that a sweep ends with and the records
that it leaves tell the same (`sweep_reports_what_is_left`).
-/

namespace Launchpad

namespace Termination

open Supervisor ExitWait

variable {σ : Type} {host : Host σ} {s₀ s s' : Supervisor σ} {t : Termination} {h : Handle}
  {config : TerminationConfig} {graceful forced : List (Supervisor σ)} {p : Pid}
  {failures : List TerminationFailure}

/-! ## Who is told of -/

/-- A process has been killed since an earlier state. -/
def KilledSince (s s' : Supervisor σ) (p : Pid) : Prop :=
  ∃ since, s'.journal = since ++ s.journal ∧ HostCall.kill p ∈ calls since

theorem Requests.killedSince {asked killed : List Pid}
    (hreq : Requests host h config s₀ graceful asked killed s) (hp : p ∈ killed) :
    KilledSince s₀ s p := by
  obtain ⟨found, asks, kills, hj, -, -, hkills, -⟩ := hreq
  refine ⟨kills ++ asks ++ found, hj, ?_⟩
  have hmem : HostCall.kill p ∈ calls kills := hkills ▸ List.mem_map_of_mem hp
  unfold calls at hmem ⊢
  rw [List.mem_reverse, List.mem_map] at hmem ⊢
  obtain ⟨e, he, hcall⟩ := hmem
  exact ⟨e, List.mem_append_left _ (List.mem_append_left _ he), hcall⟩

/-- What failures of a process tell: those that they name have been killed since its termination
began, and lived at a look after that. -/
def SeenAlive (host : Host σ) (h : Handle) (s₀ : Supervisor σ) (look : Supervisor σ)
    (failures : List TerminationFailure) : Prop :=
  ∀ f ∈ failures, f.component = h.component ∧ KilledSince s₀ look f.pid ∧ Lives host h look f.pid

theorem finish_result (h : Handle) (left : List Pid) (s : Supervisor σ) :
    (finish h left s).1 =
      .done (TerminationFailure.toResult (left.map (failureOf h.component))) := by
  unfold finish TerminationFailure.toResult
  rw [List.isEmpty_map]
  split <;> rfl

theorem mem_of_finish {left : List Pid} {f : TerminationFailure}
    (hresult : (finish h left s).1 = .done (.error failures)) (hf : f ∈ failures) :
    f.component = h.component ∧ f.pid ∈ left := by
  rw [finish_result] at hresult
  unfold TerminationFailure.toResult at hresult
  split at hresult
  · cases hresult
  · cases hresult
    obtain ⟨p, hp, rfl⟩ := List.mem_map.mp hf
    exact ⟨rfl, hp⟩

/-- A termination fails with a look after the kill. -/
theorem Underway.seenAlive_of_step (ht : s₀.Tracked h)
    (hu : Underway host h config s₀ graceful forced t s)
    (hfails : (t.step host s).1 = .done (.error failures)) :
    s ∈ lookNow .forced (t, s) ∧ SeenAlive host h s₀ s failures := by
  have htakes := hu.takes ht
  generalize t.step host s = x at htakes hfails
  cases htakes with
  | asks => cases hfails
  | kills => cases hfails
  | sleeps => cases hfails
  | waits => cases hfails
  | forces => cases hfails
  | clears =>
    rw [finish_result] at hfails
    cases hfails
  | @fails wait left s' hlook hs hleft halive htime =>
    obtain ⟨-, hpids, hreq⟩ := hu.look_forced hlook
    refine ⟨by rw [lookNow_of_some hlook, if_pos rfl]; exact List.mem_singleton_self s, ?_⟩
    intro f hf
    obtain ⟨hc, hp⟩ := mem_of_finish hfails hf
    rw [hu.handle] at hc hleft
    rw [← hleft] at hp
    obtain ⟨hp, hlives⟩ := List.mem_filter.mp hp
    rw [hpids] at hp
    exact ⟨hc, hreq.killedSince hp, of_decide_eq_true hlives⟩

theorem Underway.seenAlive_of_drive (ht : s₀.Tracked h)
    (hu : Underway host h config s₀ graceful forced t s) {passings : List (Passing σ)}
    (hrun : Launchpad.drive (step host) t s (passings.map Passing.apply) =
      (.done (.error failures), s')) :
    ∃ look ∈ looks host .forced t s (passings.map Passing.apply),
      SeenAlive host h s₀ look failures := by
  induction passings generalizing t s graceful forced with
  | nil => cases hrun
  | cons p passings ih =>
    have hleads := hu.leads ht (hu.takes ht)
    have hseen (hfails : (step host t s).1 = .done (.error failures)) :=
      hu.seenAlive_of_step ht hfails
    unfold looks
    rw [List.map_cons] at hrun ⊢
    unfold Launchpad.drive at hrun
    unfold visited
    rw [List.flatMap_cons]
    cases hstep : step host t s with
    | mk q s₁ =>
      rw [hstep] at hrun hleads hseen
      cases q with
      | again t₁ =>
        obtain ⟨look, hlook, hseen⟩ := ih (Underway.passes hleads p) hrun
        exact ⟨look, List.mem_append_right _ hlook, hseen⟩
      | done r₁ =>
        cases hrun
        obtain ⟨hlook, hseen⟩ := hseen rfl
        exact ⟨s, List.mem_append_left _ hlook, hseen⟩

/-- Those that a termination tells of have been killed by it, and lived at a look after that. -/
theorem seenAlive_of_drive (ht : s.Tracked h) {passings : List (Passing σ)}
    (hrun : drive (step host) { handle := h, config } s (passings.map Passing.apply) =
      (.done (.error failures), s')) :
    ∃ look ∈ looks host .forced { handle := h, config } s (passings.map Passing.apply),
      SeenAlive host h s look failures := by
  have hleads : Leads host h config s [] [] (step host { handle := h, config } s) := leads_entry ht
  cases passings with
  | nil => cases hrun
  | cons p passings =>
    unfold looks
    rw [List.map_cons] at hrun ⊢
    unfold drive at hrun
    unfold visited
    rw [List.flatMap_cons]
    cases hstep : step host { handle := h, config } s with
    | mk q s₁ =>
      rw [hstep] at hrun hleads
      cases q with
      | again t₁ =>
        obtain ⟨look, hlook, hseen⟩ :=
          (Underway.passes hleads p).seenAlive_of_drive ht hrun
        exact ⟨look, List.mem_append_right _ hlook, hseen⟩
      | done r₁ =>
        -- No look has been taken yet, so nobody can be told of.
        cases hrun
        obtain ⟨hne, hnil⟩ := TwoPasses.failures hleads failures rfl
        exact absurd hnil hne

end Termination

namespace TerminationFailure

/-! ## The components of failures -/

theorem withoutRepeats_append {cs rest : List Component} {c : Component} (hne : cs ≠ [])
    (hcs : ∀ d ∈ cs, d = c) (hrest : c ∉ rest) :
    withoutRepeats (cs ++ rest) = c :: withoutRepeats rest := by
  induction cs with
  | nil => exact absurd rfl hne
  | cons d cs ih =>
    obtain ⟨rfl, hcs⟩ := List.forall_mem_cons.mp hcs
    cases cs with
    | nil =>
      cases rest with
      | nil => rfl
      | cons a rest =>
        have hdiffers : d ≠ a := fun heq => hrest (heq ▸ List.mem_cons_self)
        exact if_neg hdiffers
    | cons a cs =>
      obtain rfl : a = d := hcs a List.mem_cons_self
      have hskips : withoutRepeats (a :: a :: cs ++ rest) = withoutRepeats (a :: cs ++ rest) :=
        if_pos rfl
      rw [hskips, ih (List.cons_ne_nil a cs) hcs]

/-- The failures of one component in front of those of others add this component. -/
theorem components_append {fs rest : List TerminationFailure} {c : Component} (hne : fs ≠ [])
    (hfs : ∀ f ∈ fs, f.component = c) (hrest : ∀ f ∈ rest, f.component ≠ c) :
    components (fs ++ rest) = c :: components rest := by
  unfold components
  rw [List.map_append]
  refine withoutRepeats_append (fun hnil => hne (List.map_eq_nil_iff.mp hnil))
    (List.forall_mem_map.mpr hfs) fun hmem => ?_
  obtain ⟨f, hf, hc⟩ := List.mem_map.mp hmem
  exact hrest f hf hc

end TerminationFailure

namespace Sweep

open Supervisor Termination

variable {σ : Type} {host : Host σ} {config : TerminationConfig} {s s' s'' : Supervisor σ}
  {w : Sweep} {R : Result} {c : Component}

/-! ## Turns -/

/-- Nothing happens but that time passes. -/
def Elapses (s s' : Supervisor σ) : Prop := ∃ p : Passing σ, s' = p.apply s

theorem Elapses.trans (h₁ : Elapses s s') (h₂ : Elapses s' s'') : Elapses s s'' := by
  obtain ⟨p, rfl⟩ := h₁
  obtain ⟨q, rfl⟩ := h₂
  refine ⟨⟨p.time + q.time, q.change ∘ p.change⟩, ?_⟩
  unfold Passing.apply
  rw [← Nat.add_assoc]
  rfl

theorem Elapses.record? (h : Elapses s s') (c : Component) : s'.record? c = s.record? c := by
  obtain ⟨p, rfl⟩ := h
  rfl

/-- The turn of a process in a sweep: its termination, from the state before it to the one after
it. -/
structure Turn (σ : Type) where
  handle : Handle
  before : Supervisor σ
  passings : List (Passing σ)
  result : Result
  after : Supervisor σ

def Turn.changes (u : Turn σ) : List (Supervisor σ → Supervisor σ) := u.passings.map Passing.apply

def Turn.termination (u : Turn σ) (config : TerminationConfig) : Termination :=
  { handle := u.handle, config }

/-- The turns of a sweep, one after the other, with nothing but time before, between and after
them. -/
inductive Turns (host : Host σ) (config : TerminationConfig) :
    Supervisor σ → List (Turn σ) → Supervisor σ → Prop
  | nothing {s s' : Supervisor σ} (helapses : Elapses s s') : Turns host config s [] s'
  | next {s s' : Supervisor σ} {u : Turn σ} {us : List (Turn σ)} (helapses : Elapses s u.before)
      (hrun : drive (Termination.step host) (u.termination config) u.before u.changes =
        (.done u.result, u.after))
      (hrest : Turns host config u.after us s') : Turns host config s (u :: us) s'

theorem Turns.later {us : List (Turn σ)} (helapses : Elapses s s')
    (hturns : Turns host config s' us s'') : Turns host config s us s'' := by
  cases hturns with
  | nothing h => exact .nothing (helapses.trans h)
  | next h hrun hrest => exact .next (helapses.trans h) hrun hrest

def failuresIn (us : List (Turn σ)) : List TerminationFailure :=
  us.flatMap fun u => failuresOf u.result

/-- What is left of a sweep: the rest of the termination that is under way, and a turn for each
process after it. -/
def Unfolds (host : Host σ) (w : Sweep) (s : Supervisor σ) (R : Result) (s' : Supervisor σ) :
    Prop :=
  ∃ (told : List TerminationFailure) (t : Supervisor σ) (us : List (Turn σ)),
    (match w.current with
      | none => told = [] ∧ t = s
      | some current => ∃ (passings : List (Passing σ)) (r : Result),
        drive (Termination.step host) current s (passings.map Passing.apply) = (.done r, t) ∧
          told = failuresOf r) ∧
    Turns host w.config t us s' ∧ us.map (·.handle) = w.queue ∧
    R = TerminationFailure.toResult (w.failures ++ told ++ failuresIn us)

theorem unfolds_of_drive {passings : List (Passing σ)}
    (hrun : drive (step host) w s (passings.map Passing.apply) = (.done R, s')) :
    Unfolds host w s R s' := by
  induction passings generalizing w s with
  | nil => cases hrun
  | cons p passings ih =>
    have hdoes := step_does host w s
    rw [List.map_cons] at hrun
    unfold drive at hrun
    cases hstep : step host w s with
    | mk q s₁ =>
      rw [hstep] at hrun hdoes
      dsimp only at hdoes
      cases q with
      | again w₁ =>
        obtain ⟨told, t, us, hcurrent, hturns, hqueue, hR⟩ := ih hrun
        unfold Unfolds
        cases hdoes with
        | terminates ht hgoes =>
          -- The rest of the turn is longer by this step.
          obtain ⟨passings', r, hends, htold⟩ := hcurrent
          rw [ht]
          exact ⟨told, t, us, ⟨p :: passings', r, (drive_again hgoes _ _).trans hends, htold⟩,
            hturns, hqueue, hR⟩
        | @terminated t₁ r _ ht hends =>
          -- This step is the rest of the turn, and time passes before the next one.
          obtain ⟨rfl, rfl⟩ := hcurrent
          have hone : drive (Termination.step host) t₁ s ([p].map Passing.apply) =
              (.done r, s₁) := by
            rw [List.map_cons, drive, hends]
          rw [ht]
          refine ⟨failuresOf r, s₁, us, ⟨[p], r, hone, rfl⟩, hturns.later ⟨p, rfl⟩, hqueue, ?_⟩
          rw [hR, List.append_nil]
        | @takes h rest hnone hfirst =>
          -- What is the rest of a turn after this step is all of it.
          obtain ⟨passings', r, hends, rfl⟩ := hcurrent
          rw [hnone, hfirst]
          refine ⟨[], s, ⟨h, p.apply s, passings', r, t⟩ :: us, ⟨rfl, rfl⟩,
            .next ⟨p, rfl⟩ hends hturns, ?_, ?_⟩
          · rw [List.map_cons, hqueue]
          · rw [hR, List.append_nil, List.append_assoc]
            rfl
      | done r₁ =>
        cases hrun
        cases hdoes with
        | ends hnone hempty =>
          unfold Unfolds
          rw [hnone, hempty]
          exact ⟨[], _, [], ⟨rfl, rfl⟩, .nothing ⟨{}, rfl⟩, rfl, by simp [failuresIn]⟩

/-- A sweep takes its turns: one for each process that is tracked at its start, the last component
first. It ends with all that they tell of. -/
theorem turns_of_drive {passings : List (Passing σ)}
    (hrun : drive (step host) (start config s) s (passings.map Passing.apply) = (.done R, s')) :
    ∃ us, Turns host config s us s' ∧ us.map (·.handle) = s.handles.reverse ∧
      R = TerminationFailure.toResult (failuresIn us) := by
  obtain ⟨told, t, us, ⟨rfl, rfl⟩, hturns, hqueue, hR⟩ := unfolds_of_drive hrun
  exact ⟨us, hturns, hqueue, hR⟩

/-! ## What a turn leaves -/

def Turn.looks (u : Turn σ) (host : Host σ) (config : TerminationConfig) (pass : Pass) :
    List (Supervisor σ) :=
  Termination.looks host pass (u.termination config) u.before u.changes

/-- What a turn of a sweep from one state to another comes to: it goes through its two passes, and
nothing but it touches the record of its process. -/
structure Turn.Settles (u : Turn σ) (host : Host σ) (config : TerminationConfig)
    (s s' : Supervisor σ) : Prop where
  tracked : u.before.Tracked u.handle
  passes : TwoPasses host u.handle config u.before (u.looks host config .graceful)
    (u.looks host config .forced) u.result u.after
  seen : ∀ failures, u.result = .error failures →
    ∃ look ∈ u.looks host config .forced, SeenAlive host u.handle u.before look failures
  before : u.before.record? u.handle.component = s.record? u.handle.component
  after : s'.record? u.handle.component = u.after.record? u.handle.component

theorem Turn.settles {u : Turn σ} (ht : u.before.Tracked u.handle)
    (hrun : drive (Termination.step host) (u.termination config) u.before u.changes =
      (.done u.result, u.after)) : u.Settles host config u.before u.after where
  tracked := ht
  passes := twoPasses_of_drive ht hrun
  seen _ hfailures := seenAlive_of_drive ht (hfailures ▸ hrun)
  before := rfl
  after := rfl

theorem tracked_of_record? {h : Handle} (hs : s'.record? h.component = s.record? h.component)
    (ht : s.Tracked h) : s'.Tracked h := by
  obtain ⟨r, hr, hp⟩ := ht
  exact ⟨r, hs.trans hr, hp⟩

/-- The turns of a sweep touch the records of their own processes, each once. -/
theorem Turns.settle {us : List (Turn σ)} (hturns : Turns host config s us s')
    (htracked : ∀ u ∈ us, s.Tracked u.handle)
    (hnodup : (us.map fun u => u.handle.component).Nodup) :
    (∀ c, c ∉ us.map (fun u => u.handle.component) → s'.record? c = s.record? c) ∧
      ∀ u ∈ us, u.Settles host config s s' := by
  induction hturns with
  | nothing helapses => exact ⟨fun c _ => helapses.record? c, List.forall_mem_nil _⟩
  | @next s s' u us helapses hrun hrest ih =>
    obtain ⟨ht, htracked⟩ := List.forall_mem_cons.mp htracked
    rw [List.map_cons, List.nodup_cons] at hnodup
    obtain ⟨hnot, hnodup⟩ := hnodup
    have hsettles := Turn.settles (tracked_of_record? (helapses.record? _) ht) hrun
    have hothers (c : Component) (hc : c ≠ u.handle.component) : u.after.record? c = s.record? c :=
      (hsettles.passes.others c hc).trans (helapses.record? c)
    have hne : ∀ v ∈ us, v.handle.component ≠ u.handle.component :=
      fun v hv heq => hnot (heq ▸ List.mem_map_of_mem hv)
    obtain ⟨hrecords, hsettle⟩ := ih
      (fun v hv => tracked_of_record? (hothers _ (hne v hv)) (htracked v hv)) hnodup
    refine ⟨fun c hc => ?_, List.forall_mem_cons.mpr ⟨?_, fun v hv => ?_⟩⟩
    · rw [List.map_cons, List.mem_cons, not_or] at hc
      exact (hrecords c hc.2).trans (hothers c hc.1)
    · exact { hsettles with before := helapses.record? _, after := hrecords _ hnot }
    · have hv' := hsettle v hv
      exact { hv' with before := hv'.before.trans (hothers _ (hne v hv)) }

/-! ## A sweep comes to an end -/

theorem step_of_current {t t' : Termination} (ht : w.current = some t)
    (hstep : t.step host s = (.again t', s')) :
    w.step host s = (.again { w with current := some t' }, s') := by
  unfold step
  rw [ht]
  dsimp only
  rw [hstep]
  rfl

theorem step_of_current_done {t : Termination} {r : Result} (ht : w.current = some t)
    (hstep : t.step host s = (.done r, s')) :
    w.step host s =
      (.again { w with current := none, failures := w.failures ++ failuresOf r }, s') := by
  unfold step
  rw [ht]
  dsimp only
  rw [hstep]
  rfl

/-- The changes up to a step, while time passes without an end. -/
def during (ps : Nat → Passing σ) (n : Nat) : List (Supervisor σ → Supervisor σ) :=
  ((List.range n).map ps).map Passing.apply

section Endless

variable {ps : Nat → Passing σ} {n : Nat} {w₀ w' : Sweep} {s₀ : Supervisor σ}

theorem drive_concat {κ α S : Type} {step : κ → S → Progress κ α × S} {k k' : κ} {a b : S}
    {changes : List (S → S)} (hrun : drive step k a changes = (.again k', b)) (change : S → S) :
    drive step k a (changes ++ [change]) = drive step k' b [change] := by
  induction changes generalizing k a with
  | nil =>
    cases hrun
    rfl
  | cons first changes ih =>
    rw [List.cons_append]
    unfold drive at hrun ⊢
    cases hstep : step k a with
    | mk q b₁ =>
      rw [hstep] at hrun
      cases q with
      | again k₁ => exact ih hrun
      | done r => cases hrun

/-- Where an endless sweep stands after a number of steps. -/
def Reaches (host : Host σ) (ps : Nat → Passing σ) (w₀ : Sweep) (s₀ : Supervisor σ) (n : Nat)
    (w : Sweep) (s : Supervisor σ) : Prop :=
  drive (step host) w₀ s₀ (during ps n) = (.again w, s)

theorem during_succ (ps : Nat → Passing σ) (n : Nat) :
    during ps (n + 1) = during ps n ++ [(ps n).apply] := by
  unfold during
  rw [List.range_succ, List.map_append, List.map_append]
  rfl

theorem Reaches.again (hn : Reaches host ps w₀ s₀ n w s)
    (hstep : step host w s = (.again w', s')) :
    Reaches host ps w₀ s₀ (n + 1) w' ((ps n).apply s') := by
  unfold Reaches
  rw [during_succ, drive_concat hn, drive, hstep]
  rfl

theorem Reaches.done (hn : Reaches host ps w₀ s₀ n w s) (hstep : step host w s = (.done R, s')) :
    drive (step host) w₀ s₀ (during ps (n + 1)) = (.done R, s') := by
  rw [during_succ, drive_concat hn, drive, hstep]

/-- A step of the sweep is due again and again, as long as it goes on. -/
def DueAgain (host : Host σ) (ps : Nat → Passing σ) (w₀ : Sweep) (s₀ : Supervisor σ) : Prop :=
  ∀ n, ∃ d, ∀ w s, Reaches host ps w₀ s₀ (n + d) w s → w.wakeAt ≤ s.now

/-- A step of the termination that is under way ends it, or leaves no more due steps than before,
and a due one leaves fewer. -/
theorem Reaches.goes_on {t : Termination} {b : Supervisor σ} {h : Handle}
    {graceful forced : List (Supervisor σ)} (hn : Reaches host ps w₀ s₀ n w s)
    (ht : w.current = some t) (hb : b.Tracked h)
    (hu : Underway host h config b graceful forced t s) :
    (∃ w' s', Reaches host ps w₀ s₀ (n + 1) w' s' ∧ w'.current = none ∧ w'.queue = w.queue) ∨
    ∃ t' graceful' forced' s',
      Reaches host ps w₀ s₀ (n + 1) { w with current := some t' } s' ∧
      Underway host h config b graceful' forced' t' s' ∧ t'.stepsLeft ≤ t.stepsLeft ∧
      (w.wakeAt ≤ s.now → t'.stepsLeft < t.stepsLeft) := by
  have htakes := hu.takes hb
  have hleads := hu.leads hb htakes
  cases hstep : t.step host s with
  | mk q s₁ =>
    rw [hstep] at htakes hleads
    cases q with
    | done r => exact .inl ⟨_, _, hn.again (step_of_current_done ht hstep), rfl, rfl⟩
    | again t₁ =>
      have hfewer := htakes.fewer rfl
      refine .inr ⟨t₁, _, _, _, hn.again (step_of_current ht hstep),
        Underway.passes hleads (ps n), Nat.le_of_add_right_le hfewer, fun hwake => ?_⟩
      unfold wakeAt at hwake
      rw [ht] at hwake
      have hisDue : isDue (t, s) = true := decide_eq_true hwake
      rwa [hisDue, if_pos rfl] at hfewer

/-- The termination that is under way ends. The induction is on the due steps that are left to it,
and from one due step to the next on the steps until then. -/
theorem Reaches.ends_turn {t : Termination} {b : Supervisor σ} {h : Handle}
    {graceful forced : List (Supervisor σ)} (hdue : DueAgain host ps w₀ s₀)
    (hn : Reaches host ps w₀ s₀ n w s) (ht : w.current = some t) (hb : b.Tracked h)
    (hu : Underway host h config b graceful forced t s) :
    ∃ m w' s', Reaches host ps w₀ s₀ m w' s' ∧ w'.current = none ∧ w'.queue = w.queue := by
  induction hk : t.stepsLeft using Nat.strongRecOn
    generalizing t graceful forced n w s with
  | ind k ihk =>
    obtain ⟨d, hd⟩ := hdue n
    induction d generalizing t graceful forced n w s with
    | zero =>
      rcases hn.goes_on ht hb hu with hends | ⟨t', _, _, s', hn', hu', -, hless⟩
      · exact ⟨n + 1, hends⟩
      · exact (ihk _ (hk ▸ hless (hd w s hn)) hn' rfl hu' rfl :)
    | succ d ihd =>
      rcases hn.goes_on ht hb hu with hends | ⟨t', _, _, s', hn', hu', hle, -⟩
      · exact ⟨n + 1, hends⟩
      · rcases Nat.lt_or_eq_of_le hle with hlt | heq
        · exact (ihk _ (hk ▸ hlt) hn' rfl hu' rfl :)
        · have hd' : ∀ w s, Reaches host ps w₀ s₀ (n + 1 + d) w s → w.wakeAt ≤ s.now := by
            rw [Nat.add_right_comm]
            exact hd
          exact (ihd hn' rfl hu' (heq.trans hk) hd' :)

/-- Between two terminations a sweep goes on to the next one, until none is left. -/
theorem Reaches.returns (hdue : DueAgain host ps w₀ s₀) {queue : List Handle} {n : Nat} {w : Sweep}
    {s : Supervisor σ} (hn : Reaches host ps w₀ s₀ n w s) (hnone : w.current = none)
    (hqueue : w.queue = queue) :
    ∃ m R s', drive (step host) w₀ s₀ (during ps m) = (.done R, s') := by
  induction queue generalizing n w s with
  | nil =>
    have hstep : step host w s = (.done (TerminationFailure.toResult w.failures), s) := by
      unfold step
      rw [hnone, hqueue]
    exact ⟨n + 1, _, _, hn.done hstep⟩
  | cons h rest ih =>
    have hstep : step host w s = (.again
        { w with current := some { handle := h, config := w.config }, queue := rest }, s) := by
      unfold step
      rw [hnone, hqueue]
    have hn' := hn.again hstep
    -- The first step of the next termination ends it, or it is under way then.
    cases hentry : Termination.step host { handle := h, config := w.config } ((ps n).apply s) with
    | mk q s₁ =>
      cases q with
      | done r => exact ih (hn'.again (step_of_current_done rfl hentry)) rfl rfl
      | again t₁ =>
        have hn'' := hn'.again (step_of_current rfl hentry)
        have htracked : ((ps n).apply s).Tracked h := by
          by_contra hnot
          unfold Termination.step enter at hentry
          dsimp only at hentry
          rw [observeTracked_of_not_tracked hnot] at hentry
          cases hentry
        have hleads : Leads host h w.config ((ps n).apply s) [] []
            (Termination.step host { handle := h, config := w.config } ((ps n).apply s)) :=
          leads_entry htracked
        rw [hentry] at hleads
        obtain ⟨m, w', s', hm, hnone', hqueue'⟩ :=
          hn''.ends_turn hdue rfl htracked (Underway.passes hleads (ps (n + 1)))
        exact ih hm hnone' hqueue'

end Endless

/-! ## What a sweep ends with -/

/-- Whether a turn has failed. -/
def Turn.failed (u : Turn σ) : Bool := !(failuresOf u.result).isEmpty

variable {u : Turn σ} {us : List (Turn σ)}

theorem Turn.failed_iff_ne_nil : u.failed = true ↔ failuresOf u.result ≠ [] := by
  unfold Turn.failed
  rw [Bool.not_eq_true', List.isEmpty_eq_false_iff]

theorem Turn.Settles.failed_iff (hu : u.Settles host config s s') :
    u.failed = true ↔ ∃ failures, u.result = .error failures := by
  rw [Turn.failed_iff_ne_nil]
  cases hresult : u.result with
  | ok => exact iff_of_false (fun hne => hne rfl) fun ⟨_, heq⟩ => nomatch heq
  | error failures =>
    exact iff_of_true (hu.passes.failures failures hresult).1 ⟨failures, rfl⟩

theorem Turn.Settles.isSome_record?_iff (hu : u.Settles host config s s') :
    (s'.record? u.handle.component).isSome = true ↔ u.failed = true := by
  rw [hu.after, hu.failed_iff]
  cases hresult : u.result with
  | ok =>
    rw [hu.passes.ok_record hresult]
    exact iff_of_false Bool.false_ne_true fun ⟨_, heq⟩ => nomatch heq
  | error failures =>
    obtain ⟨q, -, hq⟩ := hu.passes.error_record failures hresult
    rw [hq]
    exact iff_of_true rfl ⟨failures, rfl⟩

theorem Turn.Settles.hasFailed (hu : u.Settles host config s s') {r : Record}
    (hr : s'.record? u.handle.component = some r) : r.HasFailed := by
  rw [hu.after] at hr
  cases hresult : u.result with
  | ok => cases hr.symm.trans (hu.passes.ok_record hresult)
  | error failures =>
    obtain ⟨q, -, hq⟩ := hu.passes.error_record failures hresult
    cases hr.symm.trans hq
    exact ⟨_, rfl⟩

theorem Turn.Settles.component_eq (hu : u.Settles host config s s') {f : TerminationFailure}
    (hf : f ∈ failuresOf u.result) : f.component = u.handle.component := by
  cases hresult : u.result with
  | ok =>
    rw [hresult] at hf
    exact absurd hf List.not_mem_nil
  | error failures =>
    rw [hresult, failuresOf, (hu.passes.failures failures hresult).2] at hf
    obtain ⟨p, -, rfl⟩ := List.mem_map.mp hf
    rfl

/-- The components of the failures of some turns are those of the turns that have failed. -/
theorem components_failuresIn (hus : ∀ u ∈ us, u.Settles host config s s')
    (hnodup : (us.map fun u => u.handle.component).Nodup) :
    TerminationFailure.components (failuresIn us) =
      (us.filter fun u => u.failed).map fun u => u.handle.component := by
  induction us with
  | nil => rfl
  | cons u us ih =>
    obtain ⟨hu, hus⟩ := List.forall_mem_cons.mp hus
    rw [List.map_cons, List.nodup_cons] at hnodup
    obtain ⟨hnot, hnodup⟩ := hnodup
    have hsplit : failuresIn (u :: us) = failuresOf u.result ++ failuresIn us :=
      List.flatMap_cons
    rw [hsplit]
    cases hfailed : u.failed with
    | false =>
      have hnil : failuresOf u.result = [] := by
        by_contra hne
        cases hfailed.symm.trans (Turn.failed_iff_ne_nil.mpr hne)
      rw [hnil, List.nil_append, ih hus hnodup,
        List.filter_cons_of_neg (by rw [hfailed]; exact Bool.false_ne_true)]
    | true =>
      have hne := Turn.failed_iff_ne_nil.mp hfailed
      have hothers : ∀ f ∈ failuresIn us, f.component ≠ u.handle.component := by
        intro f hf heq
        obtain ⟨v, hv, hf⟩ := List.mem_flatMap.mp hf
        rw [(hus v hv).component_eq hf] at heq
        exact hnot (heq ▸ List.mem_map_of_mem hv)
      rw [TerminationFailure.components_append hne (fun f => hu.component_eq) hothers,
        ih hus hnodup, List.filter_cons_of_pos hfailed, List.map_cons]

theorem failuresIn_eq_nil_iff (hus : ∀ u ∈ us, u.Settles host config s s') :
    failuresIn us = [] ↔ ∀ u ∈ us, u.result = .ok () := by
  unfold failuresIn
  rw [List.flatMap_eq_nil_iff]
  refine forall₂_congr fun u hu => ?_
  cases hresult : u.result with
  | ok => exact iff_of_true rfl rfl
  | error failures => exact iff_of_false ((hus u hu).passes.failures failures hresult).1 nofun

theorem toResult_eq_ok_iff {failures : List TerminationFailure} :
    TerminationFailure.toResult failures = .ok () ↔ failures = [] :=
  ⟨eq_nil_of_toResult, fun hnil => hnil ▸ rfl⟩

theorem map_component_handles (s : Supervisor σ) :
    s.handles.map (·.component) =
      Component.launchOrder.filter fun c => (s.record? c).isSome := by
  unfold handles
  rw [List.map_filterMap, ← List.filterMap_eq_filter]
  congr 1
  funext c
  cases hrec : s.record? c with
  | none => simp [hrec, Option.guard]
  | some r => simp [hrec, Option.guard]

/-- A sweep that nothing else comes between returns, as long as its steps are due again and again.
It takes one turn for each component that has a record, the last one in launch order first,
whatever the turns before have come to. It succeeds just if all of them do. Otherwise it fails with
all that they tell of: the components of its failures are those that still have a record, each once,
every such record says so, and each process that is named has been seen alive after it was
killed. -/
theorem sweep_reports_what_is_left (host : Host σ) (config : TerminationConfig)
    (s : Supervisor σ) :
    (∀ ps : Nat → Passing σ, DueAgain host ps (start config s) s →
      ∃ n R s', drive (step host) (start config s) s (during ps n) = (.done R, s')) ∧
    ∀ (passings : List (Passing σ)) (R : Result) (s' : Supervisor σ),
      drive (step host) (start config s) s (passings.map Passing.apply) = (.done R, s') →
      ∃ us, Turns host config s us s' ∧ us.map (·.handle) = s.handles.reverse ∧
        us.map (fun u => u.handle.component) =
          (Component.launchOrder.filter fun c => (s.record? c).isSome).reverse ∧
        (∀ u ∈ us, u.Settles host config s s') ∧
        (R = .ok () ↔ ∀ u ∈ us, u.result = .ok ()) ∧
        (R = .ok () → ∀ c, s'.record? c = none) ∧
        ∀ failures, R = .error failures →
          failures = us.flatMap (fun u => failuresOf u.result) ∧
          (TerminationFailure.components failures).Nodup ∧
          (∀ c, c ∈ TerminationFailure.components failures ↔ (s'.record? c).isSome = true) ∧
          (∀ c r, s'.record? c = some r → r.HasFailed) ∧
          ∀ f ∈ failures, ∃ u ∈ us, u.handle.component = f.component ∧
            ∃ look ∈ u.looks host config .forced, KilledSince u.before look f.pid ∧
              Lives host u.handle look f.pid := by
  refine ⟨fun ps hdue => ?_, fun passings R s' hrun => ?_⟩
  · have hstart : Reaches host ps (start config s) s 0 (start config s) s := rfl
    exact hstart.returns hdue rfl rfl
  obtain ⟨us, hturns, hhandles, rfl⟩ := turns_of_drive hrun
  have hcomponents : us.map (fun u => u.handle.component) =
      (Component.launchOrder.filter fun c => (s.record? c).isSome).reverse := by
    rw [← map_component_handles, ← List.map_reverse, ← hhandles, List.map_map]
    rfl
  have hnodup : (us.map fun u => u.handle.component).Nodup := by
    rw [hcomponents, List.nodup_reverse]
    exact (by decide : Component.launchOrder.Nodup).filter _
  have htracked : ∀ u ∈ us, s.Tracked u.handle := fun u hu =>
    mem_handles.mp (List.mem_reverse.mp (hhandles ▸ List.mem_map_of_mem hu))
  obtain ⟨hrecords, hsettle⟩ := hturns.settle htracked hnodup
  -- A record that is left is that of a process whose turn has come.
  have hleft (c : Component) (hc : (s'.record? c).isSome = true) :
      ∃ u ∈ us, u.handle.component = c := by
    by_contra hnot
    have hmem : c ∉ us.map fun u => u.handle.component := fun hmem =>
      hnot (List.mem_map.mp hmem)
    rw [hrecords c hmem] at hc
    refine hmem (hcomponents ▸ List.mem_reverse.mpr (List.mem_filter.mpr ⟨?_, hc⟩))
    exact Component.mem_launchOrder c
  have hok : TerminationFailure.toResult (failuresIn us) = .ok () ↔ ∀ u ∈ us, u.result = .ok () :=
    toResult_eq_ok_iff.trans (failuresIn_eq_nil_iff hsettle)
  refine ⟨us, hturns, hhandles, hcomponents, hsettle, hok, fun hall c => ?_,
    fun failures hfails => ?_⟩
  · cases hrec : s'.record? c with
    | none => rfl
    | some r =>
      have hsome : (s'.record? c).isSome = true := hrec ▸ rfl
      obtain ⟨u, hu, rfl⟩ := hleft c hsome
      obtain ⟨failures, hresult⟩ :=
        (hsettle u hu).failed_iff.mp ((hsettle u hu).isSome_record?_iff.mp hsome)
      cases (hok.mp hall u hu).symm.trans hresult
  · have hfailures : failures = failuresIn us := by
      have heq := failuresOf_toResult (failuresIn us)
      rwa [hfails] at heq
    have hcs := components_failuresIn hsettle hnodup
    rw [← hfailures] at hcs
    refine ⟨hfailures, ?_, fun c => ?_, fun c r hr => ?_, fun f hf => ?_⟩
    · rw [hcs]
      exact hnodup.sublist (List.filter_sublist.map _)
    · rw [hcs, List.mem_map]
      constructor
      · rintro ⟨u, hu, rfl⟩
        obtain ⟨hu, hfailed⟩ := List.mem_filter.mp hu
        exact (hsettle u hu).isSome_record?_iff.mpr hfailed
      · intro hsome
        obtain ⟨u, hu, rfl⟩ := hleft c hsome
        exact ⟨u, List.mem_filter.mpr ⟨hu, (hsettle u hu).isSome_record?_iff.mp hsome⟩, rfl⟩
    · obtain ⟨u, hu, rfl⟩ := hleft c (hr ▸ rfl)
      exact (hsettle u hu).hasFailed hr
    · rw [hfailures] at hf
      obtain ⟨u, hu, hf⟩ := List.mem_flatMap.mp hf
      obtain ⟨fs, hresult⟩ : ∃ fs, u.result = .error fs :=
        (hsettle u hu).failed_iff.mp (Turn.failed_iff_ne_nil.mpr (List.ne_nil_of_mem hf))
      obtain ⟨look, hlook, hseen⟩ := (hsettle u hu).seen fs hresult
      rw [hresult] at hf
      obtain ⟨hc, hkilled, hlives⟩ := hseen f hf
      exact ⟨u, hu, hc.symm, look, hlook, hkilled, hlives⟩

end Sweep

end Launchpad
