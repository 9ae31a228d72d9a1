import Launchpad.Proofs.Supervisor.StaleHandles

/-!
# How the status of a record changes

A record begins as that of a process that starts. From then on a move changes its status in no more
than five ways (`Alters`): a look finds that the process has exited, or the host cannot tell; a wait
finds it ready; what is ready is marked as running; a termination of it ends with survivors. Only
the last one is open to a record that is not live. So nothing brings such a record back to life, be
it a probe that answers late, and its exit code stays until a termination fails
(`dead_records_stay_dead`).

What a look leaves is said by `Record.Seen`. `Noticed` says it of all records, whichever calls have
looked at them, and allows that records are let go.
-/

namespace Launchpad

namespace Record

/-- A second look, at a process that stands as before, finds nothing new. -/
theorem Seen.trans {state : ChildState} {r r' r'' : Record} (h : Seen state r r')
    (h' : Seen state r' r'') : Seen state r r'' := by
  cases h with
  | stays => exact h'
  | exited hlive hstate =>
    cases h' with
    | stays => exact .exited hlive hstate
    | exited hlive' => cases hlive'
    | lost hlive' => cases hlive'
  | lost hlive hstate =>
    cases h' with
    | stays => exact .lost hlive hstate
    | exited hlive' => cases hlive'
    | lost hlive' => cases hlive'

/-- A record that is live after a look has not changed. -/
theorem Seen.eq_of_isLive {state : ChildState} {r r' : Record} (h : Seen state r r')
    (hlive : r'.status.isLive = true) : r' = r := by
  cases h with
  | stays => rfl
  | exited => cases hlive
  | lost => cases hlive

theorem Seen.pid_eq {state : ChildState} {r r' : Record} (h : Seen state r r') :
    r'.pid = r.pid := by
  cases h <;> rfl

end Record

/-! ## What looks leave -/

namespace Supervisor

variable {σ : Type} {host : Host σ} {s s' s'' : Supervisor σ} {h : Handle} {c : Component}

/-- Every record is what looks have made of one that there was before. -/
def Noticed (host : Host σ) (s s' : Supervisor σ) : Prop :=
  ∀ c r', s'.record? c = some r' →
    ∃ r, s.record? c = some r ∧ r.Seen (host.childState s.now r.pid s.world) r'

theorem noticed_of_table (ht : s'.table = s.table) : Noticed host s s' := by
  intro c r hr
  rw [record?, ht] at hr
  exact ⟨r, hr, .stays r⟩

/-- Looks come one after the other, while the machine stands still. -/
theorem Noticed.trans (h₁ : Noticed host s s') (hs : Still s s') (h₂ : Noticed host s' s'') :
    Noticed host s s'' := by
  intro c r'' hr''
  obtain ⟨r', hr', hseen'⟩ := h₂ c r'' hr''
  obtain ⟨r, hr, hseen⟩ := h₁ c r' hr'
  rw [hs.world, hs.now, hseen.pid_eq] at hseen'
  exact ⟨r, hr, hseen.trans hseen'⟩

/-- The records change no more after the looks, or some are let go. -/
theorem Noticed.weaken (h₁ : Noticed host s s')
    (h₂ : ∀ c r, s''.record? c = some r → s'.record? c = some r) : Noticed host s s'' :=
  fun c r hr => h₁ c r (h₂ c r hr)

/-- Only the process of one component has been looked at. -/
theorem noticed_of_touches (ht : Touches c s s')
    (hseen : Option.Rel (fun r r' => r.Seen (host.childState s.now r.pid s.world) r')
      (s.record? c) (s'.record? c)) : Noticed host s s' := by
  intro d r' hr'
  by_cases hd : d = c
  · subst hd
    rw [hr'] at hseen
    generalize s.record? d = r? at hseen
    cases hseen with
    | some hseen => exact ⟨_, rfl, hseen⟩
  · rw [ht.others d hd] at hr'
    exact ⟨r', hr', .stays r'⟩

theorem noticed_observe (host : Host σ) (c : Component) (s : Supervisor σ) :
    Noticed host s (s.observe host c).2 :=
  noticed_of_touches (touches_observe host c s) (seen_observe host c s)

theorem noticed_observeTracked (host : Host σ) (h : Handle) (s : Supervisor σ) :
    Noticed host s (s.observeTracked host h).2 := by
  unfold observeTracked
  split
  · exact noticed_of_table rfl
  · exact noticed_observe host h.component s

theorem noticed_refresh (host : Host σ) (s : Supervisor σ) :
    Noticed host s (s.refresh host).2 := by
  have h (cs : List Component) :
      ∀ s, Noticed host s (cs.foldl (fun s c => (s.observe host c).2) s) := by
    induction cs with
    | nil => exact fun _ => noticed_of_table rfl
    | cons c cs ih =>
      intro s
      exact (noticed_observe host c s).trans (still_observe host c s) (ih _)
  exact h _ s

/-- Besides, the record of one process may have changed its status in some other way. -/
def NoticedBut (host : Host σ) (h : Handle) (may : ProcessStatus → ProcessStatus → Prop)
    (s s' : Supervisor σ) : Prop :=
  ∀ c r', s'.record? c = some r' → ∃ r, s.record? c = some r ∧ r.pid = r'.pid ∧
    (r.Seen (host.childState s.now r.pid s.world) r' ∨
      h = ⟨c, r'.pid⟩ ∧ may r.status r'.status)

theorem Noticed.but {may : ProcessStatus → ProcessStatus → Prop} (hs : Noticed host s s') :
    NoticedBut host h may s s' := by
  intro c r' hr'
  obtain ⟨r, hr, hseen⟩ := hs c r' hr'
  exact ⟨r, hr, hseen.pid_eq.symm, .inl hseen⟩

/-- The record of the process has been replaced after the looks. -/
theorem Noticed.put {may : ProcessStatus → ProcessStatus → Prop} {q : Record}
    {status : ProcessStatus} (hs : Noticed host s s') (hq : s'.tracked? h = some q)
    (hmay : ∀ r : Record, r.Seen (host.childState s.now r.pid s.world) q → may r.status status) :
    NoticedBut host h may s (s'.putRecord h.component (some { q with status })) := by
  obtain ⟨hrec, hp⟩ := tracked?_eq_some.mp hq
  intro c r' hr'
  rw [record?_putRecord] at hr'
  split at hr'
  · next hc =>
    subst hc
    cases hr'
    obtain ⟨r, hr, hseen⟩ := hs h.component q hrec
    exact ⟨r, hr, hseen.pid_eq.symm,
      .inr ⟨congrArg (Handle.mk h.component) hp.symm, hmay r hseen⟩⟩
  · exact hs.but c r' hr'

end Supervisor

namespace ExitWait

open Supervisor

variable {σ : Type} {host : Host σ} {s : Supervisor σ}

theorem noticed_isMemberAlive (host : Host σ) (h : Handle) (p : Pid) (s : Supervisor σ) :
    Noticed host s (isMemberAlive host h p s).2 := by
  unfold isMemberAlive
  split
  · exact noticed_observeTracked host h s
  · exact noticed_of_table rfl

theorem noticed_survivors (host : Host σ) (h : Handle) (ps : List Pid) (s : Supervisor σ) :
    Noticed host s (survivors host h ps s).2 := by
  induction ps generalizing s with
  | nil => exact noticed_of_table rfl
  | cons p ps ih =>
    exact (noticed_isMemberAlive host h p s).trans (still_isMemberAlive host h p s) (ih _)

theorem noticed_look (host : Host σ) (w : ExitWait) (s : Supervisor σ) :
    Noticed host s (w.look host s).2 := by
  unfold look
  dsimp only
  split <;> exact noticed_survivors host w.handle w.pids s

theorem noticed_step (host : Host σ) (w : ExitWait) (s : Supervisor σ) :
    Noticed host s (w.step host s).2 := by
  unfold step
  split
  · exact noticed_look host w s
  · exact noticed_of_table rfl

end ExitWait

/-! ## What the steps of calls leave -/

theorem ToolWait.table_start {σ : Type} (host : Host σ) (command : Command) (limit : Duration)
    (s : Supervisor σ) : (ToolWait.start host command limit s).2.table = s.table := by
  unfold ToolWait.start
  dsimp only
  split
  · rfl
  · split <;> rfl

namespace Termination

open Supervisor ExitWait

variable {σ : Type} {host : Host σ} {s s' : Supervisor σ} {t : Termination} {h : Handle}

/-- What a termination makes of the records: they change by looks alone, but for that of its
process when it fails. -/
def Marks (host : Host σ) (h : Handle) (s : Supervisor σ) (x : Step σ) : Prop :=
  NoticedBut host h (fun _ status => ∃ failures, x.1 = .done (.error failures) ∧
    status = .failed (TerminationFailure.summary failures)) s x.2

theorem marks_finish (hs : Noticed host s s') (left : List Pid) :
    Marks host h s (finish h left s') := by
  unfold Marks finish
  split
  · split
    · refine (hs.weaken fun c r hr => ?_).but
      rw [record?_putRecord] at hr
      split at hr
      · cases hr
      · exact hr
    · exact hs.but
  · dsimp only
    split
    · next q hq => exact hs.put hq fun _ _ => ⟨_, rfl, rfl⟩
    · exact hs.but

theorem marks_resumeGrace (hs : Noticed host s s') (p : Progress ExitWait (List Pid)) :
    Marks host t.handle s (t.resumeGrace p s') := by
  unfold resumeGrace
  split
  · exact hs.but
  · exact marks_finish hs []
  · exact hs.but

theorem marks_resumeForced (hs : Noticed host s s') (p : Progress ExitWait (List Pid)) :
    Marks host t.handle s (t.resumeForced p s') := by
  unfold resumeForced
  split
  · exact hs.but
  · exact marks_finish hs _

theorem table_members (host : Host σ) (h : Handle) (rootAlive : Bool) (s : Supervisor σ) :
    (members host h rootAlive s).2.table = s.table := by
  have htree : (treeMembers host h rootAlive s).2.table = s.table := by
    unfold treeMembers
    split
    · dsimp only
      split <;> rfl
    · rfl
  rw [← htree]
  unfold members stragglers
  dsimp only
  split <;> rfl

theorem marks_enter (host : Host σ) (t : Termination) (s : Supervisor σ) :
    Marks host t.handle s (t.enter host s) := by
  have hs := noticed_observeTracked host t.handle s
  unfold enter
  split
  · next heq =>
    rw [heq] at hs
    exact hs.but
  · next rootAlive s' heq =>
    rw [heq] at hs
    have hmembers : Noticed host s (members host t.handle rootAlive s').2 :=
      hs.weaken fun c r hr => by rwa [record?, table_members] at hr
    dsimp only
    split
    · exact marks_finish hmembers []
    · exact hmembers.but

theorem marks_step (host : Host σ) (t : Termination) (s : Supervisor σ) :
    Marks host t.handle s (t.step host s) := by
  have hsignal {h : Handle} {t' : Termination} {s' : Supervisor σ} (hs : s'.table = s.table) :
      Marks host h s (.again t', s') :=
    (noticed_of_table hs).but
  obtain ⟨h, config, stage⟩ := t
  cases stage with
  | entry => exact marks_enter host _ s
  | asking members left =>
    cases left with
    | cons p left => exact hsignal rfl
    | nil => exact marks_resumeGrace (noticed_look host _ s) _
  | grace wait => exact marks_resumeGrace (noticed_step host wait s) _
  | forcing killed left =>
    cases left with
    | cons p left => exact hsignal rfl
    | nil => exact marks_resumeForced (noticed_look host _ s) _
  | forced wait => exact marks_resumeForced (noticed_step host wait s) _

end Termination

namespace ReadinessWait

open Supervisor

variable {σ : Type} {host : Host σ} {w : ReadinessWait σ} {s s' : Supervisor σ}

/-- What a wait makes of the records: they change by looks alone, but for that of its process when
it is found ready, which is a live one. -/
def Marks (host : Host σ) (h : Handle) (s : Supervisor σ) (x : Step σ) : Prop :=
  NoticedBut host h (fun before status => x.1 = .done (.ok ()) ∧ before.isLive = true ∧
    status = .ready) s x.2

theorem marks_conclude (hs : Noticed host s s') (ready : Bool) :
    Marks host w.handle s (w.conclude host ready s') := by
  unfold Marks conclude
  split
  · unfold setStatus
    dsimp only
    split
    · next q hq =>
      split
      · next hlive =>
        refine hs.put hq fun r hseen => ⟨rfl, ?_, rfl⟩
        rwa [← hseen.eq_of_isLive hlive]
      · exact hs.but
    · exact hs.but
  · split <;> exact hs.but

theorem marks_askProbe (hs : Noticed host s s') : Marks host w.handle s (w.askProbe host s') := by
  have hasked : Noticed host s { s' with world := (w.probe.ask s'.now s'.world).2 } :=
    hs.weaken fun _ _ => id
  unfold askProbe
  dsimp only
  split
  · exact marks_conclude hasked _
  · exact hasked.but

theorem marks_attempt (host : Host σ) (w : ReadinessWait σ) (s : Supervisor σ) :
    Marks host w.handle s (w.attempt host s) := by
  have hs := noticed_observeTracked host w.handle s
  unfold attempt
  dsimp only
  split
  · split
    · exact marks_askProbe hs
    · exact hs.but
  · exact marks_askProbe hs

theorem marks_step (host : Host σ) (cancelled : Bool) (w : ReadinessWait σ) (s : Supervisor σ) :
    Marks host w.handle s (w.step host cancelled s) := by
  have hself : Noticed host s s := noticed_of_table rfl
  have hdeadline : Marks host w.handle s (w.checkDeadline s) := by
    unfold checkDeadline
    split <;> exact hself.but
  unfold step
  split
  · exact hself.but
  · split
    · exact marks_attempt host w s
    · split
      · exact marks_conclude hself _
      · exact hdeadline
    · split
      · exact marks_attempt host w s
      · exact hdeadline

end ReadinessWait

/-! ## What a move does to a status -/

namespace Operations

open Supervisor Termination

variable {σ : Type} {host : Host σ} {x : Operations σ} {m : Move σ} {ms ms' : List (Move σ)}
  {h : Handle} {r r' : Record} {status : ProcessStatus}

/-- A move lets a wait for a process go on that finds it ready. -/
def FindsReady (host : Host σ) (h : Handle) (x : Operations σ) (m : Move σ) : Prop :=
  ∃ i cancelled w s', m = .goOn i cancelled ∧ x.calls i = some (.readiness w) ∧ w.handle = h ∧
    w.step host cancelled x.supervisor = (.done (.ok ()), s')

/-- A move lets a termination of a process go on that ends with failures. -/
def FailsToEnd (host : Host σ) (h : Handle) (failures : List TerminationFailure)
    (x : Operations σ) (m : Move σ) : Prop :=
  ∃ i cancelled t s', m = .goOn i cancelled ∧ x.AtTermination i t ∧ t.handle = h ∧
    t.step host x.supervisor = (.done (.error failures), s')

/-- What a move makes of the status of a record. -/
inductive Alters (host : Host σ) (h : Handle) (x : Operations σ) (m : Move σ) :
    ProcessStatus → ProcessStatus → Prop
  | stays (status : ProcessStatus) : Alters host h x m status status
  | exited {status : ProcessStatus} {code : Option Int32} (hlive : status.isLive = true)
      (hstate : host.childState x.supervisor.now h.pid x.supervisor.world = .exited code) :
      Alters host h x m status (.exited code)
  /-- The host cannot tell how the process stands. -/
  | lost {status : ProcessStatus} {reason : String} (hlive : status.isLive = true)
      (hstate : host.childState x.supervisor.now h.pid x.supervisor.world = .unknown reason) :
      Alters host h x m status (.failed ("status query failed: " ++ reason))
  | readied {status : ProcessStatus} (hlive : status.isLive = true)
      (hready : FindsReady host h x m) : Alters host h x m status .ready
  | marked (hm : m = .markRunning) : Alters host h x m .ready .running
  | failed {status : ProcessStatus} {failures : List TerminationFailure}
      (hfails : FailsToEnd host h failures x m) :
      Alters host h x m status (.failed (TerminationFailure.summary failures))

theorem Alters.of_seen {m : Move σ}
    (hseen : r.Seen (host.childState x.supervisor.now r.pid x.supervisor.world) r')
    (hp : r.pid = h.pid) : Alters host h x m r.status r'.status := by
  rw [hp] at hseen
  cases hseen with
  | stays => exact .stays _
  | exited hlive hstate => exact .exited hlive hstate
  | lost hlive hstate => exact .lost hlive hstate

/-- A record after a move is that of a process that has just been launched, or it was there before,
and the move has altered its status. -/
def Traced (host : Host σ) (h : Handle) (x : Operations σ) (m : Move σ) (r' : Record) : Prop :=
  h ∈ launchedBy host x m ∧ r'.status = .starting ∨
    h ∉ launchedBy host x m ∧
      ∃ r, x.supervisor.tracked? h = some r ∧ Alters host h x m r.status r'.status

/-- A move that launches nothing, and makes no more of the records than looks and one other change
do. -/
theorem traced_of_noticedBut {s : Supervisor σ} {h' : Handle}
    {may : ProcessStatus → ProcessStatus → Prop} (hs : NoticedBut host h' may x.supervisor s)
    (hmay : ∀ {before after}, may before after → Alters host h' x m before after)
    (hnone : launchedBy host x m = []) (hr' : s.tracked? h = some r') : Traced host h x m r' := by
  obtain ⟨hrec', hp'⟩ := tracked?_eq_some.mp hr'
  obtain ⟨r, hrec, hp, hchange⟩ := hs h.component r' hrec'
  refine .inr ⟨hnone ▸ List.not_mem_nil, r, tracked?_eq_some.mpr ⟨hrec, hp.trans hp'⟩, ?_⟩
  rcases hchange with hseen | ⟨hh, hchange⟩
  · exact .of_seen hseen (hp.trans hp')
  · rw [hp'] at hh
    have hh : h' = h := hh
    exact hh ▸ hmay hchange

theorem traced_of_noticed {s : Supervisor σ} (hs : Noticed host x.supervisor s)
    (hnone : launchedBy host x m = []) (hr' : s.tracked? h = some r') : Traced host h x m r' := by
  have hbut : NoticedBut host h (fun _ _ => False) x.supervisor s := hs.but
  exact traced_of_noticedBut hbut False.elim hnone hr'

theorem traced_launch {c : Component} {command : Command}
    (hr' : (x.supervisor.launch host c command).2.tracked? h = some r') :
    Traced host h x (.launch c command) r' := by
  cases hobjections : objections host c command x.supervisor with
  | cons e es =>
    obtain ⟨s', heq, hdeclines⟩ := launch_of_objection hobjections
    rw [heq] at hr'
    refine traced_of_noticed (noticed_of_touches hdeclines.toTouches hdeclines.seen) ?_ hr'
    simp only [launchedBy, heq, Except.toOption, Option.toList_none]
  | nil =>
    obtain ⟨p, s', heq, hstarts⟩ := launch_of_no_objection hobjections
    have hlaunched : launchedBy host x (.launch c command) = [⟨c, p⟩] := by
      simp only [launchedBy, heq, Except.toOption, Option.toList_some]
    rw [heq] at hr'
    obtain ⟨hrec', hp'⟩ := tracked?_eq_some.mp hr'
    unfold Traced
    rw [hlaunched, List.mem_singleton]
    by_cases hc : h.component = c
    · subst hc
      cases hstarts.record.symm.trans hrec'
      exact .inl ⟨congrArg (Handle.mk h.component) hp'.symm, rfl⟩
    · rw [hstarts.others h.component hc] at hrec'
      refine .inr ⟨fun heq => hc (congrArg Handle.component heq), r',
        tracked?_eq_some.mpr ⟨hrec', hp'⟩, .stays _⟩

theorem traced_termination {i : Nat} {cancelled : Bool} {t : Termination}
    (hat : x.AtTermination i t) (hr' : (t.step host x.supervisor).2.tracked? h = some r') :
    Traced host h x (.goOn i cancelled) r' := by
  refine traced_of_noticedBut (t.marks_step host x.supervisor) ?_ rfl hr'
  rintro before _ ⟨failures, hdone, rfl⟩
  exact .failed ⟨i, cancelled, t, _, rfl, hat, rfl, Prod.ext hdone rfl⟩

theorem traced_goOn {i : Nat} {cancelled : Bool} {o : Operation σ} (hcall : x.calls i = some o)
    (hr' : (o.step host cancelled x.supervisor).2.tracked? h = some r') :
    Traced host h x (.goOn i cancelled) r' := by
  cases o with
  | readiness w =>
    refine traced_of_noticedBut (w.marks_step host cancelled x.supervisor) ?_ rfl hr'
    rintro before _ ⟨hdone, hlive, rfl⟩
    exact .readied hlive ⟨i, cancelled, w, _, rfl, hcall, rfl, Prod.ext hdone rfl⟩
  | termination t => exact traced_termination (.inl hcall) hr'
  | sweep w =>
    have hd := w.step_does host x.supervisor
    dsimp only [Operation.step] at hr'
    generalize (w.step host x.supervisor).1 = p, (w.step host x.supervisor).2 = s' at hd hr'
    cases hd with
    | terminates ht hstep => exact traced_termination (.inr ⟨w, hcall, ht⟩) (hstep ▸ hr')
    | terminated ht hstep => exact traced_termination (.inr ⟨w, hcall, ht⟩) (hstep ▸ hr')
    | takes => exact traced_of_noticed (noticed_of_table rfl) rfl hr'
    | ends => exact traced_of_noticed (noticed_of_table rfl) rfl hr'

theorem traced_markRunning (hr' : x.supervisor.markRunning.tracked? h = some r') :
    Traced host h x .markRunning r' := by
  obtain ⟨hrec', hp'⟩ := tracked?_eq_some.mp hr'
  rw [record?_markRunning] at hrec'
  obtain ⟨r, hrec, rfl⟩ := Option.map_eq_some_iff.mp hrec'
  by_cases hready : r.status = .ready
  · rw [if_pos hready] at hp' ⊢
    refine .inr ⟨List.not_mem_nil, r, tracked?_eq_some.mpr ⟨hrec, hp'⟩, ?_⟩
    rw [hready]
    exact .marked rfl
  · rw [if_neg hready] at hp' ⊢
    exact .inr ⟨List.not_mem_nil, r, tracked?_eq_some.mpr ⟨hrec, hp'⟩, .stays _⟩

/-- Whatever a move does, a record after it has a status that the move accounts for. -/
theorem traced_step (m : Move σ) (hr' : (x.step host m).supervisor.tracked? h = some r') :
    Traced host h x m r' := by
  have hsame {s : Supervisor σ} (ht : s.table = x.supervisor.table) :
      Noticed host x.supervisor s := noticed_of_table ht
  cases m with
  | launch c command => exact traced_launch hr'
  | markRunning => exact traced_markRunning hr'
  | refresh => exact traced_of_noticed (noticed_refresh host x.supervisor) rfl hr'
  | runTool command limit =>
    exact traced_of_noticed (hsame (ToolWait.table_start host command limit _)) rfl hr'
  | goOn i cancelled =>
    cases hcall : x.calls i with
    | none =>
      rw [step_goOn_none hcall] at hr'
      exact traced_of_noticed (hsame rfl) rfl hr'
    | some o =>
      rw [step_goOn hcall] at hr'
      exact traced_goOn hcall hr'
  | close | outside | awaitReady | terminate | terminateAll | giveUp =>
    exact traced_of_noticed (hsame rfl) rfl hr'

/-! ## What a run does to a status -/

/-- A move of a run is such, and the process has not been launched again after it. -/
def Since (host : Host σ) (P : Operations σ → Move σ → Prop) (h : Handle) (x : Operations σ)
    (ms : List (Move σ)) : Prop :=
  ∃ before m after, ms = before ++ m :: after ∧ P (x.run host before) m ∧
    h ∉ launched host ((x.run host before).step host m) after

variable {P Q : Operations σ → Move σ → Prop}

theorem Since.mono (hs : Since host P h x ms) (hPQ : ∀ {y m}, P y m → Q y m) :
    Since host Q h x ms := by
  obtain ⟨before, m, after, hms, hP, hnot⟩ := hs
  exact ⟨before, m, after, hms, hPQ hP, hnot⟩

theorem since_cons (hP : P x m) (hnot : h ∉ launched host (x.step host m) ms) :
    Since host P h x (m :: ms) :=
  ⟨[], m, ms, rfl, hP, hnot⟩

theorem Since.cons (hs : Since host P h (x.step host m) ms) : Since host P h x (m :: ms) := by
  obtain ⟨before, m', after, rfl, hP, hnot⟩ := hs
  exact ⟨m :: before, m', after, rfl, hP, hnot⟩

/-- A move gives the record of a process a status that it did not have. -/
def Gives (host : Host σ) (h : Handle) (status : ProcessStatus) (x : Operations σ) (m : Move σ) :
    Prop :=
  ∃ r, x.supervisor.tracked? h = some r ∧ r.status ≠ status ∧ Alters host h x m r.status status

/-- How a record comes to its status: it had it before, the process has been launched and is
starting, or a move has given it. -/
theorem status_run (hr' : (x.run host ms).supervisor.tracked? h = some r') :
    (∃ r, x.supervisor.tracked? h = some r ∧ r.status = r'.status) ∨ r'.status = .starting ∨
      Since host (Gives host h r'.status) h x ms := by
  have hbefore : (h ∉ launched host x ms ∧
      ∃ r, x.supervisor.tracked? h = some r ∧ r.status = r'.status) ∨ r'.status = .starting ∨
        Since host (Gives host h r'.status) h x ms := by
    induction ms generalizing x with
    | nil => exact .inl ⟨List.not_mem_nil, r', hr', rfl⟩
    | cons m ms ih =>
      rcases ih hr' with ⟨hlater, r₁, hr₁, hstatus⟩ | hstarts | hsince
      · rcases traced_step m hr₁ with ⟨-, hstarts⟩ | ⟨hnow, r, hr, halters⟩
        · exact .inr (.inl (hstatus ▸ hstarts))
        · rw [hstatus] at halters
          by_cases hsame : r.status = r'.status
          · exact .inl ⟨fun hm => (List.mem_append.mp hm).elim hnow hlater, r, hr, hsame⟩
          · exact .inr (.inr (since_cons ⟨r, hr, hsame, halters⟩ hlater))
      · exact .inr (.inl hstarts)
      · exact .inr (.inr hsince.cons)
  exact hbefore.imp_left And.right

/-- A status that is not live is altered only by a termination that fails. -/
theorem Alters.of_dead {before after : ProcessStatus} (ha : Alters host h x m before after)
    (hdead : before.isLive = false) : after = before ∨
      ∃ failures, FailsToEnd host h failures x m ∧
        after = .failed (TerminationFailure.summary failures) := by
  cases ha with
  | stays => exact .inl rfl
  | exited hlive => cases hdead.symm.trans hlive
  | lost hlive => cases hdead.symm.trans hlive
  | readied hlive => cases hdead.symm.trans hlive
  | marked => cases hdead
  | failed hfails => exact .inr ⟨_, hfails, rfl⟩

theorem Alters.findsReady {before : ProcessStatus} (ha : Alters host h x m before .ready)
    (hne : before ≠ .ready) : FindsReady host h x m := by
  cases ha with
  | stays => exact absurd rfl hne
  | readied _ hready => exact hready

theorem Alters.markRunning {before : ProcessStatus} (ha : Alters host h x m before .running)
    (hne : before ≠ .running) : m = .markRunning ∧ before = .ready := by
  cases ha with
  | stays => exact absurd rfl hne
  | marked hm => exact ⟨hm, rfl⟩

/-- A record that is not live stays as it is, or a termination of its process fails. -/
theorem dead_run (hr' : (x.run host ms).supervisor.tracked? h = some r')
    (hnot : h ∉ launched host x ms) : ∃ r, x.supervisor.tracked? h = some r ∧
      (r.status.isLive = false → r'.status = r.status ∨
        ∃ failures, r'.status = .failed (TerminationFailure.summary failures) ∧
          Since host (FailsToEnd host h failures) h x ms) := by
  induction ms generalizing x with
  | nil => exact ⟨r', hr', fun _ => .inl rfl⟩
  | cons m ms ih =>
    obtain ⟨hnow, hlater⟩ := not_or.mp (mt List.mem_append.mpr hnot)
    obtain ⟨r₁, hr₁, hrest⟩ := ih hr' hlater
    obtain ⟨-, r, hr, halters⟩ := (traced_step m hr₁).resolve_left fun hstarts => hnow hstarts.1
    refine ⟨r, hr, fun hdead => ?_⟩
    rcases halters.of_dead hdead with hsame | ⟨failures, hfails, hfailed⟩
    · rcases hrest (hsame ▸ hdead) with heq | ⟨failures, hfailed, hsince⟩
      · exact .inl (heq.trans hsame)
      · exact .inr ⟨failures, hfailed, hsince.cons⟩
    · right
      rcases hrest (hfailed ▸ rfl) with heq | ⟨failures', hfailed', hsince⟩
      · exact ⟨failures, heq.trans hfailed, since_cons hfails hlater⟩
      · exact ⟨failures', hfailed', hsince.cons⟩

theorem FailsToEnd.ne_nil {failures : List TerminationFailure}
    (hfails : FailsToEnd host h failures x m) : failures ≠ [] := by
  obtain ⟨i, cancelled, t, s', -, -, -, hstep⟩ := hfails
  have hverdict := (t.leaves_step host x.supervisor).2
  rw [hstep] at hverdict
  exact hverdict.nonempty failures rfl

/-- A record is ready only through a wait that has found its process ready, and running only if it
was ready and all that was ready has been marked as running. Every move alters a status in one of a
few ways (`Alters`). Once a record is not live, it stays as it is, with its exit code, until a
termination of the process fails, and then it tells of those who have survived. So it is never live
again, unless the process is launched anew. -/
theorem dead_records_stay_dead {world : σ} {now : Instant}
    (hx : (new world now).run host ms = x) (hr : x.supervisor.tracked? h = some r) :
    (r.status = .ready → Since host (FindsReady host h) h (new world now) ms) ∧
    (r.status = .running → Since host (fun y m => m = .markRunning ∧
      ∃ q, y.supervisor.tracked? h = some q ∧ q.status = .ready) h (new world now) ms) ∧
    (∀ m r', (x.step host m).supervisor.tracked? h = some r' → h ∉ launchedBy host x m →
      Alters host h x m r.status r'.status) ∧
    (r.status.isLive = false → ∀ ms' r', (x.run host ms').supervisor.tracked? h = some r' →
      h ∉ launched host x ms' → r'.status.isLive = false ∧
        (r'.status = r.status ∨ ∃ failures, failures ≠ [] ∧
          r'.status = .failed (TerminationFailure.summary failures) ∧
          Since host (FailsToEnd host h failures) h x ms')) := by
  have hgiven (hne : r.status ≠ .starting) :
      Since host (Gives host h r.status) h (new world now) ms := by
    rcases status_run (hx ▸ hr) with ⟨q, hq, -⟩ | hstarts | hsince
    · simp [new, tracked?, record?] at hq
    · exact absurd hstarts hne
    · exact hsince
  refine ⟨fun hready => ?_, fun hrunning => ?_, fun m r' hr' hnot => ?_,
    fun hdead ms' r' hr' hnot => ?_⟩
  · rw [hready] at hgiven
    refine (hgiven (by decide)).mono ?_
    rintro y m ⟨q, -, hne, halters⟩
    exact halters.findsReady hne
  · rw [hrunning] at hgiven
    refine (hgiven (by decide)).mono ?_
    rintro y m ⟨q, hq, hne, halters⟩
    obtain ⟨hm, hready⟩ := halters.markRunning hne
    exact ⟨hm, q, hq, hready⟩
  · obtain ⟨-, q, hq, halters⟩ := (traced_step m hr').resolve_left fun hstarts => hnot hstarts.1
    cases hr.symm.trans hq
    exact halters
  · obtain ⟨q, hq, hlater⟩ := dead_run hr' hnot
    cases hr.symm.trans hq
    rcases hlater hdead with heq | ⟨failures, hfailed, hsince⟩
    · exact ⟨heq ▸ hdead, .inl heq⟩
    · have hne : failures ≠ [] := by
        obtain ⟨_, _, _, -, hfails, -⟩ := hsince
        exact hfails.ne_nil
      exact ⟨hfailed ▸ rfl, .inr ⟨failures, hne, hfailed, hsince⟩⟩

section Example

open Scripted

/-- A probe that takes some time to find a component ready. -/
def lateProbe : Probe World where
  ask _ world := ({ takes := exitPollInterval, ready := true }, world)

/-- The main runtime is launched, found ready and marked as running. -/
def upToRunning : List (Move World) :=
  [.launch .mainRuntime { program := ⟨"camunda"⟩ },
    .awaitReady 0 ending.handle .always ⟨.ofSecs 1, .ofSecs 1⟩, .goOn 0 false, .markRunning]

/-- A further wait asks the late probe. Meanwhile the main runtime exits, which is noticed. -/
def upToExit : List (Move World) :=
  upToRunning ++ [.awaitReady 1 ending.handle lateProbe ⟨.ofSecs 1, .ofSecs 1⟩, .goOn 1 false,
    .outside 0 fun w => (w.endNewest 0 .mainRuntime (some 1)).2, .refresh]

/-- The late answer comes, what is ready is marked as running, and the stray process survives a
termination. -/
def afterExit : List (Move World) :=
  [.outside exitPollInterval id, .goOn 1 false, .markRunning, .refresh,
    .terminate 2 ending.handle ending.config] ++ List.replicate 5 (.goOn 2 false) ++
    [.outside exitPollInterval id, .goOn 2 false]

theorem late_answer_revives_nobody :
    Since plainHost (fun y m => m = .markRunning ∧
      ∃ q, y.supervisor.tracked? ending.handle = some q ∧ q.status = .ready) ending.handle
      (new groupMachine 0) upToRunning ∧
    ∃ x r r', (new groupMachine 0).run plainHost upToExit = x ∧
      x.supervisor.tracked? ending.handle = some r ∧ r.status = .exited (some 1) ∧
      (x.run plainHost afterExit).supervisor.tracked? ending.handle = some r' ∧
      r'.status.isLive = false ∧ ∃ failures, failures ≠ [] ∧
        r'.status = .failed (TerminationFailure.summary failures) ∧
        Since plainHost (FailsToEnd plainHost ending.handle failures) ending.handle x
          afterExit := by
  have hruns : ((new groupMachine 0).run plainHost upToRunning).supervisor.tracked?
      ending.handle = some { pid := ending.handle.pid, status := .running, startedAt := 0 } := rfl
  have hr : ((new groupMachine 0).run plainHost upToExit).supervisor.tracked? ending.handle =
      some { pid := ending.handle.pid, status := .exited (some 1), startedAt := 0 } := rfl
  have hr' : (((new groupMachine 0).run plainHost upToExit).run plainHost
      afterExit).supervisor.tracked? ending.handle =
        some { pid := ending.handle.pid, startedAt := 0, status :=
          .failed (TerminationFailure.summary [failureOf .mainRuntime stray]) } := rfl
  obtain ⟨-, hmarked, -, -⟩ := dead_records_stay_dead rfl hruns
  obtain ⟨-, -, -, hdead⟩ := dead_records_stay_dead rfl hr
  obtain ⟨hlive, hstatus⟩ := hdead rfl afterExit _ hr' (by decide +kernel)
  exact ⟨hmarked rfl, _, _, _, rfl, hr, rfl, hr', hlive, hstatus.resolve_left nofun⟩

end Example

end Operations

end Launchpad
