import Launchpad.Proofs.Supervisor.Looks
import Launchpad.Supervisor.Termination

/-!
# Terminations keep their root in sight

`Does` says all that a step of a termination can do. On any host such a step starts nothing, a
success has let go of the record of the root, and a failure has marked it (`leaves_step`).

A termination lets go of a record when a look finds nobody alive, and what it looks at was found
when it began. `Sound` says why this is right at any moment in between, whatever else has happened
to the supervisor: a root that runs is among those that the termination will look at next. So a
root that runs keeps its record, and the failures name it (`follows_step`). The host has to give
trees that hold their root.
-/

namespace Launchpad

namespace Termination

open Supervisor ExitWait

variable {σ : Type} {host : Host σ} {s s' : Supervisor σ} {t t' : Termination} {h : Handle}
  {x : Step σ}

/-! ## The end of a termination -/

/-- What the result of a termination says of the record of its root. -/
structure Verdict (h : Handle) (r : Result) (s : Supervisor σ) : Prop where
  gone : r = .ok () → ¬ s.Tracked h
  nonempty : ∀ failures, r = .error failures → failures ≠ []
  component : ∀ failures, r = .error failures → ∀ f ∈ failures, f.component = h.component
  failed : ∀ failures, r = .error failures →
    ∀ q, s.record? h.component = some q → q.pid = h.pid → q.HasFailed

theorem verdict_ok (ht : ¬ s.Tracked h) : Verdict h (.ok ()) s :=
  ⟨fun _ => ht, nofun, nofun, nofun⟩

/-- Nobody is left: the record is dropped. -/
theorem finish_nil (h : Handle) (s : Supervisor σ) :
    ∃ s', finish h [] s = (.done (.ok ()), s') ∧ StartsNothing s s' ∧ ¬ s'.Tracked h ∧
      ∀ h', h' ≠ h → s.Tracked h' → s'.Tracked h' := by
  unfold finish
  rw [if_pos (by rfl)]
  by_cases ht : s.Tracked h
  · rw [if_pos (isSome_tracked?.mpr ht)]
    refine ⟨_, rfl, startsNothing_drop s h.component, ?_, fun h' hne ht' => ?_⟩
    · rintro ⟨r, hr, -⟩
      rw [record?_putRecord, if_pos rfl] at hr
      cases hr
    · have hc : h'.component ≠ h.component := fun hc => hne (ht'.eq ht hc)
      obtain ⟨r, hr, hp⟩ := ht'
      exact ⟨r, by rw [record?_putRecord, if_neg hc, hr], hp⟩
  · rw [if_neg (fun hsome => ht (isSome_tracked?.mp hsome))]
    exact ⟨s, rfl, .refl s, ht, fun _ _ => id⟩

/-- Somebody is left: the record is marked. -/
theorem finish_of_ne_nil {left : List Pid} (hne : left ≠ []) (h : Handle) (s : Supervisor σ) :
    ∃ s', finish h left s = (.done (.error (left.map (failureOf h.component))), s') ∧
      Still s s' ∧
      ∀ q, s'.record? h.component = some q → q.pid = h.pid → q.HasFailed := by
  unfold finish
  rw [if_neg (by simpa using hne)]
  dsimp only
  split
  · next r hr =>
    obtain ⟨hrec, hp⟩ := tracked?_eq_some.mp hr
    refine ⟨_, rfl, ⟨.putRecord hrec ⟨rfl, fun _ => ⟨_, rfl⟩⟩, rfl, rfl⟩, fun q hq _ => ?_⟩
    rw [record?_putRecord, if_pos rfl] at hq
    cases Option.some.inj hq
    exact ⟨_, rfl⟩
  · next hnone =>
    refine ⟨s, rfl, .refl s, fun q hq hp => ?_⟩
    exact absurd ⟨q, hq, hp⟩ (tracked?_eq_none.mp hnone)

/-! ## The members of a tree -/

theorem still_treeMembers (host : Host σ) (h : Handle) (rootAlive : Bool) (s : Supervisor σ) :
    Still s (treeMembers host h rootAlive s).2 := by
  unfold treeMembers
  split
  · dsimp only
    split <;> exact still_note rfl s
  · exact .refl s

theorem still_stragglers (host : Host σ) (h : Handle) (tree : List Pid) (s : Supervisor σ) :
    Still s (stragglers host h tree s).2 := by
  unfold stragglers
  dsimp only
  split <;> exact still_note rfl s

theorem still_members (host : Host σ) (h : Handle) (rootAlive : Bool) (s : Supervisor σ) :
    Still s (members host h rootAlive s).2 :=
  (still_treeMembers host h rootAlive s).trans (still_stragglers host h _ _)

/-- The processes that the termination of a root goes for if it begins now. -/
def targets (host : Host σ) (h : Handle) (s : Supervisor σ) : List Pid :=
  (members host h (decide (Runs host h s)) (s.observeTracked host h).2).1

/-- A root that runs is among them. -/
theorem root_mem_targets (hhost : host.TreesHoldRoots) (hr : Runs host h s) :
    h.pid ∈ targets host h s := by
  unfold targets
  rw [decide_eq_true hr]
  have htree : h.pid ∈ (treeMembers host h true (s.observeTracked host h).2).1 := by
    unfold treeMembers
    rw [if_pos rfl]
    dsimp only
    split
    · next tree htree => exact hhost _ _ _ _ htree
    · exact List.mem_singleton_self _
  exact List.mem_append_right _ htree

/-! ## What a step can do -/

/-- The processes that will be looked at next. -/
def Stage.watched : Stage → Option (List Pid)
  | .entry => none
  | .asking members _ => some members
  | .grace wait => some wait.pids
  | .forcing survivors _ => some survivors
  | .forced wait => some wait.pids

def Stage.wait? : Stage → Option ExitWait
  | .grace wait => some wait
  | .forced wait => some wait
  | _ => none

inductive Does (host : Host σ) (t : Termination) (s : Supervisor σ) : Step σ → Prop
  /-- The process has been ended before. -/
  | misses (hstage : t.stage = .entry) (ht : ¬ s.Tracked t.handle) :
      Does host t s (.done (.ok ()), s)
  | finds {s' : Supervisor σ} (hstage : t.stage = .entry) (ht : s.Tracked t.handle)
      (hs : Still s s') :
      Does host t s
        (.again { t with stage := .asking (targets host t.handle s) (targets host t.handle s) }, s')
  /-- There is nobody to be ended. -/
  | findsNobody {s' : Supervisor σ} (hstage : t.stage = .entry) (ht : s.Tracked t.handle)
      (hnil : targets host t.handle s = []) (hs : Still s s') :
      Does host t s (finish t.handle [] s')
  /-- A process is asked to end, or killed. -/
  | signals {pids : List Pid} {stage : Stage} {s' : Supervisor σ}
      (hwatched : t.stage.watched = some pids) (hstays : stage.watched = some pids)
      (hnone : stage.wait? = none) (hs : Steady s s') :
      Does host t s (.again { t with stage }, s')
  /-- A look is not due, or somebody is alive and there is time left. -/
  | waits {wait wait' : ExitWait} {stage : Stage} {s' : Supervisor σ}
      (hwatched : t.stage.watched = some wait.pids)
      (hwait : wait.handle = t.handle ∨ t.stage.wait? = some wait)
      (hstays : stage.watched = some wait.pids) (hsome : stage.wait? = some wait')
      (hh : wait'.handle = wait.handle) (hs : Still s s') :
      Does host t s (.again { t with stage }, s')
  /-- The grace period is over, and somebody is alive. -/
  | forces {wait : ExitWait} {left : List Pid} {s' : Supervisor σ}
      (hwatched : t.stage.watched = some wait.pids)
      (hwait : wait.handle = t.handle ∨ t.stage.wait? = some wait)
      (hleft : wait.pids.filter (findsAlive host wait.handle s) = left) (hs : Still s s') :
      Does host t s (.again { t with stage := .forcing left left }, s')
  /-- The last look has been taken. -/
  | finishes {wait : ExitWait} {left : List Pid} {s' : Supervisor σ}
      (hwatched : t.stage.watched = some wait.pids)
      (hwait : wait.handle = t.handle ∨ t.stage.wait? = some wait)
      (hleft : wait.pids.filter (findsAlive host wait.handle s) = left) (hs : Still s s') :
      Does host t s (finish t.handle left s')

theorem does_enter (host : Host σ) (hstage : t.stage = .entry) (s : Supervisor σ) :
    Does host t s (t.enter host s) := by
  unfold enter
  by_cases ht : s.Tracked t.handle
  · have hpair : s.observeTracked host t.handle =
        (some (decide (Runs host t.handle s)), (s.observeTracked host t.handle).2) :=
      Prod.ext (observeTracked_of_tracked ht) rfl
    have hs := (still_observeTracked host t.handle s).trans
      (still_members host t.handle (decide (Runs host t.handle s)) _)
    rw [hpair]
    dsimp only
    split
    · next hnil => exact .findsNobody hstage ht (List.isEmpty_iff.mp hnil) hs
    · exact .finds hstage ht hs
  · rw [observeTracked_of_not_tracked ht]
    exact .misses hstage ht

section Looking

variable {wait : ExitWait} {p : Progress ExitWait (List Pid)}
  (hwatched : t.stage.watched = some wait.pids)
  (hwait : wait.handle = t.handle ∨ t.stage.wait? = some wait) (hs : Still s s')
  (hp : Looked host wait s p)

include hwatched hwait hs hp

theorem does_resumeGrace : Does host t s (t.resumeGrace p s') := by
  rcases hp with rfl | ⟨wakeAt, rfl⟩
  · cases hleft : wait.pids.filter (findsAlive host wait.handle s) with
    | nil => exact .finishes hwatched hwait hleft hs
    | cons q left => exact .forces hwatched hwait hleft hs
  · exact .waits hwatched hwait rfl rfl rfl hs

theorem does_resumeForced : Does host t s (t.resumeForced p s') := by
  rcases hp with rfl | ⟨wakeAt, rfl⟩
  · exact .finishes hwatched hwait rfl hs
  · exact .waits hwatched hwait rfl rfl rfl hs

end Looking

theorem steady_ask (host : Host σ) (p : Pid) (s : Supervisor σ) : Steady s (ask host p s) :=
  (steady_note rfl s).trans (steady_world _ s.now _)

theorem steady_kill (host : Host σ) (p : Pid) (s : Supervisor σ) : Steady s (kill host p s) :=
  (steady_note rfl s).trans (steady_world _ s.now _)

theorem step_does (host : Host σ) (t : Termination) (s : Supervisor σ) :
    Does host t s (t.step host s) := by
  obtain ⟨h, config, stage⟩ := t
  cases stage with
  | entry => exact does_enter host rfl s
  | asking members left =>
    cases left with
    | cons p left => exact .signals rfl rfl rfl (steady_ask host p s)
    | nil =>
      obtain ⟨p, s', heq, hs, hp⟩ :=
        look_eq host (.start h members config.gracePeriod s.now) s
      simp only [step, heq]
      exact does_resumeGrace rfl (.inl rfl) hs hp
  | grace wait =>
    obtain ⟨p, s', heq, hs, hp⟩ := step_eq host wait s
    simp only [step, heq]
    exact does_resumeGrace rfl (.inr rfl) hs hp
  | forcing survivors left =>
    cases left with
    | cons p left => exact .signals rfl rfl rfl (steady_kill host p s)
    | nil =>
      obtain ⟨p, s', heq, hs, hp⟩ :=
        look_eq host (.start h survivors config.forceWait s.now) s
      simp only [step, heq]
      exact does_resumeForced rfl (.inl rfl) hs hp
  | forced wait =>
    obtain ⟨p, s', heq, hs, hp⟩ := step_eq host wait s
    simp only [step, heq]
    exact does_resumeForced rfl (.inr rfl) hs hp

/-! ## A step on any host -/

/-- What a step leaves of a termination on any host. -/
def Leaves (t : Termination) (s : Supervisor σ) (x : Step σ) : Prop :=
  StartsNothing s x.2 ∧
    match x.1 with
    | .again t' => t'.handle = t.handle
    | .done r => Verdict t.handle r x.2

theorem leaves_finish (hs : Still s s') (left : List Pid) :
    Leaves t s (finish t.handle left s') := by
  by_cases hnil : left = []
  · subst hnil
    obtain ⟨s'', heq, hs', hgone, -⟩ := finish_nil t.handle s'
    rw [heq]
    exact ⟨hs.toStartsNothing.trans hs', verdict_ok hgone⟩
  · obtain ⟨s'', heq, hs', hfailed⟩ := finish_of_ne_nil hnil t.handle s'
    rw [heq]
    refine ⟨(hs.trans hs').toStartsNothing, nofun, ?_, ?_, ?_⟩ <;> rintro _ ⟨rfl⟩
    · simpa using hnil
    · intro f hf
      obtain ⟨p, -, rfl⟩ := List.mem_map.mp hf
      rfl
    · exact hfailed

theorem Does.leaves (hd : Does host t s x) : Leaves t s x := by
  cases hd with
  | misses _ ht => exact ⟨.refl s, verdict_ok ht⟩
  | finds _ _ hs => exact ⟨hs.toStartsNothing, rfl⟩
  | findsNobody _ _ _ hs => exact leaves_finish hs []
  | signals _ _ _ hs => exact ⟨hs.toStartsNothing, rfl⟩
  | waits _ _ _ _ _ hs => exact ⟨hs.toStartsNothing, rfl⟩
  | forces _ _ _ hs => exact ⟨hs.toStartsNothing, rfl⟩
  | finishes _ _ _ hs => exact leaves_finish hs _

theorem leaves_step (host : Host σ) (t : Termination) (s : Supervisor σ) :
    Leaves t s (t.step host s) :=
  (step_does host t s).leaves

/-! ## The root of a termination -/

/-- The termination of a root, which is among those that it watches if it runs. -/
structure Sound (host : Host σ) (t : Termination) (s : Supervisor σ) : Prop where
  rooted : t.handle ∈ s.roots
  waits : ∀ wait, t.stage.wait? = some wait → wait.handle = t.handle
  watches : ∀ pids, t.stage.watched = some pids → Runs host t.handle s → t.handle.pid ∈ pids

theorem Sound.extends {new : List Handle} (ht : Sound host t s) (he : Extends host new s s')
    (hend : StaysEnded host s s') : Sound host t s' where
  rooted := by
    rw [he.roots]
    exact List.mem_append_right _ ht.rooted
  waits := ht.waits
  watches pids hw hr := ht.watches pids hw (hend _ ht.rooted hr)

theorem sound_entry (hm : h ∈ s.roots) (config : TerminationConfig) :
    Sound host { handle := h, config } s :=
  ⟨hm, fun _ hw => by simp [Stage.wait?] at hw, fun _ hw => by simp [Stage.watched] at hw⟩

/-- The termination goes on to watch some processes, with the root among them if it runs. -/
theorem Sound.goes {stage : Stage} {pids : List Pid} (ht : Sound host t s)
    (hwait : ∀ wait, stage.wait? = some wait → wait.handle = t.handle)
    (hwatched : stage.watched = some pids) (hm : Runs host t.handle s → t.handle.pid ∈ pids) :
    Sound host { t with stage } s :=
  ⟨ht.rooted, hwait, fun _ hw => Option.some.inj (hwatched.symm.trans hw) ▸ hm⟩

theorem Sound.handle_eq {wait : ExitWait} (ht : Sound host t s)
    (hwait : wait.handle = t.handle ∨ t.stage.wait? = some wait) : wait.handle = t.handle :=
  hwait.elim id (ht.waits wait)

/-- What a step has left of a sound termination, and what it means for the supervisor. -/
def Follows (host : Host σ) (t : Termination) (s : Supervisor σ) (x : Step σ) : Prop :=
  Extends host [] s x.2 ∧ (StaysEnded host s x.2 →
    match x.1 with
    | .again t' => Sound host t' x.2
    | .done r => ∀ failures, r = .error failures → Runs host t.handle x.2 →
      ∃ f ∈ failures, f.pid = t.handle.pid)

theorem follows_again (hs : Steady s s') (ht' : Sound host t' s) :
    Follows host t s (.again t', s') :=
  ⟨hs.extends, fun hend => ht'.extends hs.extends hend⟩

/-- A termination that ends without its root among those left has seen the end of it. -/
theorem follows_finish (hs : Still s s') (ht : Sound host t s) {left : List Pid}
    (hleft : Runs host t.handle s → t.handle.pid ∈ left) :
    Follows host t s (finish t.handle left s') := by
  by_cases hnil : left = []
  · subst hnil
    obtain ⟨s'', heq, hs', -, hkeep⟩ := finish_nil t.handle s'
    rw [heq]
    refine ⟨.of_steady hs.toSteady hs.world hs.now (hs'.extends fun h htr hr => ?_), fun _ => nofun⟩
    refine hkeep h (fun heq => ?_) htr
    rw [heq, hs.runs_iff] at hr
    exact List.not_mem_nil (hleft hr)
  · obtain ⟨s'', heq, hs', -⟩ := finish_of_ne_nil hnil t.handle s'
    rw [heq]
    refine ⟨(hs.trans hs').extends, fun hend => ?_⟩
    rintro _ ⟨rfl⟩ hr
    exact ⟨_, List.mem_map_of_mem (hleft (hend t.handle ht.rooted hr)), rfl⟩

/-- A root that runs and is watched is found alive. -/
theorem Sound.root_mem_left {wait : ExitWait} {left : List Pid} (ha : Accounted host s)
    (ht : Sound host t s) (hwatched : t.stage.watched = some wait.pids)
    (hwait : wait.handle = t.handle ∨ t.stage.wait? = some wait)
    (hleft : wait.pids.filter (findsAlive host wait.handle s) = left)
    (hr : Runs host t.handle s) : t.handle.pid ∈ left := by
  rw [← hleft, ht.handle_eq hwait, List.mem_filter]
  exact ⟨ht.watches _ hwatched hr, findsAlive_root.mpr ⟨ha.tracked _ ht.rooted hr, hr⟩⟩

theorem Does.follows (hhost : host.TreesHoldRoots) (ha : Accounted host s) (ht : Sound host t s)
    (hd : Does host t s x) : Follows host t s x := by
  cases hd with
  | misses => exact ⟨(Steady.refl s).extends, fun _ => nofun⟩
  | finds _ _ hs =>
    exact follows_again hs.toSteady (ht.goes (by simp [Stage.wait?]) rfl (root_mem_targets hhost))
  | findsNobody _ _ hnil hs => exact follows_finish hs ht (hnil ▸ root_mem_targets hhost)
  | signals hwatched hstays hnone hs =>
    exact follows_again hs (ht.goes (by simp [hnone]) hstays (ht.watches _ hwatched))
  | waits hwatched hwait hstays hsome hh hs =>
    refine follows_again hs.toSteady (ht.goes ?_ hstays (ht.watches _ hwatched))
    rintro _ hw
    cases hsome.symm.trans hw
    exact hh.trans (ht.handle_eq hwait)
  | forces hwatched hwait hleft hs =>
    have hm := ht.root_mem_left ha hwatched hwait hleft
    exact follows_again hs.toSteady (ht.goes (by simp [Stage.wait?]) rfl hm)
  | finishes hwatched hwait hleft hs =>
    exact follows_finish hs ht (ht.root_mem_left ha hwatched hwait hleft)

/-- A step of a termination keeps its root in sight. -/
theorem follows_step (hhost : host.TreesHoldRoots) (ha : Accounted host s) (ht : Sound host t s) :
    Follows host t s (t.step host s) :=
  (step_does host t s).follows hhost ha ht

end Termination

end Launchpad
