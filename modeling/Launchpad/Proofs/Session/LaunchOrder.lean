import Launchpad.Proofs.Session.Course
import Launchpad.Proofs.Session.Interleaving
import Mathlib.Data.List.Induction

/-!
# The order of the launches

However its calls go on beside each other, and on whatever host, a session launches components for
one start only, in launch order, each of them after those before it are ready
(`launches_in_order`). The start is the one that has found the session idle; until there is one,
the session is `Fresh`, and from then on that start keeps to its course (`Course`).
-/

namespace Launchpad

/-- An accepted answer tells a version that is recent enough. -/
theorem Java.major_of_checkVersion {answer : String} {version : Nat}
    (h : Java.checkVersion answer = .ok version) :
    Java.majorVersion? answer = some version ∧ 21 ≤ version := by
  unfold checkVersion at h
  split at h
  · cases h
  · next found hfound =>
    split at h
    · cases h
    · next hold =>
      cases h
      exact ⟨hfound, Nat.not_lt.mp hold⟩

theorem LaunchConfig.components_eq (config : LaunchConfig) :
    config.components = if config.disableElasticsearch then [.connectorRuntime, .mainRuntime]
      else [.searchEngine, .connectorRuntime, .mainRuntime] := by
  unfold components
  cases config.disableElasticsearch <;> rfl

theorem LaunchConfig.nodup_components (config : LaunchConfig) : config.components.Nodup := by
  rw [components_eq]
  split <;> decide

namespace Interleaving

open Supervisor Start

variable {σ : Type} {host : Host σ} {first x y : Interleaving σ} {m : Move σ} {ms : List (Move σ)}
  {config : Nat → LaunchConfig} {i j : Nat}

/-- A start takes in what java says of a version that is recent enough. -/
def AcceptsJava (i : Nat) (x : Interleaving σ) (m : Move σ) : Prop :=
  ∃ notice c java wait output version, m = .start i notice ∧ x.starts i = .again c ∧
    c.stage = .checkingJava java wait ∧ wait.step x.session.now = .done (.ok output) ∧
    Java.majorVersion? (javaAnswer output) = some version ∧ 21 ≤ version

/-- A start finds the process that it waits for ready. -/
def BecomesReady (host : Host σ) (i : Nat) (h : Handle) (x : Interleaving σ) (m : Move σ) : Prop :=
  ∃ notice c java left wait, m = .start i notice ∧ x.starts i = .again c ∧
    c.stage = .awaiting java left wait ∧ wait.handle = h ∧
    (wait.step host (x.session.cancelled && notice) x.supervisor).1 = .done (.ok ())

/-- A start brings the session from its start to its run, and no stop has begun. -/
def BecomesRunning (host : Host σ) (i : Nat) (x : Interleaving σ) (m : Move σ) : Prop :=
  (∃ notice, m = .start i notice) ∧ x.session.phase = .starting ∧
    (x.step host m).session.phase = .running ∧ ∀ j, x.stops j = .again .entry

/-- The past of a start after a run. -/
def past (host : Host σ) (first : Interleaving σ) (i : Nat) (ms : List (Move σ)) : Past where
  ready h := Happened host first ms (BecomesReady host i h)
  java := Happened host first ms (AcceptsJava i)
  running := Happened host first ms (BecomesRunning host i)

theorem past_grows (host : Host σ) (first : Interleaving σ) (i : Nat) (ms : List (Move σ))
    (m : Move σ) : (past host first i ms).Grows (past host first i (ms ++ [m])) :=
  ⟨fun _ h => h.append [m], fun h => h.append [m], fun h => h.append [m]⟩

/-- What a start does becomes part of its past. -/
theorem past_adds {notice : Bool} {c : Start σ} (hx : (first.run host ms).Heeded)
    (hcall : (first.run host ms).starts i = .again c) :
    Adds host notice c (first.run host ms).session
      ((first.run host ms).step host (.start i notice)).session (past host first i ms)
      (past host first i (ms ++ [.start i notice])) where
  toGrows := past_grows host first i ms _
  becomesReady java left wait hstage hready :=
    happened_concat ⟨notice, c, java, left, wait, rfl, hcall, hstage, rfl, hready⟩
  acceptsJava java wait output version hstage hout hversion := by
    obtain ⟨hmajor, hmin⟩ := Java.major_of_checkVersion hversion
    exact happened_concat
      ⟨notice, c, java, wait, output, version, rfl, hcall, hstage, hout, hmajor, hmin⟩
  becomesRunning hstarting hrunning := by
    refine happened_concat ⟨⟨notice, rfl⟩, hstarting, hrunning, fun j => ?_⟩
    by_contra hne
    rcases hx.begun j hne with h | h <;> cases hstarting.symm.trans h

/-- A start that has not begun, or that has been refused. -/
def Waits (config : Nat → LaunchConfig) (x : Interleaving σ) (j : Nat) : Prop :=
  (∃ c, x.starts j = .again c ∧ c.stage = .entry ∧ c.config = config j) ∨
    ∃ e, x.starts j = .done (.error e)

/-- A session that nothing has been launched for. -/
structure Fresh (config : Nat → LaunchConfig) (x : Interleaving σ) : Prop where
  roots : x.supervisor.roots = []
  waits : ∀ j, Waits config x j

/-- A start has been let in and keeps to its course, no other one is. -/
structure Course (config : Nat → LaunchConfig) (i : Nat) (past : Past) (x : Interleaving σ) :
    Prop where
  stands : Stands (config i) past x.supervisor.roots (x.starts i)
  waits : ∀ j, j ≠ i → Waits config x j
  begun : x.session.phase ≠ .idle

theorem fresh_new (world : σ) (now : Instant) (config : Nat → LaunchConfig)
    (probes : Nat → PerComponent (Probe σ)) : Fresh config (new world now config probes) :=
  ⟨rfl, fun _ => .inl ⟨_, rfl, rfl, rfl⟩⟩

/-- A call that goes on is no refused one. -/
theorem Waits.of_again (hw : Waits config x j) {c : Start σ} (hcall : x.starts j = .again c) :
    c.stage = .entry ∧ c.config = config j := by
  rcases hw with ⟨c', hc', hstage, hconfig⟩ | ⟨e, he⟩
  · cases hcall.symm.trans hc'
    exact ⟨hstage, hconfig⟩
  · cases hcall.symm.trans he

theorem Waits.of_starts (hw : Waits config x j) (h : y.starts j = x.starts j) :
    Waits config y j := by
  unfold Waits
  rwa [h]

/-- A start that waits is let alone, or refused by its first step. -/
theorem waits_update {p : Progress (Start σ) (Except Error Unit)} {session : Session σ}
    (hw : Waits config x j) (hp : j = i → ∃ e, p = .done (.error e)) :
    Waits config { x with session, starts := Function.update x.starts i p } j := by
  by_cases hj : j = i
  · obtain ⟨e, rfl⟩ := hp hj
    subst hj
    exact .inr ⟨e, Function.update_self ..⟩
  · exact hw.of_starts (Function.update_of_ne hj ..)

/-- A start that is let in sets out on its course. -/
theorem Fresh.begins (hx : Fresh config x) {c : Start σ} {session : Session σ}
    {p : Progress (Start σ) (Except Error Unit)} (hconfig : c.config = config i)
    (hquiet : (c.letIn x.session).Quiet session) (hfound : Found c session p) (past : Past) :
    Course config i past { x with session, starts := Function.update x.starts i p } := by
  refine ⟨?_, fun j hj => ?_, ?_⟩
  · show Stands (config i) past session.supervisor.roots (Function.update x.starts i p i)
    rw [hquiet.roots.trans hx.roots, ← hconfig, Function.update_self]
    exact hfound.stands
  · exact waits_update (hx.waits j) fun h => absurd h hj
  · simp [hquiet.phase, letIn]

/-- The starts of a session that have not been let in stay out, and one of them may be let in. -/
theorem Fresh.step (hx : Fresh config x) (hd : Does host x m y) :
    y.supervisor.roots = [] ∧ (Fresh config y ∨ ∃ i, ∀ past, Course config i past y) := by
  have hcalm (hroots : y.supervisor.roots = x.supervisor.roots) (hw : ∀ j, Waits config y j) :
      y.supervisor.roots = [] ∧ (Fresh config y ∨ ∃ i, ∀ past, Course config i past y) :=
    ⟨hroots.trans hx.roots, .inl ⟨hroots.trans hx.roots, hw⟩⟩
  cases hd with
  | @start i notice c p session hcall hdoes =>
    obtain ⟨hstage, hconfig⟩ := (hx.waits i).of_again hcall
    rcases hdoes.of_entry hstage with
      ⟨-, rfl, rfl⟩ | ⟨fault, -, -, rfl, rfl⟩ | ⟨-, -, hquiet, hfound⟩
    · exact hcalm rfl fun j => waits_update (hx.waits j) fun _ => ⟨_, rfl⟩
    · exact hcalm rfl fun j => waits_update (hx.waits j) fun _ => ⟨_, rfl⟩
    · exact ⟨hquiet.roots.trans hx.roots, .inr ⟨i, hx.begins hconfig hquiet hfound⟩⟩
  | stop _ hdoes => exact hcalm hdoes.startsNothing.roots hx.waits
  | idles => exact hcalm rfl hx.waits
  | reports hsteady => exact hcalm hsteady.roots hx.waits
  | passes hsteady => exact hcalm hsteady.roots hx.waits

/-- The next component in launch order is launched by a start, and what has to come before has
happened. -/
def InTurn (config : LaunchConfig) (i : Nat) (past : Past) (x y : Interleaving σ) (m : Move σ) :
    Prop :=
  ∃ notice h left, m = .start i notice ∧ x.supervisor.closed = false ∧
    y.supervisor.roots = h :: x.supervisor.roots ∧
    launched x.supervisor.roots ++ h.component :: left = config.components ∧
    Gated config past x.supervisor.roots

theorem Course.step {past past' : Past} (hx : Course config i past x) (hheeded : x.Heeded)
    (hd : Does host x m y) (hg : past.Grows past')
    (hadd : ∀ notice c, m = .start i notice → x.starts i = .again c →
      Adds host notice c x.session y.session past past') :
    Course config i past' y ∧
      (y.supervisor.roots ≠ x.supervisor.roots → InTurn (config i) i past x y m) := by
  have hbegun : y.session.phase ≠ .idle := fun h => hx.begun ((hd.onward hheeded).idle h)
  have hcalm (hroots : y.supervisor.roots = x.supervisor.roots) (hstarts : y.starts i = x.starts i)
      (hw : ∀ j, j ≠ i → Waits config y j) : Course config i past' y ∧
        (y.supervisor.roots ≠ x.supervisor.roots → InTurn (config i) i past x y m) := by
    refine ⟨⟨?_, hw, hbegun⟩, fun h => absurd hroots h⟩
    rw [hroots, hstarts]
    exact hx.stands.grows hg
  cases hd with
  | @start j notice c p session hcall hdoes =>
    by_cases hj : j = i
    · subst hj
      have hstands := hx.stands
      rw [hcall] at hstands
      refine ⟨⟨?_, fun k hk => waits_update (hx.waits k hk) fun h => absurd h hk, hbegun⟩,
        fun hne => ?_⟩
      · show Stands (config j) past' session.supervisor.roots (Function.update x.starts j p j)
        rw [Function.update_self]
        exact hdoes.stands hstands (hadd notice c rfl hcall)
      · rcases hdoes.spawns with hs | ⟨java, k, left, pid, wait, hstage, hopen, hroots, -, -⟩
        · exact absurd hs.roots hne
        · have hcourse := hstands.2
          simp only [hstage] at hcourse
          exact ⟨notice, ⟨k, pid⟩, left, rfl, hopen, hroots, hcourse⟩
    · obtain ⟨hstage, -⟩ := (hx.waits j hj).of_again hcall
      rcases hdoes.of_entry hstage with ⟨-, rfl, rfl⟩ | ⟨_, hidle, -⟩ | ⟨hidle, -⟩
      · exact hcalm rfl (Function.update_of_ne (Ne.symm hj) ..) fun k hk =>
          waits_update (hx.waits k hk) fun _ => ⟨_, rfl⟩
      · exact absurd hidle hx.begun
      · exact absurd hidle hx.begun
  | stop _ hdoes => exact hcalm hdoes.startsNothing.roots rfl hx.waits
  | idles => exact hcalm rfl rfl hx.waits
  | reports hsteady => exact hcalm hsteady.roots rfl hx.waits
  | passes hsteady => exact hcalm hsteady.roots rfl hx.waits

/-- Whether a move launches a component. -/
def Spawns (host : Host σ) (x : Interleaving σ) (m : Move σ) : Prop :=
  (x.step host m).supervisor.roots ≠ x.supervisor.roots

/-- No start has been let in, or one keeps to its course and has launched all in turn. -/
theorem fresh_or_course (hfirst : Fresh config first) (hheeded : first.Heeded)
    (ms : List (Move σ)) :
    (Fresh config (first.run host ms) ∧
      ∀ before m after, ms = before ++ m :: after → ¬ Spawns host (first.run host before) m) ∨
    ∃ i, Course config i (past host first i ms) (first.run host ms) ∧
      ∀ before m after, ms = before ++ m :: after → Spawns host (first.run host before) m →
        InTurn (config i) i (past host first i before) (first.run host before)
          ((first.run host before).step host m) m := by
  induction ms using List.reverseRecOn with
  | nil => exact .inl ⟨hfirst, fun before m after h => by simp at h⟩
  | append_singleton ms m ih =>
    have hheeded' := hheeded.run host ms
    have hd := step_does host m (first.run host ms)
    rw [run_concat]
    rcases ih with ⟨hfresh, hnone⟩ | ⟨i, hcourse, hturn⟩
    · obtain ⟨hroots, hnext⟩ := hfresh.step hd
      have hnone' : ∀ before m' after, ms ++ [m] = before ++ m' :: after →
          ¬ Spawns host (first.run host before) m' := fun before m' after h => by
        rcases split_concat h with ⟨rfl, rfl⟩ | ⟨after', h'⟩
        · exact fun hne => hne (hroots.trans hfresh.roots.symm)
        · exact hnone before m' after' h'
      rcases hnext with hfresh' | ⟨i, hcourse⟩
      · exact .inl ⟨hfresh', hnone'⟩
      · exact .inr ⟨i, hcourse _, fun before m' after h hs => absurd hs (hnone' before m' after h)⟩
    · have hadd : ∀ notice c, m = .start i notice → (first.run host ms).starts i = .again c →
          Adds host notice c (first.run host ms).session
            ((first.run host ms).step host m).session (past host first i ms)
            (past host first i (ms ++ [m])) := by
        rintro notice c rfl hcall
        exact past_adds hheeded' hcall
      obtain ⟨hcourse', hlast⟩ := hcourse.step hheeded' hd (past_grows host first i ms m) hadd
      refine .inr ⟨i, hcourse', fun before m' after h hs => ?_⟩
      rcases split_concat h with ⟨rfl, rfl⟩ | ⟨after', h'⟩
      · exact hlast hs
      · exact hturn before m' after' h' hs

theorem Waits.not_ok (hw : Waits config x j) : x.starts j ≠ .done (.ok ()) := by
  intro h
  rcases hw with ⟨c, hc, -⟩ | ⟨e, he⟩
  · cases hc.symm.trans h
  · cases he.symm.trans h

/-- The launches of a run are those of one start, in launch order, each in its turn. -/
structure InOrder (host : Host σ) (config : LaunchConfig) (first : Interleaving σ) (i : Nat)
    (ms : List (Move σ)) : Prop where
  isPrefix : launched (first.run host ms).supervisor.roots <+: config.components
  nodup : (launched (first.run host ms).supervisor.roots).Nodup
  /-- Whatever is launched is the next component of a start that all before are ready for. -/
  inTurn : ∀ before m after, ms = before ++ m :: after → Spawns host (first.run host before) m →
    ∃ notice h left, m = .start i notice ∧ (first.run host before).supervisor.closed = false ∧
      ((first.run host before).step host m).supervisor.roots =
        h :: (first.run host before).supervisor.roots ∧
      launched (first.run host before).supervisor.roots ++ h.component :: left =
        config.components ∧
      (config.checkJavaVersion = true → Happened host first before (AcceptsJava i)) ∧
      ∀ h' ∈ (first.run host before).supervisor.roots,
        Happened host first before (BecomesReady host i h')
  /-- Nothing is launched once a stop has closed the supervisor. -/
  closed : ∀ before after, ms = before ++ after →
    (first.run host before).supervisor.closed = true →
      (first.run host ms).supervisor.roots = (first.run host before).supervisor.roots
  /-- Only a start that has launched everything succeeds, and no stop came before it did. -/
  succeeds : ∀ j, (first.run host ms).starts j = .done (.ok ()) → j = i ∧
    launched (first.run host ms).supervisor.roots = config.components ∧
    (∀ h ∈ (first.run host ms).supervisor.roots, Happened host first ms (BecomesReady host i h)) ∧
    Happened host first ms (BecomesRunning host i)

theorem roots_of_closed {before after : List (Move σ)} (h : ms = before ++ after)
    (hclosed : (first.run host before).supervisor.closed = true) :
    (first.run host ms).supervisor.roots = (first.run host before).supervisor.roots := by
  rw [h, run_append]
  exact (startsNothing_run hclosed host after).roots

theorem Course.inOrder (hc : Course config i (past host first i ms) (first.run host ms))
    (hturn : ∀ before m after, ms = before ++ m :: after → Spawns host (first.run host before) m →
      InTurn (config i) i (past host first i before) (first.run host before)
        ((first.run host before).step host m) m) :
    InOrder host (config i) first i ms := by
  have hpre := hc.stands.isPrefix
  refine ⟨hpre, (config i).nodup_components.sublist hpre.sublist,
    fun before m after h hs => ?_, fun _ _ => roots_of_closed, fun j hj => ?_⟩
  · obtain ⟨notice, r, left, hm, hopen, hroots, hall, hgated⟩ := hturn before m after h hs
    exact ⟨notice, r, left, hm, hopen, hroots, hall, hgated.java, hgated.ready⟩
  · by_cases hji : j = i
    · subst hji
      have hdone := hc.stands
      rw [hj] at hdone
      exact ⟨rfl, hdone.all, hdone.ready, hdone.running⟩
    · exact absurd hj (hc.waits j hji).not_ok

/-- In every run of a session, on every host, one start launches components in launch order, each of
them after those before it are ready, and it succeeds only when all of them were launched and ready
before any stop. -/
theorem launches_in_order (host : Host σ) (world : σ) (now : Instant)
    (config : Nat → LaunchConfig) (probes : Nat → PerComponent (Probe σ)) (ms : List (Move σ)) :
    ∃ i, InOrder host (config i) (new world now config probes) i ms ∧
      (config i).components = if (config i).disableElasticsearch
        then [.connectorRuntime, .mainRuntime]
        else [.searchEngine, .connectorRuntime, .mainRuntime] := by
  have hheeded := heeded_new world now config probes
  rcases fresh_or_course (fresh_new world now config probes) hheeded ms with
    ⟨hfresh, hnone⟩ | ⟨i, hcourse, hturn⟩
  · refine ⟨0, ⟨?_, ?_, fun before m after h hs => ?_, fun _ _ => roots_of_closed,
      fun j hj => ?_⟩, (config 0).components_eq⟩
    · rw [hfresh.roots]
      exact List.nil_prefix
    · rw [hfresh.roots]
      exact List.nodup_nil
    · exact absurd hs (hnone before m after h)
    · exact absurd hj (hfresh.waits j).not_ok
  · exact ⟨i, hcourse.inOrder hturn, (config i).components_eq⟩

end Interleaving

end Launchpad
