import Launchpad.Proofs.Session.LaunchOrder
import Launchpad.Proofs.Supervisor.Records

/-!
# What a start deploys

While a start that has been let in goes on, the records are those of the components that it has
launched so far, and what lives of them is ready but for the one that is waited for. `Deploys` says
so for every stage. What the start leaves when it succeeds is `Deployed`: a record for every
component of the configuration, and each of them says that its process runs or that it is gone.

Anybody may look at the processes meanwhile and find some of them gone. Such a record stays as it
was found, also when its component is said to be ready or running afterwards; so a start takes along
the components that were `seen` gone.
-/

namespace Launchpad

open Supervisor

variable {σ : Type} {host : Host σ} {up seen seen' : List Component} {config : LaunchConfig}

namespace Supervisor

variable {s s' : Supervisor σ}

/-- The components `up` have records, no other one has, and those `seen` are gone. -/
structure Bears (up seen : List Component) (s : Supervisor σ) : Prop where
  up : ∀ c, (s.record? c).isSome = true ↔ c ∈ up
  seen : ∀ c ∈ seen, s.Gone c

theorem Bears.retains (hb : Bears up seen s) (hr : Retains s s') : Bears up seen s' :=
  ⟨fun c => by rw [hr.isSome, hb.up], fun c hc => hr.gone (hb.seen c hc)⟩

theorem Bears.record?_eq_none (hb : Bears [] seen s) (c : Component) : s.record? c = none := by
  simpa using (hb.up c).not.mpr List.not_mem_nil

/-- Where there is no record, none comes up by itself. -/
theorem Bears.startsNothing (hb : Bears [] seen s) (hs : StartsNothing s s') :
    Bears [] seen s' := by
  refine ⟨fun c => ?_, fun c hc => ?_⟩
  · cases hr : s'.record? c with
    | none => simp
    | some r' =>
      obtain ⟨r, hr, -⟩ := hs.records c r' hr
      cases (hb.record?_eq_none c).symm.trans hr
  · obtain ⟨r, hr, -⟩ := hb.seen c hc
    cases (hb.record?_eq_none c).symm.trans hr

/-- A record that is new takes the place of none. -/
theorem Bears.concat {k : Component} (hb : Bears up seen s) (hk : k ∉ up)
    (hnew : (s'.record? k).isSome = true) (hothers : ∀ d, d ≠ k → s'.record? d = s.record? d) :
    Bears (up ++ [k]) seen s' := by
  refine ⟨fun c => ?_, fun c hc => ?_⟩
  · by_cases hck : c = k
    · simp [hck, hnew]
    · simp [hothers c hck, hb.up c, hck]
  · -- a component that was seen gone has a record already
    obtain ⟨r, hr, hl⟩ := hb.seen c hc
    have hup : c ∈ up := (hb.up c).mp (by rw [hr]; rfl)
    have hck : c ≠ k := by
      rintro rfl
      exact hk hup
    exact ⟨r, (hothers c hck).trans hr, hl⟩

end Supervisor

namespace Session

/-- Whether the phase is that of a deployment that has been started, degraded only when something
of it is gone. -/
def PhaseFits (s : Session σ) : Prop :=
  s.phase = .running ∨ (∃ exited, s.phase = .degraded exited) ∧ ∃ c, s.supervisor.Gone c

/-- Everything has a record and runs, or is gone. -/
structure Deployed (config : LaunchConfig) (seen : List Component) (s : Session σ) : Prop where
  bears : s.supervisor.Bears config.components seen
  running : ∀ c, s.supervisor.Shows c .running
  phase : s.PhaseFits

end Session

namespace Start

variable {c : Start σ} {s s' : Session σ} {p : Progress (Start σ) (Except Error Unit)}
  {java : Path}

/-- How far a start that has been let in has deployed its components, or what its result says. -/
inductive Deploys (config : LaunchConfig) (seen : List Component) (s : Session σ) :
    Progress (Start σ) (Except Error Unit) → Prop
  | checkingJava {c : Start σ} {java : Path} {wait : ToolWait} (hconfig : c.config = config)
      (hstage : c.stage = .checkingJava java wait) (hbears : s.supervisor.Bears [] seen) :
      Deploys config seen s (.again c)
  | launching {c : Start σ} {java : Path} {up left : List Component} (hconfig : c.config = config)
      (hstage : c.stage = .launching java left) (hall : up ++ left = config.components)
      (hbears : s.supervisor.Bears up seen) (hready : ∀ d, s.supervisor.Shows d .ready) :
      Deploys config seen s (.again c)
  | awaiting {c : Start σ} {java : Path} {up left : List Component} {wait : ReadinessWait σ}
      (hconfig : c.config = config) (hstage : c.stage = .awaiting java left wait)
      (hall : up ++ wait.handle.component :: left = config.components)
      (hbears : s.supervisor.Bears (up ++ [wait.handle.component]) seen)
      (htracked : s.supervisor.Tracked wait.handle)
      (hready : ∀ d, d ≠ wait.handle.component → s.supervisor.Shows d .ready) :
      Deploys config seen s (.again c)
  | openingBrowser {c : Start σ} (hstage : c.stage = .openingBrowser)
      (hdone : s.Deployed config seen) : Deploys config seen s (.again c)
  | rollingBack {c : Start σ} {e : Error} {w : Sweep} (hstage : c.stage = .rollingBack e w) :
      Deploys config seen s (.again c)
  | succeeds (hdone : s.Deployed config seen) : Deploys config seen s (.done (.ok ()))
  | fails (e : Error) : Deploys config seen s (.done (.error e))

/-- While records only fade, a start stays where it is. -/
theorem Deploys.fades (h : Deploys config seen s p) (hf : Fades s.supervisor s'.supervisor)
    (hbears : ∀ up, s.supervisor.Bears up seen → s'.supervisor.Bears up seen')
    (hphase : s.Deployed config seen → s'.PhaseFits) : Deploys config seen' s' p := by
  have hdone (hd : s.Deployed config seen) : s'.Deployed config seen' :=
    ⟨hbears _ hd.bears, fun c => hf.shows c _ (hd.running c), hphase hd⟩
  cases h with
  | checkingJava hconfig hstage hb => exact .checkingJava hconfig hstage (hbears _ hb)
  | launching hconfig hstage hall hb hready =>
    exact .launching hconfig hstage hall (hbears _ hb) fun d => hf.shows d _ (hready d)
  | awaiting hconfig hstage hall hb htracked hready =>
    exact .awaiting hconfig hstage hall (hbears _ hb) (hf.tracked htracked)
      fun d hd => hf.shows d _ (hready d hd)
  | openingBrowser hstage hd => exact .openingBrowser hstage (hdone hd)
  | rollingBack hstage => exact .rollingBack hstage
  | succeeds hd => exact .succeeds (hdone hd)
  | fails e => exact .fails e

/-! ## Steps -/

theorem deploys_fail (c : Start σ) (e : Error) (s s' : Session σ) :
    Deploys config seen s' (c.fail e s).1 := by
  rcases (fail_eq c e s).2 with ⟨heq, -⟩ | heq
  · rw [heq]
    exact .fails .cancelled
  · rw [heq]
    exact .rollingBack rfl

/-- A start sets out without any record. -/
theorem Found.deploys (h : Found c s p) (hb : s.supervisor.Bears [] seen) :
    Deploys c.config seen s p := by
  cases h with
  | fails e => exact deploys_fail c e s s
  | asks => exact .checkingJava rfl rfl hb
  | goes =>
    exact .launching rfl rfl (List.nil_append _) hb fun d => shows_of_none (hb.record?_eq_none d)

theorem deploys_checkJava {wait : ToolWait} (hconfig : c.config = config)
    (hb : s.supervisor.Bears [] seen) :
    Deploys config seen (c.checkJava java wait s).2 (c.checkJava java wait s).1 := by
  unfold checkJava
  split
  · exact .checkingJava hconfig rfl hb
  · exact deploys_fail c _ s _
  · split
    · exact deploys_fail c _ s _
    · exact .launching hconfig rfl (by rw [hconfig]; rfl) hb
        fun d => shows_of_none (hb.record?_eq_none d)

theorem deploys_complete (hb : s.supervisor.Bears config.components seen)
    (hready : ∀ d, s.supervisor.Shows d .ready) :
    Deploys config seen (c.complete s).2 (c.complete s).1 := by
  have hdone : ({ s with supervisor := s.supervisor.markRunning, phase := .running } :
      Session σ).Deployed config seen :=
    ⟨hb.retains (retains_markRunning s.supervisor), fun d => shows_markRunning (hready d), .inl rfl⟩
  unfold complete
  dsimp only
  split
  · split
    · exact .openingBrowser rfl hdone
    · exact .succeeds hdone
  · exact .fails .cancelled

theorem deploys_launch {k : Component} {left : List Component} (hconfig : c.config = config)
    (hall : up ++ k :: left = config.components) (hb : s.supervisor.Bears up seen)
    (hready : ∀ d, s.supervisor.Shows d .ready) :
    Deploys config seen (c.launch host java k left s).2 (c.launch host java k left s).1 := by
  have hk : k ∉ up := by
    have hnodup := config.nodup_components
    rw [← hall, List.nodup_append] at hnodup
    exact fun hk => hnodup.2.2 k hk k List.mem_cons_self rfl
  unfold launch
  split
  · exact deploys_fail c _ s _
  · dsimp only
    split
    · exact deploys_fail c _ _ _
    · next command _ =>
      have hothers : ∀ d, d ≠ k → (Supervisor.launch host k command
          (s.supervisor.note (.build (c.config.request java k)))).2.record? d =
            s.supervisor.record? d := fun d hd => record?_launch host command _ hd
      unfold Session.withSupervisor
      dsimp only
      rcases launch_cases host k command (s.supervisor.note (.build (c.config.request java k))) with
        ⟨e, supervisor, heq, -⟩ | ⟨pid, supervisor, heq, -, hext, -⟩
      · rw [heq]
        exact deploys_fail c e _ _
      · rw [heq] at hothers ⊢
        obtain ⟨r, hr, hp⟩ := hext.started ⟨k, pid⟩ (List.mem_singleton_self _)
        have hb' : supervisor.Bears (up ++ [k]) seen :=
          hb.concat hk (Option.isSome_iff_exists.mpr ⟨r, hr⟩) hothers
        exact .awaiting hconfig rfl hall hb' ⟨r, hr, hp⟩ fun d hd =>
          (hready d).of_record? (hothers d hd)

theorem deploys_await {notice : Bool} {left : List Component} {wait : ReadinessWait σ}
    (hconfig : c.config = config) (hall : up ++ wait.handle.component :: left = config.components)
    (hb : s.supervisor.Bears (up ++ [wait.handle.component]) seen)
    (htracked : s.supervisor.Tracked wait.handle)
    (hready : ∀ d, d ≠ wait.handle.component → s.supervisor.Shows d .ready) :
    Deploys config seen (c.await host notice java left wait s).2
      (c.await host notice java left wait s).1 := by
  obtain ⟨-, hsame⟩ := wait.goes_step host (s.cancelled && notice) s.supervisor
  obtain ⟨htouches, hdone⟩ := wait.settles_step host (s.cancelled && notice) s.supervisor
  unfold await Session.withSupervisor
  cases hstep : wait.step host (s.cancelled && notice) s.supervisor with
  | mk q supervisor =>
    rw [hstep] at hsame htouches hdone
    have hb' := hb.retains htouches.toRetains
    have hready' : ∀ d, d ≠ wait.handle.component → supervisor.Shows d .ready := fun d hd =>
      (hready d hd).of_record? (htouches.others d hd)
    match q with
    | .again wait' =>
      have hwait := hsame wait' rfl
      rw [← hwait] at hall hb' hready'
      exact .awaiting hconfig rfl hall hb' (hwait ▸ htouches.tracked htracked) hready'
    | .done (.ok ()) =>
      -- the record is ready now, unless it was seen gone while the probe was asked
      refine .launching hconfig rfl (by rw [List.append_assoc]; exact hall) hb' fun d => ?_
      by_cases hd : d = wait.handle.component
      · rw [hd]
        exact hdone rfl htracked
      · exact hready' d hd
    | .done (.error e) => exact deploys_fail c e _ _

theorem deploys_openBrowser (hdone : s.Deployed config seen) :
    Deploys config seen (c.openBrowser host s).2 (c.openBrowser host s).1 := by
  have hf : Fades s.supervisor (c.openBrowser host s).2.supervisor := fades_of_table rfl
  exact (Deploys.succeeds hdone).fades hf (fun _ hb => hb.retains hf.toRetains) fun hd => hd.phase

theorem deploys_rollBack {e : Error} {w : Sweep} :
    Deploys config seen (c.rollBack host e w s).2 (c.rollBack host e w s).1 := by
  unfold rollBack
  split
  · exact .rollingBack rfl
  · exact .fails e

/-- A step of a start deploys as it should. -/
theorem Deploys.step (h : Deploys config seen s (.again c)) (host : Host σ) (notice : Bool) :
    Deploys config seen (c.step host notice s).2 (c.step host notice s).1 := by
  unfold Start.step
  cases h with
  | checkingJava hconfig hstage hb =>
    rw [hstage]
    exact deploys_checkJava hconfig hb
  | @launching _ java up left hconfig hstage hall hb hready =>
    rw [hstage]
    cases left with
    | nil =>
      rw [List.append_nil] at hall
      exact deploys_complete (hall ▸ hb) hready
    | cons k left => exact deploys_launch hconfig hall hb hready
  | awaiting hconfig hstage hall hb htracked hready =>
    rw [hstage]
    exact deploys_await hconfig hall hb htracked hready
  | openingBrowser hstage hdone =>
    rw [hstage]
    exact deploys_openBrowser hdone
  | rollingBack hstage =>
    rw [hstage]
    exact deploys_rollBack

end Start

/-! ## The phase -/

namespace Session

variable {s s' : Session σ} {ks : List ComponentStatus}

theorem PhaseFits.fades (h : s.PhaseFits) (hr : Retains s.supervisor s'.supervisor)
    (hphase : s'.phase = s.phase) : s'.PhaseFits := by
  unfold PhaseFits
  rw [hphase]
  exact h.imp_right fun ⟨hd, c, hc⟩ => ⟨hd, c, hr.gone hc⟩

/-- A report on a deployment leaves the phase alone if it lists nothing as gone. -/
theorem phaseAfter_of_open {phase : Phase}
    (h : phase = .running ∨ ∃ exited, phase = .degraded exited) (ks : List ComponentStatus) :
    phaseAfter phase ks =
      if ComponentStatus.gone ks = [] then phase else .degraded (ComponentStatus.gone ks) := by
  unfold phaseAfter
  simp only [← List.isEmpty_iff]
  rcases h with rfl | ⟨exited, rfl⟩ <;> rfl

theorem PhaseFits.tells (h : s.PhaseFits)
    (hgone : ∀ c ∈ ComponentStatus.gone ks, s.supervisor.Gone c) :
    PhaseFits { s with phase := phaseAfter s.phase ks } := by
  have hopen : s.phase = .running ∨ ∃ exited, s.phase = .degraded exited := h.imp_right And.left
  unfold PhaseFits
  dsimp only
  rw [phaseAfter_of_open hopen]
  split
  · exact h
  · next hne =>
    obtain ⟨c, hc⟩ := List.exists_mem_of_ne_nil _ hne
    exact .inr ⟨⟨_, rfl⟩, c, hgone c hc⟩

theorem phaseAfter_eq_idle {phase : Phase} : phaseAfter phase ks = .idle ↔ phase = .idle := by
  rcases ages_phaseAfter phase ks with h | ⟨h | ⟨_, h⟩, _, h'⟩ <;> simp_all

end Session

/-! ## All starts of a session -/

namespace Interleaving

variable {config : Nat → LaunchConfig} {i j : Nat} {x y : Interleaving σ} {session : Session σ}
  {notice : Bool}

/-- No start has been let in. -/
structure Unbegun (config : Nat → LaunchConfig) (seen : List Component) (x : Interleaving σ) :
    Prop where
  phase : x.session.phase = .idle
  bears : x.supervisor.Bears [] seen
  waits : ∀ j, Waits config x j

/-- One start has been let in and deploys its components. -/
structure Serves (config : Nat → LaunchConfig) (seen : List Component) (i : Nat)
    (x : Interleaving σ) : Prop where
  deploys : Start.Deploys (config i) seen x.session (x.starts i)
  waits : ∀ j, j ≠ i → Waits config x j
  begun : x.session.phase ≠ .idle

/-- One start at most deploys its components, and what was seen gone is gone. -/
def Upheld (config : Nat → LaunchConfig) (seen : List Component) (x : Interleaving σ) : Prop :=
  Unbegun config seen x ∨ ∃ i, Serves config seen i x

theorem upheld_new (world : σ) (now : Instant) (config : Nat → LaunchConfig)
    (probes : Nat → PerComponent (Probe σ)) : Upheld config [] (new world now config probes) := by
  have hnone (c : Component) : (new world now config probes).supervisor.record? c = none :=
    PerComponent.get_const none c
  refine .inl ⟨rfl, ⟨fun c => ?_, List.forall_mem_nil _⟩, (fresh_new world now config probes).waits⟩
  simp [hnone c]

/-- The first start that finds its session idle and its configuration valid is let in. -/
theorem Unbegun.start (hx : Unbegun config seen x) (hd : Does host x (.start j notice) y) :
    Upheld config seen y := by
  cases hd with
  | @start _ _ c p session hcall hdoes =>
    obtain ⟨hstage, hconfig⟩ := (hx.waits j).of_again hcall
    rcases hdoes.of_entry hstage with
      ⟨-, rfl, rfl⟩ | ⟨fault, -, -, rfl, rfl⟩ | ⟨-, -, hquiet, hfound⟩
    · exact .inl ⟨hx.phase, hx.bears, fun k => waits_update (hx.waits k) fun _ => ⟨_, rfl⟩⟩
    · exact .inl ⟨hx.phase, hx.bears, fun k => waits_update (hx.waits k) fun _ => ⟨_, rfl⟩⟩
    · have hb : session.supervisor.Bears [] seen := hx.bears.startsNothing hquiet.toStartsNothing
      refine .inr ⟨j, ?_, fun k hk => waits_update (hx.waits k) fun h => absurd h hk, ?_⟩
      · show Start.Deploys (config j) seen session (Function.update x.starts j p j)
        rw [Function.update_self, ← hconfig]
        exact hfound.deploys hb
      · simp [hquiet.phase, Start.letIn]
  | idles => exact .inl hx

/-- A start that comes after another one is refused. -/
theorem Does.refused (hd : Does host x (.start j notice) y) (hw : Waits config x j)
    (hbegun : x.session.phase ≠ .idle) :
    y.session = x.session ∧ Waits config y j ∧ ∀ k, k ≠ j → y.starts k = x.starts k := by
  cases hd with
  | @start _ _ c p session hcall hdoes =>
    obtain ⟨hstage, -⟩ := hw.of_again hcall
    rcases hdoes.of_entry hstage with ⟨-, rfl, rfl⟩ | ⟨_, hidle, -⟩ | ⟨hidle, -⟩
    · exact ⟨rfl, waits_update hw fun _ => ⟨_, rfl⟩, fun k hk => Function.update_of_ne hk ..⟩
    · exact absurd hidle hbegun
    · exact absurd hidle hbegun
  | idles => exact ⟨rfl, hw, fun _ _ => rfl⟩

theorem step_start_done {r : Except Error Unit} (h : x.starts j = .done r) :
    x.step host (.start j notice) = x := by
  unfold step
  dsimp only
  rw [h]

theorem Serves.start (hx : Serves config seen i x) (host : Host σ) (j : Nat) (notice : Bool) :
    Serves config seen i (x.step host (.start j notice)) := by
  by_cases hj : j = i
  · subst hj
    cases hcall : x.starts j with
    | done r => rwa [step_start_done hcall]
    | again c =>
      have hdeploys := hx.deploys
      rw [hcall] at hdeploys
      rw [step_start hcall]
      refine ⟨?_, fun k hk => waits_update (hx.waits k hk) fun h => absurd h hk, fun h => ?_⟩
      · show Start.Deploys _ _ _ (Function.update x.starts j _ j)
        rw [Function.update_self]
        exact hdeploys.step host notice
      · exact hx.begun ((c.step_does host notice x.session).onward.idle h)
  · obtain ⟨hsession, hw, hstarts⟩ :=
      (step_does host (.start j notice) x).refused (hx.waits j hj) hx.begun
    refine ⟨?_, fun k hk => ?_, ?_⟩
    · rw [hsession, hstarts i (Ne.symm hj)]
      exact hx.deploys
    · by_cases hkj : k = j
      · rwa [hkj]
      · exact (hx.waits k hk).of_starts (hstarts k hkj)
    · rw [hsession]
      exact hx.begun

theorem Upheld.start (hx : Upheld config seen x) (host : Host σ) (j : Nat) (notice : Bool) :
    Upheld config seen (x.step host (.start j notice)) := by
  rcases hx with hx | ⟨i, hx⟩
  · exact hx.start (step_does host _ x)
  · exact .inr ⟨i, hx.start host j notice⟩

/-- Whatever only looks at the processes or lets time pass. -/
theorem Upheld.fades (hx : Upheld config seen x) (hf : Fades x.supervisor session.supervisor)
    (hseen : ∀ up, x.supervisor.Bears up seen → session.supervisor.Bears up seen')
    (hphase : session.phase = x.session.phase) : Upheld config seen' { x with session } := by
  rcases hx with hx | ⟨i, hx⟩
  · exact .inl ⟨hphase.trans hx.phase, hseen [] hx.bears, hx.waits⟩
  · refine .inr ⟨i, hx.deploys.fades hf hseen fun hd => hd.phase.fades hf.toRetains hphase,
      hx.waits, ?_⟩
    rw [hphase]
    exact hx.begun

/-- A report settles the phase. -/
theorem Upheld.tells {ks : List ComponentStatus}
    (hx : Upheld config (ComponentStatus.gone ks) x) :
    Upheld config [] { x with session := { x.session with
      phase := Session.phaseAfter x.session.phase ks } } := by
  have hbears {up : List Component} {s : Supervisor σ}
      (hb : s.Bears up (ComponentStatus.gone ks)) : s.Bears up [] :=
    ⟨hb.up, List.forall_mem_nil _⟩
  rcases hx with hx | ⟨i, hx⟩
  · exact .inl ⟨Session.phaseAfter_eq_idle.mpr hx.phase, hbears hx.bears, hx.waits⟩
  · refine .inr ⟨i, hx.deploys.fades (.refl _) (fun _ => hbears) fun hd =>
      hd.phase.tells hd.bears.seen, hx.waits, ?_⟩
    exact fun h => hx.begun (Session.phaseAfter_eq_idle.mp h)

/-- Once a start has succeeded all is deployed, and no start has any effect. -/
theorem Upheld.deployed (hx : Upheld config seen x) (h : x.starts i = .done (.ok ())) :
    x.session.Deployed (config i) seen ∧
      ∀ (host : Host σ) j notice, (x.step host (.start j notice)).session = x.session := by
  rcases hx with hx | ⟨k, hx⟩
  · exact absurd h (hx.waits i).not_ok
  · by_cases hik : i = k
    · subst hik
      have hdeploys := hx.deploys
      rw [h] at hdeploys
      cases hdeploys with
      | succeeds hdone =>
        refine ⟨hdone, fun host j notice => ?_⟩
        by_cases hj : j = i
        · rw [hj, step_start_done h]
        · exact ((step_does host _ x).refused (hx.waits j hj) hx.begun).1
    · exact absurd h (hx.waits i hik).not_ok

end Interleaving

end Launchpad
