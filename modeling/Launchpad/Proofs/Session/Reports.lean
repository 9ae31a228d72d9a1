import Launchpad.Proofs.Scripted.Host
import Launchpad.Proofs.Session.Deployment

/-!
# Successive reports

From the moment that a start has succeeded, the reports on its session tell how the deployment wears
away: each of them lists every component of the configuration, the session is running as long as all
of them are alive and degraded by those that are not from then on, and what is not alive stays so
(`degrades_for_good`).

A report uses the records and then the phase, under a lock for each. Between the two, and between
one report and the next, starts go on, time passes and processes exit. So a report is two moves of a
`Watch`: a look, which lists the components, and a tell, which settles the phase by that list. A
look that was made before the start succeeded may list components that are not ready, but what it
found gone is gone when the start succeeds (`Upheld`).
-/

namespace Launchpad

open Supervisor Interleaving

variable {σ : Type} {host : Host σ} {config : Nat → LaunchConfig} {seen seen' : List Component}
  {i j : Nat}

/-! ## Reports that are made one after the other -/

/-- A report that is under way: how the starts stood when it was called for, and what it lists. -/
structure Sight (σ : Type) where
  starts : Nat → Progress (Start σ) (Except Error Unit)
  components : List ComponentStatus

/-- A report that has been made. -/
structure Told (σ : Type) extends Sight σ where
  phase : Phase

def Told.report (t : Told σ) : Report := ⟨t.phase, t.components⟩

/-- Calls of a session on which one report after the other is made. -/
structure Watch (σ : Type) where
  calls : Interleaving σ
  sight : Option (Sight σ) := none
  told : List (Told σ) := []

namespace Watch

/-- What can happen before a stop. -/
inductive Move (σ : Type) where
  | start (i : Nat) (notice : Bool)
  | outside (passed : Duration) (change : σ → σ)
  /-- A report is called for and looks at the processes. -/
  | look
  /-- The report that is under way is made. -/
  | tell

/-- A session of which nothing has happened yet. -/
def new (world : σ) (now : Instant) (config : Nat → LaunchConfig)
    (probes : Nat → PerComponent (Probe σ)) : Watch σ where
  calls := .new world now config probes

/-- Looks at every process, unless a report is under way. -/
def look (host : Host σ) (w : Watch σ) : Watch σ :=
  match w.sight with
  | some _ => w
  | none =>
    let (components, session) := w.calls.session.withSupervisor (refresh host)
    { w with calls := { w.calls with session }, sight := some ⟨w.calls.starts, components⟩ }

/-- Settles the phase by what the report lists. -/
def tell (w : Watch σ) : Watch σ :=
  match w.sight with
  | none => w
  | some sight =>
    let phase := Session.phaseAfter w.calls.session.phase sight.components
    { calls := { w.calls with session := { w.calls.session with phase } }
      sight := none
      told := w.told ++ [{ sight with phase }] }

def step (host : Host σ) (m : Move σ) (w : Watch σ) : Watch σ :=
  match m with
  | .start i notice => { w with calls := w.calls.step host (.start i notice) }
  | .outside passed change => { w with calls := w.calls.step host (.outside passed change) }
  | .look => w.look host
  | .tell => w.tell

def run (host : Host σ) (w : Watch σ) (ms : List (Move σ)) : Watch σ :=
  ms.foldl (fun w m => w.step host m) w

def succeeded : Progress (Start σ) (Except Error Unit) → Bool
  | .done (.ok ()) => true
  | _ => false

@[simp] theorem succeeded_iff {p : Progress (Start σ) (Except Error Unit)} :
    succeeded p = true ↔ p = .done (.ok ()) := by
  unfold succeeded
  split <;> simp_all

/-- The reports that were called for after a start had succeeded. -/
def reportsSince (i : Nat) (w : Watch σ) : List Report :=
  (w.told.filter fun t => succeeded (t.starts i)).map Told.report

end Watch

/-! ## What the reports say -/

open ComponentStatus (gone)

/-- A report on a deployment that has been started. -/
structure Report.Sound (config : LaunchConfig) (r : Report) : Prop where
  listed : r.components.map (·.component) = config.components
  running : r.phase = .running ↔ ∀ k ∈ r.components, k.status.isLive = true
  degraded : r.phase ≠ .running → r.phase = .degraded (gone r.components)
  live : ∀ k ∈ r.components, k.status.isLive = true → k.status = .running

/-- A report and a later one: the same processes are listed, what is not alive has not changed and
more of it is listed in the same order, and the session does not run again. -/
structure Report.Precedes (r r' : Report) : Prop where
  processes : r'.components.map (fun k => (k.component, k.pid)) =
    r.components.map fun k => (k.component, k.pid)
  final : ∀ k ∈ r.components, k.status.isLive = false → k ∈ r'.components
  gone : (gone r.components).Sublist (gone r'.components)
  phase : r.phase ≠ .running → r'.phase ≠ .running

theorem LaunchConfig.component_statuses {config : LaunchConfig} {s : Supervisor σ}
    (hb : s.Bears config.components seen) :
    s.statuses.map (·.component) = config.components := by
  rw [Supervisor.component_statuses]
  refine List.filter_congr fun c _ => ?_
  have hiff : (s.record? c).isSome = true ↔ _ := (hb.up c).trans List.mem_filter
  rw [Bool.eq_iff_iff, hiff]
  simp [Component.mem_launchOrder]

/-- While nothing is gone, a deployment is running. -/
theorem Session.Deployed.phase_eq {config : LaunchConfig} {s : Session σ}
    (h : s.Deployed config seen) (hnil : gone s.supervisor.statuses = []) : s.phase = .running := by
  refine h.phase.resolve_right ?_
  rintro ⟨-, c, hc⟩
  have hmem := mem_gone_statuses.mpr hc
  rw [hnil] at hmem
  exact List.not_mem_nil hmem

/-- A report that lists the records as they are is sound. -/
theorem Session.Deployed.sound {config : LaunchConfig} {s : Session σ}
    (h : s.Deployed config seen) :
    Report.Sound config ⟨phaseAfter s.phase s.supervisor.statuses, s.supervisor.statuses⟩ := by
  have hopen : s.phase = .running ∨ ∃ exited, s.phase = .degraded exited :=
    h.phase.imp_right And.left
  have hphase := phaseAfter_of_open hopen s.supervisor.statuses
  refine ⟨LaunchConfig.component_statuses h.bears, ?_, ?_, fun k hk hl => ?_⟩
  · dsimp only
    rw [← ComponentStatus.gone_eq_nil, hphase]
    split
    · next hnil => exact iff_of_true (h.phase_eq hnil) hnil
    · next hne => exact iff_of_false nofun hne
  · dsimp only
    rw [hphase]
    split
    · next hnil => exact fun hne => absurd (h.phase_eq hnil) hne
    · exact fun _ => rfl
  · obtain ⟨r, hr, heq⟩ := mem_statuses.mp hk
    rw [heq] at hl ⊢
    exact h.running k.component r hr hl

/-- What a report that has been made says of the session that it is about. -/
structure Report.Recalls (r : Report) (s : Session σ) : Prop where
  records : ∃ s₀, r.components = statuses s₀ ∧ Retains s₀ s.supervisor
  phase : r.phase ≠ .running → s.phase ≠ .running

theorem Report.Recalls.retains {r : Report} {s s' : Session σ} (h : r.Recalls s)
    (hr : Retains s.supervisor s'.supervisor) (hphase : s.phase ≠ .running → s'.phase ≠ .running) :
    r.Recalls s' := by
  obtain ⟨s₀, hs₀, hr₀⟩ := h.records
  exact ⟨⟨s₀, hs₀, hr₀.trans hr⟩, hphase ∘ h.phase⟩

theorem Report.Recalls.precedes {r : Report} {s : Session σ} (h : r.Recalls s) {phase : Phase}
    (hphase : s.phase ≠ .running → phase ≠ .running) :
    r.Precedes ⟨phase, s.supervisor.statuses⟩ := by
  obtain ⟨s₀, hs₀, hr₀⟩ := h.records
  have hlisted := hr₀.statuses
  rw [← hs₀] at hlisted
  exact ⟨ComponentStatus.processes_eq hlisted, ComponentStatus.mem_of_gone hlisted,
    ComponentStatus.sublist_gone hlisted, hphase ∘ h.phase⟩

/-- A session that does not run is not made to run by a report. -/
theorem Session.phaseAfter_ne_running {phase : Phase} (h : phase ≠ .running)
    (ks : List ComponentStatus) : phaseAfter phase ks ≠ .running := by
  rcases ages_phaseAfter phase ks with h' | ⟨-, exited, h'⟩
  · rwa [h']
  · rw [h']
    nofun

namespace Watch

variable {w : Watch σ}

/-- What the report under way has found gone. -/
def found (w : Watch σ) : List Component := gone ((w.sight.map Sight.components).getD [])

/-- What is kept while one report after the other is made. -/
structure Kept (config : Nat → LaunchConfig) (w : Watch σ) : Prop where
  calls : Upheld config w.found w.calls
  sight : ∀ t, w.sight = some t → ∀ i, t.starts i = .done (.ok ()) →
    w.calls.starts i = .done (.ok ()) ∧ t.components = w.calls.supervisor.statuses
  told : ∀ t ∈ w.told, ∀ i, t.starts i = .done (.ok ()) →
    w.calls.starts i = .done (.ok ()) ∧ t.report.Sound (config i) ∧ t.report.Recalls w.calls.session
  successive : ∀ i, (w.reportsSince i).Pairwise Report.Precedes

theorem kept_new (world : σ) (now : Instant) (config : Nat → LaunchConfig)
    (probes : Nat → PerComponent (Probe σ)) : (new world now config probes).Kept config where
  calls := upheld_new world now config probes
  sight _ h := by cases h
  told := List.forall_mem_nil _
  successive _ := .nil

/-- A start, or a while that passes. -/
theorem Kept.goes (hw : w.Kept config) {calls : Interleaving σ}
    (hcalls : Upheld config w.found calls)
    (hstarts : ∀ i, w.calls.starts i = .done (.ok ()) → calls.starts i = .done (.ok ()) ∧
      calls.supervisor.table = w.calls.supervisor.table ∧
        calls.session.phase = w.calls.session.phase) :
    Kept config { w with calls } where
  calls := hcalls
  sight t ht i hi := by
    obtain ⟨hdone, heq⟩ := hw.sight t ht i hi
    obtain ⟨hdone', htable, -⟩ := hstarts i hdone
    refine ⟨hdone', heq.trans ?_⟩
    unfold statuses record?
    rw [htable]
  told t ht i hi := by
    obtain ⟨hdone, hsound, hrecalls⟩ := hw.told t ht i hi
    obtain ⟨hdone', htable, hphase⟩ := hstarts i hdone
    exact ⟨hdone', hsound,
      hrecalls.retains (fades_of_table htable).toRetains fun h => by rwa [hphase]⟩
  successive := hw.successive

theorem Kept.start (hw : w.Kept config) (host : Host σ) (j : Nat) (notice : Bool) :
    (w.step host (.start j notice)).Kept config := by
  refine hw.goes (hw.calls.start host j notice) fun i hi => ?_
  -- once a start has succeeded, whatever goes on is refused
  have hsession := (hw.calls.deployed hi).2 host j notice
  rw [supervisor, hsession]
  exact ⟨(step_does host _ w.calls).starts_done hi, rfl, rfl⟩

theorem Kept.outside (hw : w.Kept config) (host : Host σ) (passed : Duration) (change : σ → σ) :
    (w.step host (.outside passed change)).Kept config := by
  refine hw.goes ?_ fun i hi => ⟨hi, rfl, rfl⟩
  have hf : Fades w.calls.supervisor
      { w.calls.supervisor with
        now := w.calls.supervisor.now + passed, world := change w.calls.supervisor.world } :=
    fades_of_table rfl
  exact hw.calls.fades hf (fun _ hb => hb.retains hf.toRetains) rfl

theorem Kept.look (hw : w.Kept config) (host : Host σ) : (w.look host).Kept config := by
  have hf := fades_refresh host w.calls.supervisor
  unfold Watch.look
  split
  · exact hw
  · have hseen {up : List Component} (hb : w.calls.supervisor.Bears up w.found) :
        (w.calls.supervisor.refresh host).2.Bears up
          (gone (w.calls.supervisor.refresh host).2.statuses) :=
      ⟨(hb.retains hf.toRetains).up, fun c hc => mem_gone_statuses.mp hc⟩
    refine ⟨hw.calls.fades hf (fun _ => hseen) rfl, ?_, fun t ht i hi => ?_, hw.successive⟩
    · rintro t ⟨⟩ i hi
      exact ⟨hi, rfl⟩
    · obtain ⟨hdone, hsound, hrecalls⟩ := hw.told t ht i hi
      exact ⟨hdone, hsound, hrecalls.retains hf.toRetains id⟩

theorem reportsSince_concat (w : Watch σ) (calls : Interleaving σ) (t : Told σ) (i : Nat) :
    reportsSince i { calls, told := w.told ++ [t] } =
      w.reportsSince i ++ if succeeded (t.starts i) then [t.report] else [] := by
  unfold reportsSince
  rw [List.filter_append, List.map_append]
  congr 1
  by_cases h : succeeded (t.starts i) = true <;> simp [h]

theorem mem_reportsSince {r : Report} :
    r ∈ w.reportsSince i ↔ ∃ t ∈ w.told, t.starts i = .done (.ok ()) ∧ t.report = r := by
  simp [reportsSince, and_assoc]

theorem Kept.tell (hw : w.Kept config) : w.tell.Kept config := by
  unfold Watch.tell
  split
  · exact hw
  · next sight hsight =>
    have hcalls := hw.calls
    unfold found at hcalls
    rw [hsight] at hcalls
    -- a report that was called for after the start lists the records as they still are
    have hnew (i : Nat) (hi : sight.starts i = .done (.ok ())) := hw.sight sight hsight i hi
    refine ⟨hcalls.tells, nofun, fun t ht i hi => ?_, fun i => ?_⟩
    · rcases List.mem_append.mp ht with ht | ht
      · obtain ⟨hdone, hsound, hrecalls⟩ := hw.told t ht i hi
        exact ⟨hdone, hsound,
          hrecalls.retains (.refl _) fun h => Session.phaseAfter_ne_running h _⟩
      · cases List.mem_singleton.mp ht
        obtain ⟨hdone, hlisted⟩ := hnew i hi
        have hsound := (hcalls.deployed hdone).1.sound
        rw [← hlisted] at hsound
        exact ⟨hdone, hsound, ⟨_, hlisted, .refl _⟩, id⟩
    · rw [reportsSince_concat]
      split
      · next hi =>
        obtain ⟨hdone, hlisted⟩ := hnew i (succeeded_iff.mp hi)
        refine List.pairwise_append.mpr ⟨hw.successive i, List.pairwise_singleton _ _, ?_⟩
        intro r hr r' hr'
        obtain ⟨t, ht, hti, rfl⟩ := mem_reportsSince.mp hr
        rw [List.mem_singleton.mp hr']
        have hprecedes := (hw.told t ht i hti).2.2.precedes fun h =>
          Session.phaseAfter_ne_running h sight.components
        rwa [← hlisted] at hprecedes
      · rw [List.append_nil]
        exact hw.successive i

theorem Kept.step (hw : w.Kept config) (host : Host σ) (m : Move σ) :
    (w.step host m).Kept config := by
  cases m with
  | start i notice => exact hw.start host i notice
  | outside passed change => exact hw.outside host passed change
  | look => exact hw.look host
  | tell => exact hw.tell

theorem Kept.run (hw : w.Kept config) (host : Host σ) (ms : List (Move σ)) :
    (w.run host ms).Kept config := by
  induction ms generalizing w with
  | nil => exact hw
  | cons m ms ih => exact ih (hw.step host m)

/-- In every run of a session, on every host, each report that is called for after a start has
succeeded lists what the configuration deploys, in launch order; the session is running if all of it
is alive, and otherwise degraded by what is not; and what is alive is running. From one of these
reports to a later one the processes stay the same, what is not alive stays as it is, and a degraded
session never runs again. -/
theorem degrades_for_good (host : Host σ) (world : σ) (now : Instant) (config : Nat → LaunchConfig)
    (probes : Nat → PerComponent (Probe σ)) (ms : List (Move σ)) (i : Nat) :
    (∀ r ∈ ((new world now config probes).run host ms).reportsSince i, r.Sound (config i)) ∧
      (((new world now config probes).run host ms).reportsSince i).Pairwise Report.Precedes := by
  have hkept := (kept_new world now config probes).run host ms
  refine ⟨fun r hr => ?_, hkept.successive i⟩
  obtain ⟨t, ht, hti, rfl⟩ := mem_reportsSince.mp hr
  exact (hkept.told t ht i hti).2.1

section Example

open Scripted

/-- A session is started on a machine on which everything is ready at once. -/
def calmSession : Watch World :=
  new (machine (.const {})) 0 (fun _ => hasty) fun _ => .const .always

/-- The process of a component exits. -/
def exits (c : Component) : Move World := .outside 0 fun w => (w.endNewest 0 c (some 1)).2

/-- The search engine exits during the start and is reported, the connector runtime afterwards. -/
def wearsAway : List (Move World) :=
  List.replicate 3 (.start 0 false) ++ [exits .searchEngine, .look, .tell] ++
    List.replicate 6 (.start 0 false) ++ [.look, .tell, exits .connectorRuntime, .look, .tell]

theorem early_exit_is_reported :
    ∃ reports, reports = (calmSession.run plainHost wearsAway).reportsSince 0 ∧
      reports.map (fun r => (r.phase, r.components.map (·.status))) =
        [(.degraded [.searchEngine], [.exited (some 1), .running, .running]),
          (.degraded [.searchEngine, .connectorRuntime],
            [.exited (some 1), .exited (some 1), .running])] ∧
      (∀ r ∈ reports, r.Sound hasty) ∧ reports.Pairwise Report.Precedes := by
  refine ⟨_, rfl, ?_, degrades_for_good plainHost (machine (.const {})) 0
    (fun _ => hasty) (fun _ => .const .always) wearsAway 0⟩
  decide +kernel

end Example

end Watch

end Launchpad
