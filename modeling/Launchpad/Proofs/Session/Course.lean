import Launchpad.Proofs.Session.Steps

/-!
# The course of a start

`OnCourse` says of a start that has been let in what has been launched when it stands at a stage,
and what has happened before that: nothing is launched before java was found and, if it was asked,
has been accepted, and nothing before all that has been launched is ready. A step keeps to the
course on any host (`Does.stands`).
-/

namespace Launchpad.Start

open Supervisor

variable {σ : Type} {host : Host σ}

/-- What is known of the past of a start. -/
structure Past where
  /-- The wait for a process has found it ready. -/
  ready : Handle → Prop
  /-- What java said of its version has been accepted. -/
  java : Prop
  /-- The session has begun to run. -/
  running : Prop

/-- Of one moment and a later one. -/
structure Past.Grows (past past' : Past) : Prop where
  ready : ∀ h, past.ready h → past'.ready h
  java : past.java → past'.java
  running : past.running → past'.running

/-- The components of roots, in the order in which they were launched. -/
def launched (roots : List Handle) : List Component := (roots.map (·.component)).reverse

@[simp] theorem launched_nil : launched [] = [] := rfl

@[simp] theorem launched_cons (h : Handle) (roots : List Handle) :
    launched (h :: roots) = launched roots ++ [h.component] := by
  simp [launched]

/-- Java has been vetted if that is asked for, and the roots are ready. -/
structure Gated (config : LaunchConfig) (past : Past) (roots : List Handle) : Prop where
  java : config.checkJavaVersion = true → past.java
  ready : ∀ h ∈ roots, past.ready h

/-- Everything has been launched and was ready when the session began to run. -/
structure Completed (config : LaunchConfig) (past : Past) (roots : List Handle) : Prop
    extends Gated config past roots where
  all : launched roots = config.components
  running : past.running

/-- How far a start has come. -/
def OnCourse (config : LaunchConfig) (past : Past) (roots : List Handle) (c : Start σ) : Prop :=
  c.config = config ∧
    match c.stage with
    | .entry => False
    | .checkingJava _ _ => roots = []
    | .launching _ left => launched roots ++ left = config.components ∧ Gated config past roots
    | .awaiting _ left wait =>
      launched roots ++ left = config.components ∧
        ∃ others, roots = wait.handle :: others ∧ Gated config past others
    | .openingBrowser => Completed config past roots
    | .rollingBack _ _ => launched roots <+: config.components

/-- How far a start has come, or what its result says. -/
def Stands (config : LaunchConfig) (past : Past) (roots : List Handle) :
    Progress (Start σ) (Except Error Unit) → Prop
  | .again c => OnCourse config past roots c
  | .done (.ok ()) => Completed config past roots
  | .done (.error _) => launched roots <+: config.components

variable {config : LaunchConfig} {past past' : Past} {roots : List Handle} {c : Start σ}
  {s s' : Session σ} {p : Progress (Start σ) (Except Error Unit)} {notice : Bool}

theorem Gated.grows (h : Gated config past roots) (hg : past.Grows past') :
    Gated config past' roots :=
  ⟨fun hc => hg.java (h.java hc), fun r hr => hg.ready r (h.ready r hr)⟩

theorem Completed.grows (h : Completed config past roots) (hg : past.Grows past') :
    Completed config past' roots :=
  ⟨h.toGated.grows hg, h.all, hg.running h.running⟩

theorem OnCourse.grows (h : OnCourse config past roots c) (hg : past.Grows past') :
    OnCourse config past' roots c := by
  refine ⟨h.1, ?_⟩
  have h := h.2
  split at h
  · exact h
  · exact h
  · exact ⟨h.1, h.2.grows hg⟩
  · obtain ⟨hall, others, hroots, hgated⟩ := h
    exact ⟨hall, others, hroots, hgated.grows hg⟩
  · exact h.grows hg
  · exact h

theorem Stands.grows (h : Stands config past roots p) (hg : past.Grows past') :
    Stands config past' roots p := by
  match p with
  | .again _ => exact OnCourse.grows h hg
  | .done (.ok ()) => exact Completed.grows h hg
  | .done (.error _) => exact h

/-- A start that works has launched the first of its components. -/
theorem OnCourse.isPrefix (h : OnCourse config past roots c) :
    launched roots <+: config.components := by
  have h := h.2
  split at h
  · exact h.elim
  · rw [h]
    exact List.nil_prefix
  · exact ⟨_, h.1⟩
  · exact ⟨_, h.1⟩
  · exact ⟨[], by rw [List.append_nil, h.all]⟩
  · exact h

theorem Stands.isPrefix (h : Stands config past roots p) : launched roots <+: config.components := by
  match p with
  | .again _ => exact OnCourse.isPrefix h
  | .done (.ok ()) => exact ⟨[], by rw [List.append_nil, Completed.all h]⟩
  | .done (.error _) => exact h

theorem stands_fail (e : Error) (s : Session σ) (hconfig : c.config = config)
    (h : launched roots <+: config.components) : Stands config past roots (c.fail e s).1 := by
  rcases (fail_eq c e s).2 with ⟨heq, -⟩ | heq
  · rw [heq]
    exact h
  · rw [heq]
    exact ⟨hconfig, h⟩

/-- A start sets out with nothing launched. -/
theorem Found.stands (h : Found c s p) : Stands c.config past [] p := by
  cases h with
  | fails e => exact stands_fail e s rfl List.nil_prefix
  | asks => exact ⟨rfl, rfl⟩
  | goes hcheck => exact ⟨rfl, rfl, by simp [hcheck], nofun⟩

/-- What a step adds to the past. -/
structure Adds (host : Host σ) (notice : Bool) (c : Start σ) (s s' : Session σ)
    (past past' : Past) : Prop extends Past.Grows past past' where
  becomesReady : ∀ java left wait, c.stage = .awaiting java left wait →
    (wait.step host (s.cancelled && notice) s.supervisor).1 = .done (.ok ()) →
    past'.ready wait.handle
  acceptsJava : ∀ java wait output version, c.stage = .checkingJava java wait →
    wait.step s.now = .done (.ok output) → Java.checkVersion (javaAnswer output) = .ok version →
    past'.java
  becomesRunning : s.phase = .starting → s'.phase = .running → past'.running

/-- A step of a start keeps to the course. -/
theorem Does.stands (hd : c.Does host notice s p s')
    (h : OnCourse config past s.supervisor.roots c) (hadd : Adds host notice c s s' past past') :
    Stands config past' s'.supervisor.roots p := by
  have hpre := h.isPrefix
  have hg := hadd.toGrows
  obtain ⟨hconfig, h⟩ := h
  cases hd with
  | conflicts hstage => simp [hstage] at h
  | refuses hstage => simp [hstage] at h
  | begins hstage => simp [hstage] at h
  | fails _ hquiet =>
    rw [hquiet.roots]
    exact stands_fail _ _ hconfig hpre
  | waitsForJava hstage =>
    simp only [hstage] at h
    exact ⟨hconfig, h⟩
  | acceptsJava hstage hout hversion =>
    simp only [hstage] at h
    rw [h]
    exact ⟨hconfig, by rw [hconfig]; rfl, fun _ => hadd.acceptsJava _ _ _ _ hstage hout hversion,
      nofun⟩
  | @launches java k left pid wait supervisor hstage _ hext _ hwait =>
    simp only [hstage] at h
    have hroots : supervisor.roots = wait.handle :: s.supervisor.roots := by
      rw [hwait]
      exact hext.roots
    refine ⟨hconfig, ?_, s.supervisor.roots, hroots, h.2.grows hg⟩
    rw [hroots, launched_cons, hwait, List.append_assoc]
    exact h.1
  | awaits hstage hwait hquiet =>
    simp only [hstage] at h
    obtain ⟨hall, others, hroots, hgated⟩ := h
    rw [hquiet.roots]
    exact ⟨hconfig, hall, others, by rw [hwait, hroots], hgated.grows hg⟩
  | @advances java left wait s' hstage hready hquiet =>
    simp only [hstage] at h
    obtain ⟨hall, others, hroots, hgated⟩ := h
    have hgated' := hgated.grows hg
    rw [hquiet.roots]
    refine ⟨hconfig, hall, hgated'.java, fun r hr => ?_⟩
    rw [hroots] at hr
    rcases List.mem_cons.mp hr with rfl | hr
    · exact hadd.becomesReady _ _ _ hstage hready
    · exact hgated'.ready r hr
  | @completes java p supervisor hstage hphase hsteady hp =>
    simp only [hstage, List.append_nil] at h
    have hdone : Completed config past' supervisor.roots := by
      rw [hsteady.roots]
      exact ⟨h.2.grows hg, h.1, hadd.becomesRunning hphase rfl⟩
    rcases hp with rfl | rfl
    · exact ⟨hconfig, hdone⟩
    · exact hdone
  | comesLate _ _ hquiet =>
    rw [hquiet.roots]
    exact hpre
  | opensBrowser hstage hquiet =>
    simp only [hstage] at h
    rw [hquiet.roots]
    exact h.grows hg
  | @rollsBack e w w' supervisor hstage hstep =>
    have hdoes := w.step_does host s.supervisor
    rw [hstep] at hdoes
    have hs := hdoes.startsNothing
    simp only [hstage] at h
    rw [hs.roots]
    exact ⟨hconfig, h⟩
  | @rolledBack e w r supervisor hstage hstep =>
    have hdoes := w.step_does host s.supervisor
    rw [hstep] at hdoes
    have hs := hdoes.startsNothing
    have hroots : (leaveStarting (.failed e.message)
        { s with supervisor }).supervisor.roots = s.supervisor.roots := by
      unfold leaveStarting
      split <;> exact hs.roots
    rw [hroots]
    exact hpre

end Launchpad.Start
