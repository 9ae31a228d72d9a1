import Launchpad.Proofs.Distribution
import Launchpad.Scripted.Host
import Launchpad.Session.Commands
import Mathlib.Data.List.Infix

/-!
# Who names the configuration of the main runtime

The main runtime is told in its arguments where its configuration is. The caller may say so, the
configuration of the session may, and the distribution has a place of its own. The rule (`dueArgs`)
is that the caller goes first and that there is one place otherwise. Two functions decide apart from
each other, so the rule is kept unless both the caller and the session name a place, or nobody does
and an argument of the caller looks as if it did: `gets_due_location_iff`.
-/

namespace Launchpad

namespace Distribution

variable {arg location version : String} {args : List String} {layout : Layout} {fs : FileSystem}
  {parent : Path} {javaOpts : Option String} {command : Command}

/-- Whether an argument names a configuration. -/
def NamesLocation (arg : String) : Prop := ∃ location, arg = configLocation location

theorem namesLocation_iff : NamesLocation arg ↔ (configLocation "").toList <+: arg.toList := by
  constructor
  · rintro ⟨location, rfl⟩
    exact ⟨location.toList, by simp [configLocation]⟩
  · rintro ⟨rest, hrest⟩
    refine ⟨String.ofList rest, String.toList_injective ?_⟩
    simpa [configLocation] using hrest.symm

instance : DecidablePred NamesLocation := fun _ => decidable_of_iff _ namesLocation_iff.symm

/-- An argument that names a configuration begins like one. -/
theorem NamesLocation.sets (h : NamesLocation arg) : setsConfigLocation arg = true := by
  obtain ⟨location, rfl⟩ := h
  rw [setsConfigLocation, List.isPrefixOf_iff_prefix]
  exact ⟨"=".toList ++ location.toList, by simp [configLocation]⟩

/-- The arguments that name a configuration. -/
def locationArgs (args : List String) : List String := args.filter fun arg => NamesLocation arg

theorem locationArgs_append (args args' : List String) :
    locationArgs (args ++ args') = locationArgs args ++ locationArgs args' :=
  List.filter_append ..

theorem locationArgs_configLocation (location : String) :
    locationArgs [configLocation location] = [configLocation location] :=
  List.filter_cons_of_pos (decide_eq_true ⟨location, rfl⟩)

theorem exists_sets_of_locationArgs (h : locationArgs args ≠ []) :
    args.any setsConfigLocation = true := by
  obtain ⟨arg, harg⟩ := List.exists_mem_of_ne_nil _ h
  obtain ⟨hmem, hnames⟩ := List.mem_filter.mp harg
  exact List.any_eq_true.mpr ⟨arg, hmem, (of_decide_eq_true hnames).sets⟩

theorem args_mainRuntimeCommand
    (h : mainRuntimeCommand layout fs version parent args javaOpts = .ok command) :
    command.args = (if args.any setsConfigLocation then []
      else [configLocation (defaultLocation parent)]) ++ args := by
  rw [mainRuntimeCommand_eq_checked, checked_eq_ok_iff] at h
  obtain ⟨-, -, -, rfl⟩ := h
  rfl

end Distribution

/-- On this machine the host builds the commands of a distribution with that layout. -/
def Host.BuildsWith {σ : Type} (host : Host σ) (layout : Layout) (fs : FileSystem) (world : σ) :
    Prop :=
  ∀ request, host.command request world =
    (Distribution.build layout fs request).mapError .invalidCommand

namespace LaunchConfig

open Launchpad.Distribution

variable {σ : Type} {host : Host σ} {layout : Layout} {fs : FileSystem} {world : σ}
  {config : LaunchConfig} {java : Path} {c : Component} {command : Command}

/-- What stands in front of the caller's arguments. -/
def ownArgs (config : LaunchConfig) : List String :=
  match config.camundaConfig with
  | some location => [configLocation (config.parentDir / location).text]
  | none =>
    if config.extraArgs.any setsConfigLocation then []
    else [configLocation (defaultLocation config.parentDir)]

/-- The arguments that should name a configuration: those of the caller, or else one for the place
that is set, or else one for the place in the distribution. -/
def dueArgs (config : LaunchConfig) : List String :=
  if locationArgs config.extraArgs = [] then
    match config.camundaConfig with
    | some location => [configLocation (config.parentDir / location).text]
    | none => [configLocation (defaultLocation config.parentDir)]
  else locationArgs config.extraArgs

theorem args_withJavaHome (config : LaunchConfig) (c : Component) (command : Command) :
    (config.withJavaHome c command).args = command.args := by
  unfold withJavaHome
  split <;> rfl

theorem sets_mainRuntimeArgs {location : Path} (h : config.camundaConfig = some location) :
    config.mainRuntimeArgs.any setsConfigLocation = true := by
  have hsets : setsConfigLocation (configLocation (config.parentDir / location).text) = true :=
    NamesLocation.sets ⟨_, rfl⟩
  simp [mainRuntimeArgs, h, hsets]

/-- The caller's arguments come last, as they are. -/
theorem args_command (hhost : host.BuildsWith layout fs world)
    (h : config.command host java .mainRuntime world = .ok command) :
    command.args = config.ownArgs ++ config.extraArgs := by
  unfold LaunchConfig.command at h
  rw [hhost] at h
  cases hbuild : build layout fs (config.request java .mainRuntime) with
  | error fault =>
    rw [hbuild] at h
    cases h
  | ok built =>
    rw [hbuild] at h
    obtain rfl : config.withJavaHome .mainRuntime built = command := Except.ok.inj h
    rw [args_withJavaHome, args_mainRuntimeCommand hbuild]
    unfold ownArgs
    cases hlocation : config.camundaConfig with
    | some location =>
      rw [if_pos (sets_mainRuntimeArgs hlocation)]
      simp [mainRuntimeArgs, hlocation]
    | none => simp [mainRuntimeArgs, hlocation]

theorem locationArgs_ownArgs (config : LaunchConfig) :
    locationArgs config.ownArgs = config.ownArgs := by
  unfold ownArgs
  split
  · exact locationArgs_configLocation _
  · split
    · rfl
    · exact locationArgs_configLocation _

/-- The main runtime gets the caller's arguments behind at most one that names a configuration. It
gets the configuration that is due if and only if the caller names none where the session does, and
where nobody names one no argument of the caller begins like one that does. -/
theorem gets_due_location_iff (hhost : host.BuildsWith layout fs world)
    (h : config.command host java .mainRuntime world = .ok command) :
    command.args = config.ownArgs ++ config.extraArgs ∧
    locationArgs command.args = config.ownArgs ++ locationArgs config.extraArgs ∧
    (locationArgs command.args = config.dueArgs ↔
      (config.camundaConfig.isSome → locationArgs config.extraArgs = []) ∧
      (config.camundaConfig = none → locationArgs config.extraArgs = [] →
        ∀ arg ∈ config.extraArgs, setsConfigLocation arg = false)) := by
  have hargs := args_command hhost h
  have hlocations : locationArgs command.args =
      config.ownArgs ++ locationArgs config.extraArgs := by
    rw [hargs, locationArgs_append, locationArgs_ownArgs]
  refine ⟨hargs, hlocations, ?_⟩
  rw [hlocations]
  unfold ownArgs dueArgs
  cases config.camundaConfig with
  | some location =>
    by_cases hnone : locationArgs config.extraArgs = []
    · simp [hnone]
    · simp [hnone]
  | none =>
    by_cases hnone : locationArgs config.extraArgs = []
    · simp [hnone]
    · simp [hnone, exists_sets_of_locationArgs hnone]

section Example

open Scripted

/-- A machine with a distribution of the main runtime. -/
def installed : World where
  disk.files := (FileTree.addAll {} [] [⟨"/opt/c8/camunda-zeebe-8/bin/camunda"⟩] []).files

theorem buildsWith_installed :
    Scripted.host.BuildsWith .posix installed.disk.files installed := fun _ => rfl

/-- A configuration with arguments of the caller and, maybe, a place of its own. -/
def asking (extraArgs : List String) (camundaConfig : Option Path) : LaunchConfig where
  camundaVersion := "8"
  elasticsearchVersion := "8"
  parentDir := ⟨"/opt/c8"⟩
  extraArgs
  camundaConfig

/-- The command of the main runtime with some arguments. -/
def starting (args : List String) : Command where
  program := ⟨"/opt/c8/camunda-zeebe-8/bin/camunda"⟩
  args
  directory := some ⟨"/opt/c8"⟩

/-- The caller's argument for a place. -/
def placed : String := "--spring.config.location=/etc/c8.yaml"

/-- An argument that begins like one that names a place. -/
def lookalike : String := "--spring.config.location-hint=c8"

theorem caller_names_location :
    ∃ command, (asking ["--debug", placed] none).command Scripted.host ⟨"java"⟩ .mainRuntime
        installed = .ok command ∧
      locationArgs command.args = [placed] := by
  have hbuilds : (asking ["--debug", placed] none).command Scripted.host ⟨"java"⟩ .mainRuntime
      installed = .ok (starting ["--debug", placed]) := by decide +kernel
  obtain ⟨-, -, hdue⟩ := gets_due_location_iff buildsWith_installed hbuilds
  exact ⟨_, hbuilds, (hdue.mpr (by decide +kernel)).trans (by decide +kernel)⟩

/-- The place of the session is named beside that of the caller, and none is named where an argument
of the caller looks as if it did. -/
theorem location_is_doubled_or_lost :
    (∃ command, (asking [placed] (some ⟨"alt.yaml"⟩)).command Scripted.host ⟨"java"⟩ .mainRuntime
        installed = .ok command ∧
      locationArgs (asking [placed] (some ⟨"alt.yaml"⟩)).extraArgs = [placed] ∧
      locationArgs command.args = [configLocation "/opt/c8/alt.yaml", placed]) ∧
    ∃ command, (asking [lookalike] none).command Scripted.host ⟨"java"⟩ .mainRuntime installed =
        .ok command ∧
      locationArgs (asking [lookalike] none).extraArgs = [] ∧ locationArgs command.args = [] :=
  ⟨⟨starting [configLocation "/opt/c8/alt.yaml", placed], by decide +kernel, by decide +kernel,
      by decide +kernel⟩,
    ⟨starting [lookalike], by decide +kernel, by decide +kernel, by decide +kernel⟩⟩

end Example

end LaunchConfig

end Launchpad
