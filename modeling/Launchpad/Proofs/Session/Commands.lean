import Launchpad.Java
import Launchpad.Proofs.Distribution
import Launchpad.Proofs.Session.ConfigLocation

/-!
# When the commands of a session can be built

A configuration is checked once for its versions, when the session starts, and its commands are
checked again where they are built. The first check makes the second one for versions pass, so what
a command of a valid configuration can lack is the directory or the file to start:
`builds_iff_files_present`.
-/

namespace Launchpad

@[simp] theorem Environment.get?_empty (name : String) : ({} : Environment).get? name = none := rfl

theorem FileSystem.isFile_of_program? {fs : FileSystem} {p : Path}
    (h : (fs.program? p).isSome = true) : fs.isFile p = true := by
  revert h
  unfold program? isFile
  split <;> simp_all

theorem Java.isFile_of_resolve {disk : Disk} {home? : Option Path} {java : Path}
    (h : resolve disk home? = .ok java) : disk.files.isFile java = true := by
  unfold resolve at h
  split at h
  · dsimp only at h
    split at h
    · rename_i hfile
      obtain rfl := Except.ok.inj h
      exact hfile
    · cases h
  · split at h
    · rename_i hfound
      obtain rfl := Except.ok.inj h
      exact FileSystem.isFile_of_program? (Disk.program_of_find? hfound)
    · cases h

namespace LaunchConfig

open Launchpad.Distribution

variable {σ : Type} {host : Host σ} {layout : Layout} {fs : FileSystem} {world : σ}
  {config : LaunchConfig} {java : Path} {c : Component} {command : Command} {error : Error}
  {name value : String}

/-! ## What a component is started from -/

def version (config : LaunchConfig) : Component → String
  | .searchEngine => config.elasticsearchVersion
  | _ => config.camundaVersion

/-- The file that a component is started with. -/
def startFile (config : LaunchConfig) (layout : Layout) (java : Path) : Component → Path
  | .searchEngine => searchEngineDir config.parentDir config.elasticsearchVersion / "bin" /
      ("elasticsearch" ++ layout.scriptSuffix)
  | .connectorRuntime => java
  | .mainRuntime => mainRuntimeDir config.parentDir config.camundaVersion / "bin" /
      ("camunda" ++ layout.scriptSuffix)

/-- What the file is called when it is not there. -/
def startFileName : Component → String
  | .searchEngine => "elasticsearch start script"
  | .connectorRuntime => "java binary"
  | .mainRuntime => "camunda start script"

/-- What a command is apart from the checks in front of it. -/
structure Starts (config : LaunchConfig) (layout : Layout) (java : Path) (c : Component)
    (command : Command) : Prop where
  program_eq : command.program = config.startFile layout java c
  directory_eq : command.directory = some config.parentDir
  args_ne_nil : command.args ≠ []

/-! ## What becomes of the command that the host builds -/

theorem command_eq_ok_iff (hhost : host.BuildsWith layout fs world) :
    config.command host java c world = .ok command ↔
      ∃ built, build layout fs (config.request java c) = .ok built ∧
        config.withJavaHome c built = command := by
  rw [LaunchConfig.command, hhost]
  cases build layout fs (config.request java c) <;> simp [Except.map, Except.mapError]

theorem command_eq_error_iff (hhost : host.BuildsWith layout fs world) :
    config.command host java c world = .error error ↔
      ∃ fault, build layout fs (config.request java c) = .error fault ∧
        .invalidCommand fault = error := by
  rw [LaunchConfig.command, hhost]
  cases build layout fs (config.request java c) <;> simp [Except.map, Except.mapError]

theorem get?_withJavaHome (config : LaunchConfig) (c : Component) (command : Command)
    (name : String) :
    (config.withJavaHome c command).environment.get? name =
      ((if name = "JAVA_HOME" ∧ c ≠ .connectorRuntime then config.javaHome.map Path.text
        else none).or (command.environment.get? name)) := by
  unfold withJavaHome
  cases config.javaHome with
  | none => simp
  | some home =>
    by_cases hname : name = "JAVA_HOME" <;> cases c <;> simp [Command.withVariable, hname]

theorem Starts.withJavaHome (h : config.Starts layout java c command) :
    config.Starts layout java c (config.withJavaHome c command) := by
  have hsame : (config.withJavaHome c command).program = command.program ∧
      (config.withJavaHome c command).directory = command.directory := by
    unfold LaunchConfig.withJavaHome
    split <;> exact ⟨rfl, rfl⟩
  refine ⟨hsame.1.trans h.program_eq, hsame.2.trans h.directory_eq, ?_⟩
  rw [args_withJavaHome]
  exact h.args_ne_nil

/-- Every component is started behind the same checks. -/
theorem exists_build_eq_checked (config : LaunchConfig) (layout : Layout) (fs : FileSystem)
    (java : Path) (c : Component) :
    ∃ product built, build layout fs (config.request java c) =
        checked fs product (config.version c) config.parentDir (startFileName c)
          (config.startFile layout java c) built ∧
      config.Starts layout java c built ∧
      ∀ name, built.environment.get? name =
        if name = "JAVA_OPTS" ∧ c = .mainRuntime then usedJavaOpts config.javaOpts else none := by
  cases c with
  | searchEngine => exact ⟨_, _, rfl, ⟨rfl, rfl, by simp⟩, fun name => by simp⟩
  | connectorRuntime => exact ⟨_, _, rfl, ⟨rfl, rfl, by simp⟩, fun name => by simp⟩
  | mainRuntime =>
    refine ⟨_, _, mainRuntimeCommand_eq_checked, ⟨rfl, rfl, ?_⟩, fun name => ?_⟩
    · -- If the caller has no arguments, the place in the distribution is named.
      intro hnil
      obtain ⟨hdefault, hargs⟩ := List.append_eq_nil_iff.mp hnil
      simp [hargs] at hdefault
    · cases usedJavaOpts config.javaOpts with
      | none => simp
      | some opts => simp

theorem version_not_blank (hvalid : config.validate = .ok ()) (hc : c ∈ config.components) :
    Text.blank (config.version c) = false := by
  have hversions : Text.blank config.camundaVersion = false ∧
      (config.disableElasticsearch = false → Text.blank config.elasticsearchVersion = false) := by
    unfold validate at hvalid
    cases hcamunda : Text.blank config.camundaVersion <;>
      cases hdisable : config.disableElasticsearch <;>
      cases helastic : Text.blank config.elasticsearchVersion <;>
      simp [hcamunda, hdisable, helastic, bind, Except.bind] at hvalid ⊢
  have henabled : c = .searchEngine → config.disableElasticsearch = false := by
    rintro rfl
    simpa [components] using (List.mem_filter.mp hc).2
  cases c with
  | searchEngine => exact hversions.2 (henabled rfl)
  | connectorRuntime => exact hversions.1
  | mainRuntime => exact hversions.1

/-- The command of a component that a valid configuration starts can be built if and only if the
directory of the distributions and the file to start are there, which java is for the connectors. It
fails for want of one of the two, and never for a blank version. What is built starts that file in
that directory; it has arguments, the caller's at the end where it is the main runtime; and of
variables it sets the java home, but not for the connectors, and the options for java, unless they
are blank, for the main runtime alone. -/
theorem builds_iff_files_present (hhost : host.BuildsWith layout (host.disk world).files world)
    (hvalid : config.validate = .ok ()) (hc : c ∈ config.components)
    (hjava : Java.resolve (host.disk world) config.javaHome = .ok java) :
    ((∃ command, config.command host java c world = .ok command) ↔
      (host.disk world).files.isDirectory config.parentDir = true ∧
      (host.disk world).files.isFile (config.startFile layout java c) = true) ∧
    (host.disk world).files.isFile (config.startFile layout java .connectorRuntime) = true ∧
    (∀ error, config.command host java c world = .error error →
      ((host.disk world).files.isDirectory config.parentDir = false ∧
        error = .invalidCommand (.noDirectory config.parentDir)) ∨
      ((host.disk world).files.isFile (config.startFile layout java c) = false ∧
        error = .invalidCommand (.noFile (startFileName c) (config.startFile layout java c)))) ∧
    ∀ command, config.command host java c world = .ok command →
      config.Starts layout java c command ∧
      (host.disk world).files.isFile command.program = true ∧
      (∀ value, command.environment.get? "JAVA_HOME" = some value ↔
        c ≠ .connectorRuntime ∧ ∃ home, config.javaHome = some home ∧ home.text = value) ∧
      (∀ value, command.environment.get? "JAVA_OPTS" = some value ↔
        c = .mainRuntime ∧ config.javaOpts = some value ∧
          ∃ char ∈ value.toList, Text.isBlank char = false) ∧
      (∀ name, name ≠ "JAVA_HOME" → name ≠ "JAVA_OPTS" → command.environment.get? name = none) ∧
      (c = .mainRuntime → config.extraArgs <:+ command.args) := by
  obtain ⟨product, built, hbuild, hstarts, hvariables⟩ :=
    exists_build_eq_checked config layout (host.disk world).files java c
  have hok (command : Command) : config.command host java c world = .ok command ↔
      (host.disk world).files.isDirectory config.parentDir = true ∧
      (host.disk world).files.isFile (config.startFile layout java c) = true ∧
      config.withJavaHome c built = command := by
    simp [command_eq_ok_iff hhost, hbuild, checked_eq_ok_iff, version_not_blank hvalid hc,
      and_assoc]
  refine ⟨?_, Java.isFile_of_resolve hjava, fun error herror => ?_, fun command hbuilt => ?_⟩
  · simp [hok]
  · obtain ⟨fault, hfault, rfl⟩ := (command_eq_error_iff hhost).mp herror
    rw [hbuild] at hfault
    obtain ⟨hblank, -⟩ | ⟨hdir, rfl⟩ | ⟨hfile, rfl⟩ := checked_eq_error hfault
    · -- The configuration would not have passed its own check.
      rw [version_not_blank hvalid hc] at hblank
      cases hblank
    · exact .inl ⟨hdir, rfl⟩
    · exact .inr ⟨hfile, rfl⟩
  · obtain ⟨-, hfile, rfl⟩ := (hok command).mp hbuilt
    have hprogram := hstarts.withJavaHome
    refine ⟨hprogram, hprogram.program_eq ▸ hfile, fun value => ?_, fun value => ?_,
      fun name hhome hopts => ?_, ?_⟩
    · simp [get?_withJavaHome, hvariables]
    · simp [get?_withJavaHome, hvariables, usedJavaOpts_eq_some_iff]
    · simp [get?_withJavaHome, hvariables, hhome, hopts]
    · rintro rfl
      exact ⟨_, (args_command hhost hbuilt).symm⟩

section Example

open Scripted

/-- A machine with a distribution of the main runtime and with java. -/
def equipped : World where
  disk.files := (FileTree.addAll {} []
    [⟨"/opt/c8/camunda-zeebe-8/bin/camunda"⟩, ⟨"/opt/jdk/bin/java"⟩] []).files

/-- A configuration with options for java. -/
def wired (javaOpts : String) : LaunchConfig :=
  { asking ["--debug"] none with javaHome := some ⟨"/opt/jdk"⟩, javaOpts := some javaOpts }

theorem equipped_builds_main_runtime :
    ∃ command, (wired "-Xmx1g").command Scripted.host ⟨"/opt/jdk/bin/java"⟩ .mainRuntime equipped =
        .ok command ∧
      command.environment.get? "JAVA_HOME" = some "/opt/jdk" ∧
      command.environment.get? "JAVA_OPTS" = some "-Xmx1g" ∧ ["--debug"] <:+ command.args := by
  have hhost : Scripted.host.BuildsWith .posix (Scripted.host.disk equipped).files equipped :=
    fun _ => rfl
  have hvalid : (wired "-Xmx1g").validate = .ok () := by decide +kernel
  have hstarted : .mainRuntime ∈ (wired "-Xmx1g").components := by decide +kernel
  have hjava : Java.resolve (Scripted.host.disk equipped) (wired "-Xmx1g").javaHome =
      .ok ⟨"/opt/jdk/bin/java"⟩ := by decide +kernel
  obtain ⟨hbuilds, -, -, hcommand⟩ := builds_iff_files_present hhost hvalid hstarted hjava
  obtain ⟨command, hbuilt⟩ := hbuilds.mpr (by decide +kernel)
  obtain ⟨-, -, hhome, hopts, -, hargs⟩ := hcommand command hbuilt
  exact ⟨command, hbuilt, (hhome "/opt/jdk").mpr ⟨by decide, _, rfl, rfl⟩,
    (hopts "-Xmx1g").mpr ⟨rfl, rfl, 'X', by decide, by decide⟩, hargs rfl⟩

end Example

end LaunchConfig

end Launchpad
