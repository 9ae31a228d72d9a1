import Launchpad.Distribution
import Launchpad.FileTree
import Launchpad.Proofs.Text.Pieces

/-!
# What the commands of a distribution rest on

The commands that start a component are built behind the same three checks (`checked`). The
connectors get the places of their classes joined into one text. A reader who splits the text at the
separator gets the places back if and only if none of them has a separator inside, and nothing
checks that: `classpath_reads_back_iff`.
-/

namespace Launchpad

namespace Path

variable {p : Path} {s : String} {c : Char}

theorem text_div (p : Path) (s : String) : (p / s).text = (p.join s).text := rfl

theorem mem_div (hs : startsAtRoot s = false) (hc : c ≠ '/') :
    c ∈ (p / s).text.toList ↔ c ∈ p.text.toList ∨ c ∈ s.toList := by
  rw [text_div, join, if_neg (by simp [hs])]
  split
  · simp
  · simp [hc]

end Path

namespace Distribution

variable {layout : Layout} {fs : FileSystem} {product what version : String}
  {java parent file : Path} {args : List String} {javaOpts : Option String}
  {command built : Command} {fault : CommandFault}

/-! ## The checks -/

/-- A command behind the checks for a version, for the directory of the distributions and for the
file to start. -/
def checked (fs : FileSystem) (product version : String) (parent : Path) (what : String)
    (file : Path) (built : Command) : Except CommandFault Command := do
  requireVersion product version
  requireDirectory fs parent
  requireFile fs what file
  return built

theorem checked_eq_ok_iff :
    checked fs product version parent what file built = .ok command ↔
      Text.blank version = false ∧ fs.isDirectory parent = true ∧ fs.isFile file = true ∧
        built = command := by
  unfold checked requireVersion requireDirectory requireFile
  cases Text.blank version <;> cases fs.isDirectory parent <;> cases fs.isFile file <;>
    simp [bind, Except.bind, pure, Except.pure]

theorem checked_eq_error (h : checked fs product version parent what file built = .error fault) :
    (Text.blank version = true ∧ fault = .blankVersion product) ∨
    (fs.isDirectory parent = false ∧ fault = .noDirectory parent) ∨
    (fs.isFile file = false ∧ fault = .noFile what file) := by
  revert h
  unfold checked requireVersion requireDirectory requireFile
  cases Text.blank version <;> cases fs.isDirectory parent <;> cases fs.isFile file <;>
    simp +contextual [bind, Except.bind, pure, Except.pure, eq_comm]

/-- The options for java, unless they are blank. -/
def usedJavaOpts (javaOpts : Option String) : Option String :=
  javaOpts.filter fun opts => !Text.blank opts

theorem usedJavaOpts_eq_some_iff {opts : String} : usedJavaOpts javaOpts = some opts ↔
    javaOpts = some opts ∧ ∃ char ∈ opts.toList, Text.isBlank char = false := by
  rw [usedJavaOpts, Option.filter_eq_some_iff]
  simp [Text.blank]

theorem mainRuntimeCommand_eq_checked :
    mainRuntimeCommand layout fs version parent args javaOpts =
      checked fs "camunda" version parent "camunda start script"
        (mainRuntimeDir parent version / "bin" / ("camunda" ++ layout.scriptSuffix))
        { program := mainRuntimeDir parent version / "bin" / ("camunda" ++ layout.scriptSuffix),
          args := (if args.any setsConfigLocation then []
            else [configLocation (defaultLocation parent)]) ++ args,
          directory := some parent,
          environment := (usedJavaOpts javaOpts).elim {} (Environment.set {} "JAVA_OPTS") } := by
  unfold mainRuntimeCommand usedJavaOpts
  cases javaOpts with
  | none => rfl
  | some opts => cases hblank : Text.blank opts <;> simp only [Option.filter, hblank] <;> rfl

/-! ## The classpath -/

/-- The places of the classes, as the connectors are told them. -/
def joinedClasspath (layout : Layout) (parent : Path) (version : String) : String :=
  layout.classpathSeparator.toString.intercalate ((classpath parent version).map Path.text)

theorem connectorsCommand_eq_checked :
    connectorsCommand layout fs java parent version =
      checked fs "camunda" version parent "java binary" java
        { program := java,
          args := ["-classpath", joinedClasspath layout parent version, connectorsMainClass,
            configLocation (parent / "connectors-application.properties").text],
          directory := some parent } :=
  rfl

/-- The places that a reader of a classpath finds in it. -/
def readClasspath (layout : Layout) (text : String) : List String :=
  (Text.splitOn (· == layout.classpathSeparator) text.toList).map String.ofList

theorem readClasspath_joined_iff :
    readClasspath layout (joinedClasspath layout parent version) =
        (classpath parent version).map Path.text ↔
      ∀ place ∈ classpath parent version, layout.classpathSeparator ∉ place.text.toList := by
  have htexts : (classpath parent version).map Path.text =
      ((classpath parent version).map (·.text.toList)).map String.ofList := by
    simp [Function.comp_def]
  have hjoined : (joinedClasspath layout parent version).toList =
      [layout.classpathSeparator].intercalate ((classpath parent version).map (·.text.toList)) := by
    simp [joinedClasspath, String.toList_intercalate, Function.comp_def]
  have hofList : Function.Injective String.ofList := fun _ _ h => String.ofList_injective h
  rw [readClasspath, htexts, (List.map_injective_iff.mpr hofList).eq_iff, hjoined,
    Text.splitOn_intercalate_eq_iff (by simp [classpath])]
  simp

theorem separator_not_mem_classpath_iff (hlayout : layout = .posix ∨ layout = .windows) :
    (∀ place ∈ classpath parent version, layout.classpathSeparator ∉ place.text.toList) ↔
      layout.classpathSeparator ∉ parent.text.toList ∧
      layout.classpathSeparator ∉ version.toList := by
  have hslash : layout.classpathSeparator ≠ '/' := by rcases hlayout with rfl | rfl <;> decide
  -- The names that are added to the directory have neither of the two separators.
  have hfixed : ∀ name ∈ ["*", "custom_connectors", "lib", "camunda-zeebe-"],
      layout.classpathSeparator ∉ name.toList := by rcases hlayout with rfl | rfl <;> decide
  have hstep (p : Path) (name : String) (hname : name ∈ ["*", "custom_connectors", "lib"]) :
      layout.classpathSeparator ∈ (p / name).text.toList ↔
        layout.classpathSeparator ∈ p.text.toList := by
    have hroot : Path.startsAtRoot name = false := by
      revert name
      decide
    rw [Path.mem_div hroot hslash, or_iff_left]
    exact hfixed name (by simp at hname ⊢; tauto)
  have hdir : layout.classpathSeparator ∈ (mainRuntimeDir parent version).text.toList ↔
      layout.classpathSeparator ∈ parent.text.toList ∨
      layout.classpathSeparator ∈ version.toList := by
    have hroot : Path.startsAtRoot ("camunda-zeebe-" ++ version) = false := by
      simp [Path.startsAtRoot]
    rw [mainRuntimeDir, Path.mem_div hroot hslash, String.toList_append, List.mem_append,
      or_iff_right (hfixed "camunda-zeebe-" (by simp))]
  rw [classpath]
  simp only [List.forall_mem_cons, List.not_mem_nil, false_imp_iff, implies_true, and_true,
    hstep _ "*" (by simp), hstep _ "custom_connectors" (by simp), hstep _ "lib" (by simp), hdir,
    not_or]
  constructor
  · rintro ⟨-, -, hboth⟩
    exact hboth
  · intro hboth
    exact ⟨hboth.1, hboth.1, hboth⟩

/-- The connectors are told the places of their classes behind `-classpath`. The places can be read
back if and only if none has a separator inside, which on the two targets is to say that neither the
directory of the distributions nor the version has one. -/
theorem classpath_reads_back_iff
    (h : connectorsCommand layout fs java parent version = .ok command) :
    command.args[0]? = some "-classpath" ∧ ∃ classes, command.args[1]? = some classes ∧
      (readClasspath layout classes = [(parent / "*").text,
          (parent / "custom_connectors" / "*").text,
          (parent / ("camunda-zeebe-" ++ version) / "lib" / "*").text] ↔
        ∀ place ∈ classpath parent version, layout.classpathSeparator ∉ place.text.toList) ∧
      (layout = .posix ∨ layout = .windows →
        (readClasspath layout classes = [(parent / "*").text,
            (parent / "custom_connectors" / "*").text,
            (parent / ("camunda-zeebe-" ++ version) / "lib" / "*").text] ↔
          layout.classpathSeparator ∉ parent.text.toList ∧
          layout.classpathSeparator ∉ version.toList)) := by
  rw [connectorsCommand_eq_checked, checked_eq_ok_iff] at h
  obtain ⟨-, -, -, rfl⟩ := h
  refine ⟨rfl, _, rfl, readClasspath_joined_iff, fun hlayout => ?_⟩
  rw [← separator_not_mem_classpath_iff hlayout]
  exact readClasspath_joined_iff

/-- A machine with java and a directory. -/
def unpackedIn (directory : Path) : FileSystem :=
  (FileTree.addAll {} [directory] [⟨"/usr/bin/java"⟩] []).files

theorem plain_classpath_reads_back :
    ∃ command, connectorsCommand .posix (unpackedIn ⟨"/opt/c8 run"⟩) ⟨"/usr/bin/java"⟩
        ⟨"/opt/c8 run/"⟩ "8.7" = .ok command ∧
      (command.args[1]?).map (readClasspath .posix) = some ["/opt/c8 run/*",
        "/opt/c8 run/custom_connectors/*", "/opt/c8 run/camunda-zeebe-8.7/lib/*"] := by
  have hbuilt : ∃ command, connectorsCommand .posix (unpackedIn ⟨"/opt/c8 run"⟩) ⟨"/usr/bin/java"⟩
      ⟨"/opt/c8 run/"⟩ "8.7" = .ok command := ⟨_, rfl⟩
  obtain ⟨command, hcommand⟩ := hbuilt
  obtain ⟨-, classes, hclasses, -, hreads⟩ := classpath_reads_back_iff hcommand
  refine ⟨command, hcommand, ?_⟩
  rw [hclasses, Option.map_some, (hreads (.inl rfl)).mpr (by decide)]
  decide

/-- A directory with a colon in its name is taken, and its classpath is read as six places. -/
theorem classpath_is_not_read_back :
    ∃ command, connectorsCommand .posix (unpackedIn ⟨"a:b"⟩) ⟨"/usr/bin/java"⟩ ⟨"a:b"⟩ "8.7.0" =
        .ok command ∧
      command.args[1]? = some "a:b/*:a:b/custom_connectors/*:a:b/camunda-zeebe-8.7.0/lib/*" ∧
      (command.args[1]?).map (readClasspath .posix) =
        some ["a", "b/*", "a", "b/custom_connectors/*", "a", "b/camunda-zeebe-8.7.0/lib/*"] :=
  ⟨_, rfl, by decide, by decide⟩

end Distribution

end Launchpad
