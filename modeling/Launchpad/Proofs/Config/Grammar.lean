import Launchpad.Config.Draft
import Launchpad.Proofs.Json.Language

/-!
# The grammar of configurations

Which JSON values are configurations, and of which configuration each of them is the spelling. The
tables of parts say it for a configuration and its three sections: the key of each part, what its
values are in JSON, and what the part is if it is left out. Only the two versions and the directory
of a configuration have no default.

`LaunchConfig.read_grammar` says that reading keeps to the tables.
-/

namespace Launchpad

open Json

namespace BrowserConfig

def parts : List (Json.Part BrowserConfig) := [
  ⟨"open", Bool, .flag, some true, fun c => some c.opens⟩,
  ⟨"protocol", String, .text, some "http", fun c => some c.protocol⟩,
  ⟨"port", UInt16, .word16, some 8080, fun c => some c.port⟩,
  ⟨"startupUrl", Option String, .optional .text, some none, fun c => some c.startupUrl⟩]

theorem layout : Json.Layout schema parts {} where
  fields := .cons (.of .flag fun _ _ => rfl) <| .cons (.of .text fun _ _ => rfl) <|
    .cons (.of .word16 fun _ _ => rfl) <| .cons (.of (.optional .text) fun _ _ => rfl) .nil
  nodup := by decide
  keeps := by simp [schema, parts, Field.Keeps.of]
  start := by simp [parts]
  ext := by
    rintro ⟨⟩ ⟨⟩ h
    simpa [parts] using h

theorem grammar : Grammar read parts id ["startupUrl"] :=
  layout.grammar_id (by simp [Full, parts])
    (by simp [parts, Language.flag, Language.text, Language.word16, Language.optional, Json.nat])

end BrowserConfig

namespace ReadinessConfig

def parts : List (Json.Part ReadinessConfig) := [
  ⟨"pollIntervalMs", UInt64, .word64, some 2000, fun c => some c.pollIntervalMs⟩,
  ⟨"requestTimeoutMs", UInt64, .word64, some 5000, fun c => some c.requestTimeoutMs⟩,
  ⟨"elasticsearchTimeoutSecs", UInt64, .word64, some 120,
    fun c => some (c.timeoutSecs.searchEngine)⟩,
  ⟨"connectorsTimeoutSecs", UInt64, .word64, some 120,
    fun c => some (c.timeoutSecs.connectorRuntime)⟩,
  ⟨"camundaTimeoutSecs", UInt64, .word64, some 300,
    fun c => some (c.timeoutSecs.mainRuntime)⟩,
  ⟨"elasticsearchHealthUrl", String, .text, some "http://localhost:9200/_cluster/health",
    fun c => some (c.healthUrl.searchEngine)⟩,
  ⟨"connectorsHealthUrl", String, .text, some "http://localhost:8086/actuator/health/readiness",
    fun c => some (c.healthUrl.connectorRuntime)⟩,
  ⟨"camundaHealthUrl", String, .text, some "http://localhost:9600/actuator/health/status",
    fun c => some (c.healthUrl.mainRuntime)⟩]

theorem layout : Json.Layout schema parts {} where
  fields := .cons (.of .word64 fun _ _ => rfl) <| .cons (.of .word64 fun _ _ => rfl) <|
    .cons (.of .word64 fun _ _ => rfl) <| .cons (.of .word64 fun _ _ => rfl) <|
    .cons (.of .word64 fun _ _ => rfl) <| .cons (.of .text fun _ _ => rfl) <|
    .cons (.of .text fun _ _ => rfl) <| .cons (.of .text fun _ _ => rfl) .nil
  nodup := by decide
  keeps := by
    simp [schema, parts, Field.Keeps.of, Component.launchOrder, timeoutKey, healthUrlKey,
      Component.displayName, PerComponent.set]
  start := by simp [parts]
  ext := by
    rintro ⟨_, _, ⟨⟩, ⟨⟩⟩ ⟨_, _, ⟨⟩, ⟨⟩⟩ h
    simpa [parts, and_assoc] using h

theorem grammar : Grammar read parts id [] :=
  layout.grammar_id (by simp [Full, parts])
    (by simp [parts, Language.word64, Language.text, Json.nat])

end ReadinessConfig

namespace TerminationConfig

def parts : List (Json.Part TerminationConfig) := [
  ⟨"gracePeriodMs", UInt64, .word64, some 10000, fun c => some c.gracePeriodMs⟩,
  ⟨"forceWaitMs", UInt64, .word64, some 3000, fun c => some c.forceWaitMs⟩]

theorem layout : Json.Layout schema parts {} where
  fields := .cons (.of .word64 fun _ _ => rfl) <| .cons (.of .word64 fun _ _ => rfl) .nil
  nodup := by decide
  keeps := by simp [schema, parts, Field.Keeps.of]
  start := by simp [parts]
  ext := by
    rintro ⟨⟩ ⟨⟩ h
    simpa [parts] using h

theorem grammar : Grammar read parts id [] :=
  layout.grammar_id (by simp [Full, parts]) (by simp [parts, Language.word64, Json.nat])

end TerminationConfig

namespace LaunchConfig

/-- The draft that is finished with a configuration. -/
def toDraft (c : LaunchConfig) : Draft where
  camundaVersion := some c.camundaVersion
  elasticsearchVersion := some c.elasticsearchVersion
  parentDir := some c.parentDir
  javaHome := c.javaHome
  extraArgs := c.extraArgs
  javaOpts := c.javaOpts
  camundaConfig := c.camundaConfig
  disableElasticsearch := c.disableElasticsearch
  checkJavaVersion := c.checkJavaVersion
  browser := c.browser
  readiness := c.readiness
  termination := c.termination

def parts : List (Json.Part Draft) := [
  ⟨"camundaVersion", String, .text, none, fun d => d.camundaVersion⟩,
  ⟨"elasticsearchVersion", String, .text, none, fun d => d.elasticsearchVersion⟩,
  ⟨"parentDir", Path, .path, none, fun d => d.parentDir⟩,
  ⟨"javaHome", Option Path, .optional .path, some none, fun d => some d.javaHome⟩,
  ⟨"extraArgs", List String, .texts, some [], fun d => some d.extraArgs⟩,
  ⟨"javaOpts", Option String, .optional .text, some none, fun d => some d.javaOpts⟩,
  ⟨"camundaConfig", Option Path, .optional .path, some none, fun d => some d.camundaConfig⟩,
  ⟨"disableElasticsearch", Bool, .flag, some false, fun d => some d.disableElasticsearch⟩,
  ⟨"checkJavaVersion", Bool, .flag, some true, fun d => some d.checkJavaVersion⟩,
  ⟨"browser", BrowserConfig, .record BrowserConfig.parts id, some {}, fun d => some d.browser⟩,
  ⟨"readiness", ReadinessConfig, .record ReadinessConfig.parts id, some {},
    fun d => some d.readiness⟩,
  ⟨"termination", TerminationConfig, .record TerminationConfig.parts id, some {},
    fun d => some d.termination⟩]

theorem settingField_reads {α : Type} {key : String} {required : Bool} {r : Reader α}
    {setting : α → Setting} {l : Json.Language α} {default? : Option α} {get : Draft → Option α}
    (hr : Reads r l) (hrequired : required = true → default? = none)
    (hget : ∀ a (d : Draft), get (d.set (setting a)) = some a) :
    (Draft.settingField key required r setting).Reads ⟨key, α, l, default?, get⟩ where
  key := rfl
  required := hrequired
  reader := ⟨r, fun a d => d.set (setting a), hr, hget, fun _ _ => rfl⟩

theorem settingField_keeps {α : Type} {key : String} {required : Bool} {r : Reader α}
    {setting : α → Setting} {p : Json.Part Draft} :
    (Draft.settingField key required r setting).Keeps p ↔
      (Field.of key r fun a d => d.set (setting a)).Keeps p := Iff.rfl

@[simp] theorem settingField_key {α : Type} {key : String} {required : Bool} {r : Reader α}
    {setting : α → Setting} : (Draft.settingField key required r setting).key = key := rfl

theorem layout : Json.Layout Draft.schema parts {} where
  fields :=
    .cons (settingField_reads .text (fun _ => rfl) fun _ _ => rfl) <|
    .cons (settingField_reads .text (fun _ => rfl) fun _ _ => rfl) <|
    .cons (settingField_reads .path (fun _ => rfl) fun _ _ => rfl) <|
    .cons (settingField_reads (.optional .path) nofun fun _ _ => rfl) <|
    .cons (settingField_reads .texts nofun fun _ _ => rfl) <|
    .cons (settingField_reads (.optional .text) nofun fun _ _ => rfl) <|
    .cons (settingField_reads (.optional .path) nofun fun _ _ => rfl) <|
    .cons (settingField_reads .flag nofun fun _ _ => rfl) <|
    .cons (settingField_reads .flag nofun fun _ _ => rfl) <|
    .cons (settingField_reads BrowserConfig.grammar.toReads nofun fun _ _ => rfl) <|
    .cons (settingField_reads ReadinessConfig.grammar.toReads nofun fun _ _ => rfl) <|
    .cons (settingField_reads TerminationConfig.grammar.toReads nofun fun _ _ => rfl) .nil
  nodup := by decide
  keeps := by simp [Draft.schema, parts, settingField_keeps, Field.Keeps.of, Draft.set]
  start := by simp [parts]
  ext := by
    rintro ⟨⟩ ⟨⟩ h
    simpa [parts] using h

theorem full_iff {d : Draft} : Full parts d ↔ ∃ c, toDraft c = d := by
  constructor
  · intro h
    have hparts : d.camundaVersion.isSome ∧ d.elasticsearchVersion.isSome ∧ d.parentDir.isSome := by
      simpa [Full, parts] using h
    obtain ⟨v, w, p, _⟩ := d
    obtain ⟨hv, hw, hp⟩ := hparts
    obtain ⟨v, rfl⟩ := Option.isSome_iff_exists.mp hv
    obtain ⟨w, rfl⟩ := Option.isSome_iff_exists.mp hw
    obtain ⟨p, rfl⟩ := Option.isSome_iff_exists.mp hp
    exact ⟨⟨v, w, p, _, _, _, _, _, _, _, _, _⟩, rfl⟩
  · rintro ⟨c, rfl⟩
    simp [Full, parts, toDraft]

theorem finish_eq_ok_iff {d : Draft} {c : LaunchConfig} : d.finish = .ok c ↔ d = c.toDraft := by
  constructor
  · intro h
    unfold Draft.finish at h
    split at h
    case h_4 hv hw hp =>
      obtain rfl := Except.ok.inj h
      simp [toDraft, ← hv, ← hw, ← hp]
    all_goals cases h
  · rintro rfl
    rfl

theorem read_eq_ok_iff {j : Json} {c : LaunchConfig} :
    read j = .ok c ↔ Draft.schema.read {} j = .ok c.toDraft := by
  unfold read
  rw [Reads.bind_eq_ok_iff]
  constructor
  · rintro ⟨d, hread, hfinish⟩
    rw [hread]
    split at hfinish
    case h_1 c' h =>
      obtain rfl := Except.ok.inj hfinish
      rw [finish_eq_ok_iff.mp h]
    case h_2 => cases hfinish
  · intro hread
    exact ⟨c.toDraft, hread, by rw [finish_eq_ok_iff.mpr rfl]; rfl⟩

theorem grammar : Grammar read parts toDraft ["javaHome", "javaOpts", "camundaConfig"] := by
  refine layout.grammar (fun _ _ => read_eq_ok_iff) (fun _ => full_iff) (fun j j' h => ?_) ?_
  · unfold read
    rw [h]
  · simp [parts, Language.flag, Language.text, Language.path, Language.texts, Language.optional,
      Language.record, Written, IsRecord, Json.texts]

/-- Configurations and their sections are read from exactly what their parts say. -/
theorem read_grammar :
    Grammar read parts toDraft ["javaHome", "javaOpts", "camundaConfig"] ∧
      Grammar BrowserConfig.read BrowserConfig.parts id ["startupUrl"] ∧
      Grammar ReadinessConfig.read ReadinessConfig.parts id [] ∧
      Grammar TerminationConfig.read TerminationConfig.parts id [] :=
  ⟨grammar, BrowserConfig.grammar, ReadinessConfig.grammar, TerminationConfig.grammar⟩

example : read (.object [("parentDir", .text "/opt"), ("elasticsearchVersion", .text "8.13.4"),
      ("camundaVersion", .text "8.6.0"), ("browser", .list [.bool false]), ("other", .null)]) =
    .ok { camundaVersion := "8.6.0", elasticsearchVersion := "8.13.4", parentDir := ⟨"/opt"⟩,
          browser := { opens := false } } := by
  rfl

end LaunchConfig

end Launchpad
