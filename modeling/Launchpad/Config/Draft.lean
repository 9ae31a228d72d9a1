import Launchpad.Config.Launch

/-!
# Configurations in the making

A draft is a configuration whose versions and directory may still be missing. It starts with the
defaults and is filled setting by setting, as the fields of a JSON value are read, up to
`Draft.finish`.
-/

namespace Launchpad

/-- A part of a configuration that has no default. -/
inductive RequiredPart where
  | camundaVersion
  | elasticsearchVersion
  | parentDir
  deriving DecidableEq, Repr

namespace RequiredPart

def key : RequiredPart → String
  | .camundaVersion => "camundaVersion"
  | .elasticsearchVersion => "elasticsearchVersion"
  | .parentDir => "parentDir"

/-- What callers that set the parts one by one know the part as. -/
def name : RequiredPart → String
  | .camundaVersion => "camunda_version"
  | .elasticsearchVersion => "elasticsearch_version"
  | .parentDir => "parent_dir"

def message (p : RequiredPart) : String := "`" ++ p.name ++ "` must be initialized"

end RequiredPart

/-- A configuration whose required parts may be missing. -/
structure Draft where
  camundaVersion : Option String := none
  elasticsearchVersion : Option String := none
  parentDir : Option Path := none
  javaHome : Option Path := none
  extraArgs : List String := []
  javaOpts : Option String := none
  camundaConfig : Option Path := none
  disableElasticsearch : Bool := false
  checkJavaVersion : Bool := true
  browser : BrowserConfig := {}
  readiness : ReadinessConfig := {}
  termination : TerminationConfig := {}
  deriving DecidableEq, Repr, Inhabited

/-- A value for one part of a configuration. -/
inductive Setting where
  | camundaVersion (value : String)
  | elasticsearchVersion (value : String)
  | parentDir (value : Path)
  | javaHome (value : Option Path)
  | extraArgs (value : List String)
  | javaOpts (value : Option String)
  | camundaConfig (value : Option Path)
  | disableElasticsearch (value : Bool)
  | checkJavaVersion (value : Bool)
  | browser (value : BrowserConfig)
  | readiness (value : ReadinessConfig)
  | termination (value : TerminationConfig)
  deriving DecidableEq, Repr

namespace Draft

/-- Puts a value in its place; a later value for the same part wins. -/
def set (d : Draft) : Setting → Draft
  | .camundaVersion value => { d with camundaVersion := some value }
  | .elasticsearchVersion value => { d with elasticsearchVersion := some value }
  | .parentDir value => { d with parentDir := some value }
  | .javaHome value => { d with javaHome := value }
  | .extraArgs value => { d with extraArgs := value }
  | .javaOpts value => { d with javaOpts := value }
  | .camundaConfig value => { d with camundaConfig := value }
  | .disableElasticsearch value => { d with disableElasticsearch := value }
  | .checkJavaVersion value => { d with checkJavaVersion := value }
  | .browser value => { d with browser := value }
  | .readiness value => { d with readiness := value }
  | .termination value => { d with termination := value }

def ofSettings (settings : List Setting) : Draft := settings.foldl set {}

/-- The configuration of a draft, or the first required part that is missing. -/
def finish (d : Draft) : Except RequiredPart LaunchConfig :=
  match d.camundaVersion, d.elasticsearchVersion, d.parentDir with
  | none, _, _ => .error .camundaVersion
  | _, none, _ => .error .elasticsearchVersion
  | _, _, none => .error .parentDir
  | some camundaVersion, some elasticsearchVersion, some parentDir =>
    .ok { camundaVersion, elasticsearchVersion, parentDir,
          javaHome := d.javaHome, extraArgs := d.extraArgs, javaOpts := d.javaOpts,
          camundaConfig := d.camundaConfig, disableElasticsearch := d.disableElasticsearch,
          checkJavaVersion := d.checkJavaVersion, browser := d.browser,
          readiness := d.readiness, termination := d.termination }

def settingField {α : Type} (key : String) (required : Bool) (r : Json.Reader α)
    (setting : α → Setting) : Json.Field Draft :=
  { Json.Field.of key r fun v d => set d (setting v) with required }

def schema : Json.Schema Draft where
  name := "struct LaunchConfig"
  fields := [
    settingField "camundaVersion" true Json.readText .camundaVersion,
    settingField "elasticsearchVersion" true Json.readText .elasticsearchVersion,
    settingField "parentDir" true Json.readPath .parentDir,
    settingField "javaHome" false (Json.readOption Json.readPath) .javaHome,
    settingField "extraArgs" false (Json.readList Json.readText) .extraArgs,
    settingField "javaOpts" false (Json.readOption Json.readText) .javaOpts,
    settingField "camundaConfig" false (Json.readOption Json.readPath) .camundaConfig,
    settingField "disableElasticsearch" false Json.readBool .disableElasticsearch,
    settingField "checkJavaVersion" false Json.readBool .checkJavaVersion,
    settingField "browser" false BrowserConfig.read .browser,
    settingField "readiness" false ReadinessConfig.read .readiness,
    settingField "termination" false TerminationConfig.read .termination]

end Draft

/-- Reads a configuration; what is left out has its default. -/
def LaunchConfig.read : Json.Reader LaunchConfig := fun j => do
  let draft ← Draft.schema.read {} j
  match draft.finish with
  | .ok config => return config
  | .error part => throw (.missing part.key)

end Launchpad
