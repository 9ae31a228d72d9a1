import Launchpad.Config.Browser
import Launchpad.Config.Readiness
import Launchpad.Config.Termination

/-!
# The configuration of a session
-/

namespace Launchpad

/-- What a session is started with. -/
structure LaunchConfig where
  camundaVersion : String
  elasticsearchVersion : String
  /-- The directory that holds the distributions. -/
  parentDir : Path
  javaHome : Option Path := none
  /-- Arguments for the start script of the main runtime. -/
  extraArgs : List String := []
  javaOpts : Option String := none
  /-- Another configuration for the main runtime, from the parent directory. -/
  camundaConfig : Option Path := none
  disableElasticsearch : Bool := false
  checkJavaVersion : Bool := true
  browser : BrowserConfig := {}
  readiness : ReadinessConfig := {}
  termination : TerminationConfig := {}
  deriving DecidableEq, Repr, Inhabited

namespace LaunchConfig

/-- Refuses blank versions and faulty sections. The version of a search engine that is not started
may be blank. -/
def validate (c : LaunchConfig) : Except ConfigFault Unit := do
  if Text.blank c.camundaVersion then throw (.blankVersion "camunda")
  if !c.disableElasticsearch && Text.blank c.elasticsearchVersion then
    throw (.blankVersion "elasticsearch")
  c.browser.validate
  c.readiness.validate
  c.termination.validate

/-- The components that the configuration starts, in launch order. -/
def components (c : LaunchConfig) : List Component :=
  Component.launchOrder.filter fun k => !(c.disableElasticsearch && k == .searchEngine)

def toJson (c : LaunchConfig) : Json :=
  .object [("camundaVersion", .text c.camundaVersion),
    ("elasticsearchVersion", .text c.elasticsearchVersion),
    ("parentDir", .text c.parentDir.text),
    ("javaHome", .ofText? (c.javaHome.map Path.text)),
    ("extraArgs", .texts c.extraArgs),
    ("javaOpts", .ofText? c.javaOpts),
    ("camundaConfig", .ofText? (c.camundaConfig.map Path.text)),
    ("disableElasticsearch", .bool c.disableElasticsearch),
    ("checkJavaVersion", .bool c.checkJavaVersion),
    ("browser", c.browser.toJson),
    ("readiness", c.readiness.toJson),
    ("termination", c.termination.toJson)]

end LaunchConfig

end Launchpad
