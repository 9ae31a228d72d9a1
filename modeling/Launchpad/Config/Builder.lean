import Launchpad.Config.Draft

/-!
# Building configurations

A builder takes the parts of a configuration one by one, in any order and any number of times. It
has its own defaults for those that are never set.
-/

namespace Launchpad

/-- What has been set of a configuration. -/
structure Builder where
  camundaVersion : Option String := none
  elasticsearchVersion : Option String := none
  parentDir : Option Path := none
  javaHome : Option (Option Path) := none
  extraArgs : Option (List String) := none
  javaOpts : Option (Option String) := none
  camundaConfig : Option (Option Path) := none
  disableElasticsearch : Option Bool := none
  checkJavaVersion : Option Bool := none
  browser : Option BrowserConfig := none
  readiness : Option ReadinessConfig := none
  termination : Option TerminationConfig := none
  deriving DecidableEq, Repr, Inhabited

namespace Builder

/-- Sets a part; what it was set to before is forgotten. -/
def set (b : Builder) : Setting → Builder
  | .camundaVersion value => { b with camundaVersion := some value }
  | .elasticsearchVersion value => { b with elasticsearchVersion := some value }
  | .parentDir value => { b with parentDir := some value }
  | .javaHome value => { b with javaHome := some value }
  | .extraArgs value => { b with extraArgs := some value }
  | .javaOpts value => { b with javaOpts := some value }
  | .camundaConfig value => { b with camundaConfig := some value }
  | .disableElasticsearch value => { b with disableElasticsearch := some value }
  | .checkJavaVersion value => { b with checkJavaVersion := some value }
  | .browser value => { b with browser := some value }
  | .readiness value => { b with readiness := some value }
  | .termination value => { b with termination := some value }

def ofSettings (calls : List Setting) : Builder := calls.foldl set {}

def require {α : Type} (part : RequiredPart) : Option α → Except RequiredPart α
  | some value => .ok value
  | none => .error part

/-- The configuration that has been set, or the first required part that has not. -/
def build (b : Builder) : Except RequiredPart LaunchConfig := do
  let camundaVersion ← require .camundaVersion b.camundaVersion
  let elasticsearchVersion ← require .elasticsearchVersion b.elasticsearchVersion
  let parentDir ← require .parentDir b.parentDir
  return { camundaVersion, elasticsearchVersion, parentDir,
           javaHome := b.javaHome.getD none, extraArgs := b.extraArgs.getD [],
           javaOpts := b.javaOpts.getD none, camundaConfig := b.camundaConfig.getD none,
           disableElasticsearch := b.disableElasticsearch.getD false,
           checkJavaVersion := b.checkJavaVersion.getD true, browser := b.browser.getD {},
           readiness := b.readiness.getD {}, termination := b.termination.getD {} }

end Builder

end Launchpad
