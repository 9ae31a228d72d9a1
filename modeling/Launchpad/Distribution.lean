import Launchpad.Command
import Launchpad.FileSystem

/-!
# The commands of a distribution

Where the start scripts of a distribution are and how each component is started from it. Building a
command checks that what it needs is there and starts nothing.
-/

namespace Launchpad

/-- The naming conventions of the files of a target. -/
structure Layout where
  /-- What the names of start scripts end in. -/
  scriptSuffix : String
  /-- What separates the entries of a classpath. -/
  classpathSeparator : Char
  deriving DecidableEq, Repr, Inhabited

namespace Layout

/-- Scripts without a suffix, a classpath with colons. -/
def posix : Layout := ⟨"", ':'⟩

/-- Batch scripts, a classpath with semicolons. -/
def windows : Layout := ⟨".bat", ';'⟩

end Layout

/-- Why a command cannot be built. -/
inductive CommandFault where
  | blankVersion (product : String)
  | noDirectory (path : Path)
  | noFile (what : String) (path : Path)
  /-- Another reason, in words. -/
  | described (text : String)
  deriving DecidableEq, Repr

def CommandFault.message : CommandFault → String
  | .blankVersion product => product ++ " version must not be empty"
  | .noDirectory path => "directory " ++ path.text ++ " does not exist"
  | .noFile what path => what ++ " " ++ path.text ++ " not found"
  | .described text => text

namespace Distribution

def browserUrl (protocol : String) (port : UInt16) : String :=
  protocol ++ "://localhost:" ++ toString port.toNat ++ "/operate"

def searchEngineDir (parent : Path) (version : String) : Path :=
  parent / ("elasticsearch-" ++ version)

def mainRuntimeDir (parent : Path) (version : String) : Path :=
  parent / ("camunda-zeebe-" ++ version)

/-! ## What a command needs -/

def requireVersion (product version : String) : Except CommandFault Unit :=
  if Text.blank version then .error (.blankVersion product) else .ok ()

def requireDirectory (fs : FileSystem) (path : Path) : Except CommandFault Unit :=
  if fs.isDirectory path then .ok () else .error (.noDirectory path)

def requireFile (fs : FileSystem) (what : String) (path : Path) : Except CommandFault Unit :=
  if fs.isFile path then .ok () else .error (.noFile what path)

/-! ## The commands -/

def connectorsMainClass : String :=
  "io.camunda.connector.runtime.app.ConnectorRuntimeApplication"

/-- How an argument that names a configuration begins. -/
def configLocationFlag : String := "--spring.config.location"

def configLocation (location : String) : String := configLocationFlag ++ "=" ++ location

/-- Whether an argument begins like one that names a configuration. -/
def setsConfigLocation (arg : String) : Bool := configLocationFlag.toList.isPrefixOf arg.toList

/-- The three places where the connectors find their classes. -/
def classpath (parent : Path) (version : String) : List Path :=
  [parent / "*", parent / "custom_connectors" / "*",
    mainRuntimeDir parent version / "lib" / "*"]

/-- A command to build, with what it depends on. -/
inductive Request where
  /-- Ask a java binary for its version. -/
  | version (java : Path)
  | searchEngine (version : String) (parent : Path)
  | connectors (java parent : Path) (version : String)
  | mainRuntime (version : String) (parent : Path) (extraArgs : List String)
      (javaOpts : Option String)
  deriving DecidableEq, Repr

def versionCommand (fs : FileSystem) (java : Path) : Except CommandFault Command := do
  requireFile fs "java binary" java
  return { program := java, args := ["--version"] }

/-- Starts the search engine without its machine learning and its security. -/
def searchEngineCommand (layout : Layout) (fs : FileSystem) (version : String) (parent : Path) :
    Except CommandFault Command := do
  requireVersion "elasticsearch" version
  requireDirectory fs parent
  let script := searchEngineDir parent version / "bin" / ("elasticsearch" ++ layout.scriptSuffix)
  requireFile fs "elasticsearch start script" script
  return { program := script,
           args := ["-E", "xpack.ml.enabled=false", "-E", "xpack.security.enabled=false"],
           directory := some parent }

def connectorsCommand (layout : Layout) (fs : FileSystem) (java parent : Path) (version : String) :
    Except CommandFault Command := do
  requireVersion "camunda" version
  requireDirectory fs parent
  requireFile fs "java binary" java
  let classes := layout.classpathSeparator.toString.intercalate
    ((classpath parent version).map Path.text)
  let properties := parent / "connectors-application.properties"
  return { program := java,
           args := ["-classpath", classes, connectorsMainClass, configLocation properties.text],
           directory := some parent }

/-- The configuration that the main runtime gets unless the caller names one. -/
def defaultLocation (parent : Path) : String := (parent / "configuration").text ++ "/"

/-- Starts the main runtime. The caller's arguments come last; its own configuration is left out
when they name one. -/
def mainRuntimeCommand (layout : Layout) (fs : FileSystem) (version : String) (parent : Path)
    (extraArgs : List String) (javaOpts : Option String) : Except CommandFault Command := do
  requireVersion "camunda" version
  requireDirectory fs parent
  let script := mainRuntimeDir parent version / "bin" / ("camunda" ++ layout.scriptSuffix)
  requireFile fs "camunda start script" script
  let location :=
    if extraArgs.any setsConfigLocation then [] else [configLocation (defaultLocation parent)]
  let command : Command :=
    { program := script, args := location ++ extraArgs, directory := some parent }
  return match javaOpts with
    | some opts => if Text.blank opts then command else command.withVariable "JAVA_OPTS" opts
    | none => command

def build (layout : Layout) (fs : FileSystem) : Request → Except CommandFault Command
  | .version java => versionCommand fs java
  | .searchEngine version parent => searchEngineCommand layout fs version parent
  | .connectors java parent version => connectorsCommand layout fs java parent version
  | .mainRuntime version parent extraArgs javaOpts =>
    mainRuntimeCommand layout fs version parent extraArgs javaOpts

end Distribution

end Launchpad
