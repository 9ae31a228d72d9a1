import Launchpad.Config.Fault
import Launchpad.Json.Read

/-!
# The browser section of a configuration
-/

namespace Launchpad

/-- Where and how the browser is opened once the deployment is up. -/
structure BrowserConfig where
  /-- Whether it is opened at all. -/
  opens : Bool := true
  protocol : String := "http"
  port : UInt16 := 8080
  /-- Replaces the page of the web applications. -/
  startupUrl : Option String := none
  deriving DecidableEq, Repr, Inhabited

namespace BrowserConfig

def validate (c : BrowserConfig) : Except ConfigFault Unit :=
  if c.protocol ≠ "http" ∧ c.protocol ≠ "https" then .error (.badProtocol c.protocol)
  else if c.port = 0 then .error .zeroPort
  else .ok ()

def toJson (c : BrowserConfig) : Json :=
  .object [("open", .bool c.opens), ("protocol", .text c.protocol), ("port", .nat c.port.toNat),
    ("startupUrl", .ofText? c.startupUrl)]

def schema : Json.Schema BrowserConfig where
  name := "struct BrowserConfig"
  fields := [
    .of "open" Json.readBool fun v c => { c with opens := v },
    .of "protocol" Json.readText fun v c => { c with protocol := v },
    .of "port" Json.readUInt16 fun v c => { c with port := v },
    .of "startupUrl" (Json.readOption Json.readText) fun v c => { c with startupUrl := v }]

/-- Reads the section; what is left out has its default. -/
def read : Json.Reader BrowserConfig := schema.read {}

end BrowserConfig

end Launchpad
