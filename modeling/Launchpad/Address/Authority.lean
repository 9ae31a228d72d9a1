import Launchpad.Address.Domain
import Launchpad.Address.Numeric

/-!
# Whom an address asks

After its scheme, an address names who asks, the host and the port. `authority?` reads this part and
writes the host and the port in their plain form. Who asks is told to the host apart from the
address.
-/

namespace Launchpad.Address

/-- The schemes of pages that can be asked for. -/
inductive Scheme where
  | http
  | https
  deriving DecidableEq, Repr

def Scheme.name : Scheme → String
  | .http => "http"
  | .https => "https"

def Scheme.port : Scheme → Nat
  | .http => 80
  | .https => 443

/-- The scheme of a name. Capital letters count as small ones. -/
def Scheme.ofName? (name : List Char) : Option Scheme :=
  [Scheme.http, .https].find? fun s => s.name.toList = name.map Char.toLower

/-- Splits the host from what follows it. A colon in square brackets belongs to the host. -/
def splitHost (bracketed : Bool) : List Char → List Char × List Char
  | [] => ([], [])
  | c :: cs =>
    if c == ':' && !bracketed then ([], c :: cs)
    else
      let (host, rest) := splitHost (c == '[' || (bracketed && c != ']')) cs
      (c :: host, rest)

/-- Reads a host: a number in square brackets, or a name, which may give four bytes. -/
def host? (host : List Char) : Option (List Char) :=
  match host with
  | '[' :: rest =>
    if rest.getLast? = some ']' && isEightGroups rest.dropLast then some (host.map Char.toLower)
    else none
  | host =>
    (domain? host).filter fun name =>
      !name.isEmpty && (!endsInNumber name || isFourBytes name)

/-- Reads a port behind its colon. The port of the scheme is left out, as one that is not named. -/
def port? (scheme : Scheme) : List Char → Option (List Char)
  | [] => some []
  | [':'] => some []
  | ':' :: digits =>
    ((Text.numeral? 10 digits).filter (· < 65536)).map fun port =>
      if port = scheme.port then [] else ':' :: Nat.toDigits 10 port
  | _ => none

/-- What follows the last at sign, if there is one. Who asks stands before it. -/
def afterUser (authority : List Char) : List Char :=
  ((Text.splitOn (· == '@') authority).getLast?).getD []

/-- Reads the part of an address that names the host, and writes it in its plain form. -/
def authority? (scheme : Scheme) (authority : List Char) : Option (List Char) := do
  let (host, port) := splitHost false (afterUser authority)
  let host ← host? host
  let port ← port? scheme port
  some (host ++ port)

end Launchpad.Address
