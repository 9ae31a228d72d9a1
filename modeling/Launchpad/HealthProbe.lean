import Launchpad.Address
import Launchpad.HealthProbe.Head

/-!
# Health pages

A component is ready when its health page answers with success. The page may send the reader on to
other pages a number of times. `Server` answers a series of requests from a script.
-/

namespace Launchpad.Health

open Address (Page)

/-- How many times one question may be sent on to another page. -/
def maxRedirects : Nat := 10

def isSuccess (status : Nat) : Bool := 200 ≤ status && status < 300

def isRedirect (status : Nat) : Bool := [301, 302, 303, 307, 308].contains status

/-- What a server does with one request. -/
inductive Reply where
  /-- Sends bytes and closes. -/
  | bytes (sent : List UInt8)
  /-- Does not answer in time. -/
  | silence
  deriving DecidableEq, Repr

def Reply.answer (status : Nat) (location : Option String) (body : String) : Reply :=
  let fields := (location.toList.map fun l => "location: " ++ l) ++
    [s!"content-length: {body.utf8ByteSize}", "connection: close", "", body]
  .bytes (String.intercalate "\r\n" (s!"HTTP/1.1 {status} Scripted" :: fields)).toUTF8.toList

def Reply.head? : Reply → Option Head
  | .bytes sent => Health.head? sent
  | .silence => none

/-- A server: what it does in turn, the last of it again and again, and the requests it has seen. -/
structure Server where
  replies : List Reply
  requests : Nat := 0
  deriving Repr

/-- Takes one request. A server without replies refuses the connection. -/
def Server.take (s : Server) : Option Reply × Server :=
  match s.replies[s.requests]? <|> s.replies.getLast? with
  | some reply => (some reply, { s with requests := s.requests + 1 })
  | none => (none, s)

/-- The page that an answer of another page sends the reader on to, if it can be asked for. -/
def Head.next? (h : Head) (page : Page) : Option Page :=
  if isRedirect h.status then h.location.bind (Address.page? (some page)) else none

/-- Asks a server for a page, following it at most so many times. -/
def ask (redirects : Nat) (page : Page) (s : Server) : Bool × Server :=
  let (reply?, s) := s.take
  match reply?.bind Reply.head? with
  | none => (false, s)
  | some head =>
    match head.next? page with
    | none => (isSuccess head.status, s)
    | some next =>
      match redirects with
      | 0 => (false, s)
      | left + 1 => ask left next s

/-- Asks a server so many times whether it is ready. There is no request without a page. -/
def askTimes (s : Server) (page : Option Page) : Nat → List Bool × Server
  | 0 => ([], s)
  | n + 1 =>
    let (ready, s) := match page with
      | some page => ask maxRedirects page s
      | none => (false, s)
    let (more, s) := askTimes s page n
    (ready :: more, s)

def describe (url : String) : String := "GET " ++ url

end Launchpad.Health
