import Launchpad.Text.Digits
import Launchpad.Text.Lines
import Launchpad.Text.Lowercase
import Launchpad.Text.Utf8

/-!
# The head of an answer

A server answers with a line that has a status, fields of a name and a value, and an empty line. It
may send heads before that only tell how far it is. A text here has one character for each byte.
-/

namespace Launchpad.Health

/-- The head of an answer: its status and where it sends the reader. -/
structure Head where
  status : Nat
  location : Option String
  deriving DecidableEq, Repr

/-! ## Lines -/

/-- The text that has one character for each byte. -/
def bytewise (bytes : List UInt8) : List Char := bytes.map fun b => Char.ofNat b.toNat

def splitLine? (cs : List Char) : Option (List Char × List Char) :=
  match cs.dropWhile (· != '\n') with
  | [] => none
  | _ :: rest => some (Text.dropReturn (cs.takeWhile (· != '\n')), rest)

def skipEmptyLines : List Char → List Char
  | '\n' :: cs => skipEmptyLines cs
  | '\r' :: '\n' :: cs => skipEmptyLines cs
  | cs => cs

def isNameChar (c : Char) : Bool := c.isAlphanum || "!#$%&'*+-.^_|~\x60".toList.contains c

def isValueChar (c : Char) : Bool := c == '\t' || (0x20 ≤ c.toNat && c.toNat != 0x7f)

/-- The first line: the last digit of its version, and its status. -/
def statusLine? (line : List Char) : Option (Char × Nat) :=
  match line with
  | 'H' :: 'T' :: 'T' :: 'P' :: '/' :: '1' :: '.' :: minor :: ' ' :: a :: b :: c :: rest =>
    let reasonOk := match rest with
      | [] => true
      | ' ' :: reason => reason.all isValueChar
      | _ => false
    if (minor == '0' || minor == '1') && reasonOk then
      ((Text.numeral? 10 [a, b, c]).filter (100 ≤ ·)).map fun status => (minor, status)
    else none
  | _ => none

/-- The name, in small letters, and the value of a line of a head. -/
def field? (line : List Char) : Option (String × List Char) :=
  let name := line.takeWhile isNameChar
  match line.drop name.length with
  | ':' :: value =>
    if name.isEmpty || !value.all isValueChar then none
    else
      let value := Text.strip (fun c => c == ' ' || c == '\t') value
      some (Text.lowerAscii (String.ofList name), value)
  | _ => none

/-- Reads the fields up to the empty line, with room for so many, and what follows. -/
def fields? (room : Nat) (cs : List Char) : Option (List (String × List Char) × List Char) := do
  let (line, rest) ← splitLine? cs
  if line.isEmpty then some ([], rest)
  else match room with
    | 0 => none
    | room + 1 =>
      let field ← field? line
      let (fields, rest) ← fields? room rest
      some (field :: fields, rest)

/-! ## What the fields mean -/

def longestBody : Nat := UInt64.size - 3

/-- Whether all the lengths that a head gives, with commas between those of one field, are the same
number. -/
def lengthsAgree (values : List (List Char)) : Bool :=
  let pieces := values.flatMap fun value => (Text.splitOn (· == ',') value).map Text.trim
  let visible := values.all fun value => value.all (·.toNat < 0x80)
  visible && match pieces.map (Text.numeral? 10) with
    | [] => true
    | none :: _ => false
    | some length :: others => length ≤ longestBody && others.all (· == some length)

def isInterim (status : Nat) : Bool := 100 ≤ status && status < 200 && status != 101

def isBodiless (status : Nat) : Bool := status == 101 || status == 204 || status == 304

/-- Whether the fields say in a valid way where the body ends. An encoding for the transfer, which
the first version does not know, goes before the length. -/
def bodyEnds (minor : Char) (status : Nat) (fields : List (String × List Char)) : Bool :=
  isBodiless status ||
    if fields.any (·.1 == "transfer-encoding") then minor == '1'
    else lengthsAgree ((fields.filter (·.1 == "content-length")).map (·.2))

def maxFields : Nat := 100

/-- The head of an answer, after at most so many others, if the text begins with a whole one. -/
def headAfter? : Nat → List Char → Option Head
  | 0, _ => none
  | others + 1, cs => do
    let (line, rest) ← splitLine? (skipEmptyLines cs)
    let (minor, status) ← statusLine? line
    let (fields, rest) ← fields? maxFields rest
    if isInterim status then headAfter? others rest
    else if bodyEnds minor status fields then
      let location := (fields.lookup "location").bind fun value =>
        Text.decode? (value.map fun c => c.toNat.toUInt8)
      some { status, location := location.map String.ofList }
    else none

def head? (sent : List UInt8) : Option Head := headAfter? sent.length (bytewise sent)

end Launchpad.Health
