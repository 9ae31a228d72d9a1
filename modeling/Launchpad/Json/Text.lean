import Launchpad.Json
import Launchpad.Text.Digits

/-!
# JSON text

`Json.parse?` reads a value from a text and `Json.print` writes one. A number without point and
exponent is an integer as far as 64 bits go, with or without a sign; any other number is a double.
-/

namespace Launchpad.Json

/-! ## Reading -/

def skipBlank (cs : List Char) : List Char :=
  cs.dropWhile fun c => c == ' ' || c == '\t' || c == '\n' || c == '\r'

def single? (n : Nat) : Option Char := if n.isValidChar then some (Char.ofNat n) else none

def pair? : Option Nat → Option Nat → Option Char
  | some high, some low =>
    if 0xd800 ≤ high && high < 0xdc00 && 0xdc00 ≤ low && low < 0xe000 then
      some (Char.ofNat (0x10000 + 0x400 * (high - 0xd800) + (low - 0xdc00)))
    else none
  | _, _ => none

def escaped? (c : Char) : Option Char :=
  [('"', '"'), ('\\', '\\'), ('/', '/'), ('b', '\x08'), ('f', '\x0c'), ('n', '\n'), ('r', '\r'),
    ('t', '\t')].lookup c

/-- Reads a text up to the quote that ends it, behind the characters `read` so far, latest first. -/
def readQuoted? (read : List Char) : List Char → Option (String × List Char)
  | [] => none
  | '"' :: rest => some (String.ofList read.reverse, rest)
  | '\\' :: 'u' :: a :: b :: c :: d :: rest =>
    match (Text.numeral? 16 [a, b, c, d]).bind single? with
    | some ch => readQuoted? (ch :: read) rest
    | none =>
      match rest with
      | '\\' :: 'u' :: e :: f :: g :: h :: rest =>
        match pair? (Text.numeral? 16 [a, b, c, d]) (Text.numeral? 16 [e, f, g, h]) with
        | some ch => readQuoted? (ch :: read) rest
        | none => none
      | _ => none
  | '\\' :: c :: rest =>
    match escaped? c with
    | some ch => readQuoted? (ch :: read) rest
    | none => none
  | c :: rest => if c.toNat < 0x20 then none else readQuoted? (c :: read) rest

/-- Takes digits into a whole number as long as it stays a word of 64 bits; what is left of them. -/
def takeDigits (n : Nat) : List Char → Nat × List Char
  | [] => (n, [])
  | d :: ds =>
    let next := 10 * n + (d.toNat - '0'.toNat)
    if next < UInt64.size then takeDigits next ds else (n, d :: ds)

/-- The double for digits before and behind the point and an exponent. Digits that a word of 64 bits
does not hold do not count. -/
def real? (negative : Bool) (whole fraction : List Char) (exponent : Int) : Option Json :=
  let (n, left) := takeDigits 0 whole
  let (n, unread) := takeDigits n fraction
  let places := fraction.length - unread.length
  (Double.ofDecimal? n (exponent + left.length - places)).map fun x =>
    .real (if negative then x.negate else x)

/-- The value of a number with these digits before the point and nothing else. -/
def whole? (negative : Bool) (digits : List Char) : Option Json :=
  let (n, left) := takeDigits 0 digits
  if !left.isEmpty || (negative && (n = 0 || 0x8000000000000000 < n)) then real? negative digits [] 0
  else some (.int (if negative then -n else n))

def readExponent? (cs : List Char) : Option (Int × List Char) :=
  let negative := cs.head? == some '-'
  let body := if negative || cs.head? = some '+' then cs.tail else cs
  let digits := body.takeWhile Char.isDigit
  if digits.isEmpty then none
  else
    let n := digits.foldl (fun n d => 10 * n + (d.toNat - '0'.toNat)) 0
    some (if negative then -n else n, body.drop digits.length)

def readNumber? (cs : List Char) : Option (Json × List Char) := do
  let negative := cs.head? == some '-'
  let body := if negative then cs.tail else cs
  let whole := body.takeWhile Char.isDigit
  if whole.isEmpty || (whole.head? = some '0' && 1 < whole.length) then none
  let rest := body.drop whole.length
  let hasPoint := rest.head? == some '.'
  let fraction := if hasPoint then rest.tail.takeWhile Char.isDigit else []
  if hasPoint && fraction.isEmpty then none
  let rest := if hasPoint then rest.tail.drop fraction.length else rest
  match rest with
  | c :: more =>
    if c == 'e' || c == 'E' then
      let (exponent, rest) ← readExponent? more
      return (← real? negative whole fraction exponent, rest)
    else if hasPoint then return (← real? negative whole fraction 0, rest)
    else return (← whole? negative whole, rest)
  | [] =>
    if hasPoint then return (← real? negative whole fraction 0, [])
    else return (← whole? negative whole, [])

mutual

def readValue? : Nat → List Char → Option (Json × List Char)
  | 0, _ => none
  | fuel + 1, cs =>
    match skipBlank cs with
    | 'n' :: 'u' :: 'l' :: 'l' :: rest => some (.null, rest)
    | 't' :: 'r' :: 'u' :: 'e' :: rest => some (.bool true, rest)
    | 'f' :: 'a' :: 'l' :: 's' :: 'e' :: rest => some (.bool false, rest)
    | '"' :: rest => (readQuoted? [] rest).map fun r => (.text r.1, r.2)
    | '[' :: rest =>
      match skipBlank rest with
      | ']' :: rest => some (.list [], rest)
      | rest => (readItems? fuel rest).map fun r => (.list r.1, r.2)
    | '\x7b' :: rest =>
      match skipBlank rest with
      | '\x7d' :: rest => some (.object [], rest)
      | rest => (readFields? fuel rest).map fun r => (.object r.1, r.2)
    | cs => readNumber? cs

def readItems? : Nat → List Char → Option (List Json × List Char)
  | 0, _ => none
  | fuel + 1, cs => do
    let (item, rest) ← readValue? fuel cs
    match skipBlank rest with
    | ',' :: rest =>
      let (items, rest) ← readItems? fuel rest
      return (item :: items, rest)
    | ']' :: rest => return ([item], rest)
    | _ => none

def readFields? : Nat → List Char → Option (List (String × Json) × List Char)
  | 0, _ => none
  | fuel + 1, cs =>
    match skipBlank cs with
    | '"' :: rest => do
      let (key, rest) ← readQuoted? [] rest
      match skipBlank rest with
      | ':' :: rest =>
        let (value, rest) ← readValue? fuel rest
        match skipBlank rest with
        | ',' :: rest =>
          let (fields, rest) ← readFields? fuel rest
          return ((key, value) :: fields, rest)
        | '\x7d' :: rest => return ([(key, value)], rest)
        | _ => none
      | _ => none
    | _ => none

end

/-- The value that a text holds, if it holds one and nothing else. -/
def parse? (text : String) : Option Json :=
  let cs := text.toList
  match readValue? (2 * cs.length + 2) cs with
  | some (value, rest) => if (skipBlank rest).isEmpty then some value else none
  | none => none

/-! ## Writing -/

def escapeChar (c : Char) : List Char :=
  if c == '"' || c == '\\' then ['\\', c]
  else if c.toNat < 0x20 then
    let digits := Text.hexDigits c.toNat
    ['\\', 'u'] ++ List.replicate (4 - digits.length) '0' ++ digits
  else [c]

def quoted (s : String) : String := String.ofList ('"' :: s.toList.flatMap escapeChar ++ ['"'])

mutual

def print : Json → String
  | .null => "null"
  | .bool value => if value then "true" else "false"
  | .int value => toString value
  | .real value => value.text
  | .text value => quoted value
  | .list items => "[" ++ ",".intercalate (printItems items) ++ "]"
  | .object fields => "\x7b" ++ ",".intercalate (printFields fields) ++ "\x7d"

def printItems : List Json → List String
  | [] => []
  | item :: items => print item :: printItems items

def printFields : List (String × Json) → List String
  | [] => []
  | (key, value) :: fields => (quoted key ++ ":" ++ print value) :: printFields fields

end

end Launchpad.Json
