import Launchpad.Text.Blank
import Launchpad.Text.Digits

/-!
# Hosts that are given by a number

A host is also given by four bytes, each of them a number between full stops, or by eight groups of
digits of base sixteen between colons, within square brackets.
-/

namespace Launchpad.Address

/-! ## Four bytes -/

/-- The number of a part: after `0x` in base sixteen, after another zero in base eight. -/
def partNumber? (part : List Char) : Option Nat :=
  match part with
  | '0' :: 'x' :: [] => some 0
  | '0' :: 'x' :: digits => Text.numeral? 16 digits
  | '0' :: d :: digits => Text.numeral? 8 (d :: digits)
  | part => Text.numeral? 10 part

/-- The parts of a name, without the empty one behind a full stop at the end. -/
def nameParts (name : List Char) : List (List Char) :=
  let parts := Text.splitOn (· == '.') name
  if parts.getLast? = some [] && 1 < parts.length then parts.dropLast else parts

/-- Whether a name, by its last part, can only be meant as a number. -/
def endsInNumber (name : List Char) : Bool :=
  (nameParts name).getLast?.any fun part =>
    (!part.isEmpty && part.all Char.isDigit) || (partNumber? part).isSome

/-- Whether a name gives four bytes. The last part fills all the bytes that are left. -/
def isFourBytes (name : List Char) : Bool :=
  match (nameParts name).mapM partNumber? with
  | none => false
  | some numbers =>
    numbers.length ≤ 4 && numbers.dropLast.all (· < 256) &&
      numbers.getLast?.any (· < Nat.pow 256 (5 - numbers.length))

/-! ## Eight groups -/

/-- Whether a text is a byte in decimal digits, without a zero in front. -/
def isByte (cs : List Char) : Bool :=
  (Text.numeral? 10 cs).any (· < 256) && (cs.length == 1 || cs.head? != some '0')

/-- How many groups a text stands for: one, or two in the form of four bytes at the end. -/
def groups? (last : Bool) (cs : List Char) : Option Nat :=
  if cs.length ≤ 4 && (Text.numeral? 16 cs).isSome then some 1
  else
    let bytes := Text.splitOn (· == '.') cs
    if last && bytes.length = 4 && bytes.all isByte then some 2 else none

/-- How many groups there are in a series with colons between them, if it is one. -/
def series? (last : Bool) (cs : List Char) : Option Nat :=
  if cs.isEmpty then some 0
  else
    let pieces := Text.splitOn (· == ':') cs
    match pieces.dropLast.mapM (groups? false), pieces.getLast?.bind (groups? last) with
    | some counts, some count => some (counts.foldr (· + ·) count)
    | _, _ => none

/-- What stands before and behind the first two colons in a row. -/
def splitGap? : List Char → Option (List Char × List Char)
  | ':' :: ':' :: cs => some ([], cs)
  | c :: cs => (splitGap? cs).map fun r => (c :: r.1, r.2)
  | [] => none

/-- Whether a text gives eight groups. Two colons in a row stand for the groups that are missing,
and there is at least one. -/
def isEightGroups (cs : List Char) : Bool :=
  match splitGap? cs with
  | none => series? true cs == some 8
  | some (front, back) =>
    match series? false front, series? true back with
    | some m, some n => m + n ≤ 7
    | _, _ => false

end Launchpad.Address
