import Launchpad.Address.Direction
import Launchpad.Address.Escape
import Launchpad.Address.Joining
import Launchpad.Address.Punycode
import Launchpad.Text.Composition
import Launchpad.Text.Utf8

/-!
# Host names

The name of a host is a series of labels with full stops between them. `domain?` reads a name as it
is written in an address: with escapes, capital letters, characters that stand for others, and
labels that are written in ASCII alone.
-/

namespace Launchpad.Address

def isAscii (label : List Char) : Bool := label.all fun c => c.toNat < 0x80

/-- The most characters of a label that has some beyond ASCII. -/
def longestLabel : Nat := 1000

/-- The most characters of a label in Punycode, without what marks it as one. -/
def longestPunycode : Nat := 2000

/-- Whether a label beyond ASCII is in order. -/
def isLabel (label : List Char) : Bool :=
  isAscii label ||
    (!label.head?.any Text.isMark && joinersFit [] label && label.length ≤ longestLabel)

/-- Whether a label is spelled by itself: every character stands for itself, and the text is in its
standard form. -/
def isPlain (label : List Char) : Bool :=
  label.all (fun c => spell? c == some [c]) && Text.compose label == label

/-- Reads a label that has been spelled. One in Punycode has to have characters beyond ASCII, and
has to be plain. -/
def label? (label : List Char) : Option (List Char) :=
  match label with
  | 'x' :: 'n' :: '-' :: '-' :: code =>
    if code.getLast?.all (· == '-') || longestPunycode < code.length then none
    else (Punycode.decode? code).filter fun l => isPlain l && isLabel l
  | _ => if isLabel label then some label else none

def spelled? (written : List Char) : Option (List Char) := do
  let name ← Text.decode? (unescape written)
  let images ← name.mapM spell?
  let spelled := Text.compose images.flatten
  if spelled.any isDelimiter then none else some spelled

/-- The name that is written in an address, if it is one. The labels in Punycode are left as they
are. -/
def domain? (written : List Char) : Option (List Char) := do
  let spelled ← spelled? written
  let labels ← (Text.splitOn (· == '.') spelled).mapM label?
  if directionsFit labels then some spelled else none

end Launchpad.Address
