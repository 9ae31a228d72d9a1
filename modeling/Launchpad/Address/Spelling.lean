import Launchpad.Address.Spelling.Table
import Launchpad.Text.Blank
import Launchpad.Text.Hidden
import Launchpad.Text.Lowercase
import Launchpad.Text.Mark

/-!
# How host names are spelled

A host name may be written with characters that stand for others: capital letters, digits of every
design, wide letters, the full stops of other scripts. `spell?` reads one character. Some characters
are passed over, and some may not stand in a name.
-/

namespace Launchpad.Address

/-! ## Images -/

/-- Characters in a row, and what they stand for. -/
structure ImageRow where
  first : Nat
  images : Array (List Char)

def imageTable : List ImageRow :=
  imageRows.map fun row => ⟨row.1, (Text.splitOn (· == '|') row.2.toList).toArray⟩

def image? (c : Char) : Option (List Char) :=
  match imageRuns.find? fun r => r.1 ≤ c.toNat && c.toNat ≤ r.2.1 with
  | some (first, _, step, image) => some [Char.ofNat (image + step * (c.toNat - first))]
  | none =>
    imageTable.findSome? fun row =>
      if row.first ≤ c.toNat then row.images[c.toNat - row.first]? else none

/-! ## Characters without an image -/

/-- The joiners, which are letters of some words and may not stand elsewhere. -/
def isJoiner (c : Char) : Bool := c = '\u200c' || c = '\u200d'

def isBarred (c : Char) : Bool := Text.inRanges barredRanges c

/-- Whether a name is read without a character: one that is ignored, or one that is hidden because
it has not been assigned. -/
def isPassedOver (c : Char) : Bool :=
  Text.inRanges ignoredRanges c ||
    (Text.isHidden c && !Text.isMark c && !isJoiner c && !isBarred c && (image? c).isNone)

/-- Whether an ASCII character may not stand in a name: it is a control or a space, it delimits the
parts of an address, or it has to be escaped in one. -/
def isDelimiter (c : Char) : Bool :=
  c.toNat ≤ 0x20 || c.toNat == 0x7f || "\"#%/:<>?@[\\]^\x60\x7b|\x7d".toList.contains c

/-- What a character of a name stands for, if it may stand there. -/
def spell? (c : Char) : Option (List Char) :=
  if c.toNat < 0x80 then some [c.toLower]
  else if isPassedOver c then some []
  else if isBarred c then none
  else some ((image? c).getD (Text.lowerChar c))

end Launchpad.Address
