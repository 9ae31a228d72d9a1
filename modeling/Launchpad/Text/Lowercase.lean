import Launchpad.Text.Lowercase.Table

/-!
# Lowercase text

Every character is mapped on its own, but for two: the dotted capital I becomes two characters, and
a capital sigma is written in its final form at the end of a word.
-/

namespace Launchpad.Text

/-- The lowercase form of one character, whatever stands around it. -/
def lowerChar (c : Char) : List Char :=
  if c.toNat = 0x130 then ['i', '\u0307']
  else match lowerRuns.find? (·.has c.toNat) with
    | some r => [Char.ofNat (r.image + (c.toNat - r.first))]
    | none => [c]

/-- Whether the first character that case does not ignore is a cased one. -/
def meetsCased (cs : List Char) : Bool :=
  ((cs.dropWhile (inRanges caseIgnorableRanges)).head?).any (inRanges casedRanges)

/-- The lowercase form of what is left of a text, with the characters before it, nearest first. -/
def lowerAfter (before : List Char) : List Char → List Char
  | [] => []
  | c :: cs =>
    let image :=
      if c = 'Σ' then if meetsCased before && !meetsCased cs then ['ς'] else ['σ']
      else lowerChar c
    image ++ lowerAfter (c :: before) cs

def lower (cs : List Char) : List Char := lowerAfter [] cs

/-- The lowercase form in which only the letters from A to Z change. -/
def lowerAscii (s : String) : String := String.ofList (s.toList.map Char.toLower)

end Launchpad.Text
