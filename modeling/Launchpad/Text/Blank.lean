/-!
# White space

`isBlank` is the `White_Space` property. `strip` removes a class of characters from both ends, and
`words` are the maximal runs without white space.
-/

namespace Launchpad.Text

/-- White space: the control characters from tab to carriage return, the space, and the spaces and
separators that the standard lists besides. -/
def isBlank (c : Char) : Bool :=
  let n := c.toNat
  (0x09 ≤ n && n ≤ 0x0d) || n == 0x20 || n == 0x85 || n == 0xa0 || n == 0x1680 ||
    (0x2000 ≤ n && n ≤ 0x200a) || n == 0x2028 || n == 0x2029 || n == 0x202f || n == 0x205f ||
    n == 0x3000

def strip (p : Char → Bool) (cs : List Char) : List Char :=
  ((cs.dropWhile p).reverse.dropWhile p).reverse

def trim (cs : List Char) : List Char := strip isBlank cs

def blank (s : String) : Bool := s.toList.all isBlank

/-- The pieces between the characters of a class, empty ones included. -/
def splitOn (p : Char → Bool) : List Char → List (List Char)
  | [] => [[]]
  | c :: cs =>
    if p c then [] :: splitOn p cs
    else match splitOn p cs with
      | [] => [[c]]
      | piece :: pieces => (c :: piece) :: pieces

def words (cs : List Char) : List (List Char) := (splitOn isBlank cs).filter fun w => !w.isEmpty

end Launchpad.Text
