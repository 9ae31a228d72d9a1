import Launchpad.Text.Digits

/-!
# Escapes

In an address, a percent sign before two digits of base sixteen stands for a byte. `unescape` reads
the escapes, and `escape` writes the characters of a class as the escapes of their bytes.
-/

namespace Launchpad.Address

def unescape : List Char → List UInt8
  | '%' :: a :: b :: cs =>
    match Text.digit? 16 a, Text.digit? 16 b with
    | some x, some y => (16 * x + y).toUInt8 :: unescape cs
    | _, _ => String.utf8EncodeChar '%' ++ unescape (a :: b :: cs)
  | c :: cs => String.utf8EncodeChar c ++ unescape cs
  | [] => []

def escapeByte (b : UInt8) : List Char :=
  ['%', (Nat.digitChar (b.toNat / 16)).toUpper, (Nat.digitChar (b.toNat % 16)).toUpper]

def escape (p : Char → Bool) (cs : List Char) : List Char :=
  cs.flatMap fun c => if p c then (String.utf8EncodeChar c).flatMap escapeByte else [c]

/-- Whether a character is written by escapes everywhere: a control, or one beyond ASCII. -/
def isUnprinted (c : Char) : Bool := c.toNat < 0x20 || 0x7f ≤ c.toNat

/-- The characters that are written by escapes behind the hash sign. -/
def isEscapedInFragment (c : Char) : Bool := isUnprinted c || " \"<>\x60".toList.contains c

def isEscapedInPath (c : Char) : Bool := isEscapedInFragment c || "#?\x7b\x7d".toList.contains c

/-- The characters that are written by escapes behind the question mark. -/
def isEscapedInQuery (c : Char) : Bool := isUnprinted c || " \"#<>'".toList.contains c

end Launchpad.Address
