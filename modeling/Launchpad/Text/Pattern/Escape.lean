import Launchpad.Text.Blank
import Launchpad.Text.Digits
import Launchpad.Text.Pattern.Basic

/-!
# Escapes in patterns

What a backslash and the characters behind it write. In verbose mode there may be white space and
comments between the digits of an escape, as there may be between the parts of a pattern.
-/

namespace Launchpad.Text.Pattern

/-! ## Verbose mode -/

/-- Passes over white space, and over comments from a number sign to the end of a line. -/
def skipBlanks (inComment : Bool) : List Char → List Char
  | [] => []
  | c :: cs =>
    if inComment then skipBlanks (c != '\n') cs
    else if isBlank c then skipBlanks false cs
    else if c == '#' then skipBlanks true cs
    else c :: cs

def Mode.skip (mode : Mode) (cs : List Char) : List Char :=
  if mode.verbose then skipBlanks false cs else cs

/-! ## Escapes -/

def charOf? (n : Nat) : Option Char := if n.isValidChar then some (Char.ofNat n) else none

def hexDigits? (mode : Mode) : Nat → List Char → Option (List Char × List Char)
  | 0, cs => some ([], mode.skip cs)
  | count + 1, cs =>
    match mode.skip cs with
    | [] => none
    | c :: cs =>
      if (digit? 16 c).isSome then (hexDigits? mode count cs).map fun r => (c :: r.1, r.2)
      else none

/-- Reads a character that is written by so many digits of base sixteen. -/
def hexChar? (mode : Mode) (count : Nat) (cs : List Char) : Option (Char × List Char) := do
  let (digits, rest) ← hexDigits? mode count cs
  return (← (numeral? 16 digits).bind charOf?, rest)

/-- The control characters that have a letter. -/
def controls : List (Char × Char) := [
  ('a', '\x07'), ('t', '\t'), ('n', '\n'), ('v', '\x0b'), ('f', '\x0c'), ('r', '\r')]

/-- What a backslash before one character writes. Every ASCII character that is neither a letter
nor a digit stands for itself, but for those that mark an end of a word. -/
def escaped? (c : Char) : Option Atom :=
  if c == 'd' || c == 's' || c == 'w' then some (.shorthand false)
  else if c == 'D' || c == 'S' || c == 'W' then some (.shorthand true)
  else if c == 'A' || c == 'z' then some .edge
  else if c == 'b' || c == 'B' || c == '<' || c == '>' then some .wordEdge
  else if c.toNat < 0x80 && !c.isAlphanum then some (.literal { char := c })
  else (controls.lookup c).map fun d => .literal { char := d }

def escape? (mode : Mode) : List Char → Option (Atom × List Char)
  | 'x' :: cs => (hexChar? mode 2 cs).map fun r => (.literal { char := r.1, isByte := true }, r.2)
  | 'u' :: cs => (hexChar? mode 4 cs).map fun r => (.literal { char := r.1 }, r.2)
  | 'U' :: cs => (hexChar? mode 8 cs).map fun r => (.literal { char := r.1 }, r.2)
  | c :: cs => (escaped? c).map fun a => (a, cs)
  | [] => none

end Launchpad.Text.Pattern
