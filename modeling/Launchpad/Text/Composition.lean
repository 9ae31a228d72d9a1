import Launchpad.Sorting
import Launchpad.Text.CombiningClass
import Launchpad.Text.Composition.Table

/-!
# Composed characters

A letter with marks can be written as several characters or as one. `compose` writes a text with as
few characters as the standard form has (`NFC`): every character is taken apart, marks on one letter
are put in the order of their classes, and what can be one character becomes one.

The text has to be free of characters that the standard form never has.
-/

namespace Launchpad.Text

/-! ## Korean syllables -/

namespace Syllable

/-- The code points of the first sounds, of the vowels, and of the last sounds. The place before
the last sounds stands for none. -/
def leads : Nat × Nat := (0x1100, 19)

@[inherit_doc leads]
def vowels : Nat × Nat := (0x1161, 21)

@[inherit_doc leads]
def tails : Nat × Nat := (0x11a7, 28)

/-- The first of the syllables, and their number. -/
def syllables : Nat × Nat := (0xac00, leads.2 * vowels.2 * tails.2)

/-- The place of a character in a range that is given by its start and its size. -/
def place? (range : Nat × Nat) (c : Char) : Option Nat :=
  if range.1 ≤ c.toNat && c.toNat < range.1 + range.2 then some (c.toNat - range.1) else none

def split? (c : Char) : Option (List Char) :=
  (place? syllables c).map fun n =>
    let sound (range : Nat × Nat) (i : Nat) : Char := Char.ofNat (range.1 + i)
    let tail := n % tails.2
    [sound leads (n / tails.2 / vowels.2), sound vowels (n / tails.2 % vowels.2)] ++
      (if tail = 0 then [] else [sound tails tail])

/-- The syllable of a first sound and a vowel, or of a syllable without a last sound and one. -/
def join? (c d : Char) : Option Char :=
  match place? leads c, place? vowels d, place? syllables c, place? tails d with
  | some l, some v, _, _ => some (Char.ofNat (syllables.1 + (l * vowels.2 + v) * tails.2))
  | _, _, some n, some t =>
    if n % tails.2 = 0 && t != 0 then some (Char.ofNat (syllables.1 + n + t)) else none
  | _, _, _, _ => none

end Syllable

/-! ## Taking apart -/

/-- The characters that one is composed of, when marks have been put on a letter at most so many
times. -/
def partsOf : Nat → Char → List Char
  | 0, c => [c]
  | marks + 1, c =>
    match compositions.find? (·.whole == c) with
    | some p => partsOf marks p.first ++ [p.second]
    | none => [c]

def mostMarks : Nat := 3

def decomposeChar (c : Char) : List Char := (Syllable.split? c).getD (partsOf mostMarks c)

/-! ## Order -/

/-- Whether a character may stand before another: only a mark of a higher class may not. -/
def mayPrecede (c d : Char) : Bool :=
  combiningClass d == 0 || combiningClass c ≤ combiningClass d

/-- A text that is taken apart, with the marks between two letters in the order of their
classes. -/
def decompose (cs : List Char) : List Char := sortBy mayPrecede (cs.flatMap decomposeChar)

/-! ## Putting together -/

def join? (c d : Char) : Option Char :=
  match Syllable.join? c d with
  | some whole => some whole
  | none => (compositions.find? fun p => p.first == c && p.second == d).map (·.whole)

/-- Puts together what follows a letter and the marks that could not be put on it, the last one
first. A mark of the same class as one before it stays where it is. -/
def joinAfter (letter : Char) (marks : List Char) : List Char → List Char
  | [] => letter :: marks.reverse
  | c :: cs =>
    let free := marks.head?.all fun m => combiningClass m < combiningClass c
    match if free then join? letter c else none with
    | some whole => joinAfter whole marks cs
    | none =>
      if combiningClass c = 0 then letter :: marks.reverse ++ joinAfter c [] cs
      else joinAfter letter (c :: marks) cs

def compose (cs : List Char) : List Char :=
  match decompose cs with
  | [] => []
  | c :: cs => joinAfter c [] cs

end Launchpad.Text
