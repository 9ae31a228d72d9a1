import Launchpad.Text.Digits

/-!
# Names in Punycode

A name with characters beyond ASCII is also written in ASCII alone: first its ASCII characters, then
behind a hyphen where each of the others belongs. `decode?` reads that form. Each of the others is
one number, the distance from the character and the place of the one before it, in digits of base
thirty-six whose weights grow with a bias that follows the numbers read.
-/

namespace Launchpad.Address.Punycode

/-- What a digit is worth: the letters come before the decimal digits. -/
def digit? (c : Char) : Option Nat :=
  if 'a' ≤ c && c ≤ 'z' then some (c.toNat - 'a'.toNat)
  else if c.isDigit then some (c.toNat - '0'.toNat + 26)
  else none

/-- The digits from here on end a number if they are less than this. -/
def threshold (place bias : Nat) : Nat :=
  if place ≤ bias then 1 else if bias + 26 ≤ place then 26 else place - bias

/-- Divides a distance until it is small, and counts the places. -/
def scale (distance places : Nat) : Nat :=
  if 455 < distance then scale (distance / 35) (places + 36)
  else places + 36 * distance / (distance + 38)
termination_by distance
decreasing_by exact Nat.div_lt_self (by omega) (by omega)

/-- The bias after a number, when the name has so many characters. -/
def adapt (distance length : Nat) (first : Bool) : Nat :=
  let damped := if first then distance / 700 else distance / 2
  scale (damped + damped / length) 0

/-- Reads a number. A weight beyond 32 bits is refused. -/
def number? (bias weight place : Nat) : List Char → Option (Nat × List Char)
  | [] => none
  | c :: cs =>
    match digit? c with
    | none => none
    | some d =>
      let least := threshold place bias
      let weight' := weight * (36 - least)
      if d < least then some (d * weight, cs)
      else if weight' < UInt32.size then
        (number? bias weight' (place + 36) cs).map fun r => (d * weight + r.1, r.2)
      else none

theorem length_lt_of_number? {bias weight place : Nat} {cs : List Char} {r : Nat × List Char}
    (h : number? bias weight place cs = some r) : r.2.length < cs.length := by
  induction cs generalizing weight place r with
  | nil => simp [number?] at h
  | cons c cs ih =>
    simp only [number?] at h
    split at h
    · cases h
    · split at h
      · simp only [Option.some.injEq] at h
        simp [← h]
      · split at h
        · obtain ⟨s, hs, rfl⟩ := Option.map_eq_some_iff.1 h
          have := ih hs
          simp only [List.length_cons]
          omega
        · cases h

/-- Puts the characters that the numbers tell of into a name. The next one is looked for from a
character and a place on. -/
def insertAll? (name : List Char) (char place bias : Nat) (first : Bool) (cs : List Char) :
    Option (List Char) :=
  if cs.isEmpty then some name
  else match h : number? bias 1 36 cs with
    | none => none
    | some (distance, rest) =>
      let length := name.length + 1
      let char := char + (place + distance) / length
      let place := (place + distance) % length
      if char.isValidChar then
        insertAll? (name.insertIdx place (Char.ofNat char)) char (place + 1)
          (adapt distance length first) false rest
      else none
termination_by cs.length
decreasing_by exact length_lt_of_number? h

/-- The name that a text writes. The last hyphen ends the ASCII characters, unless it is the first
character of the text. -/
def decode? (cs : List Char) : Option (List Char) :=
  let tail := (cs.reverse.takeWhile (· != '-')).reverse
  let ascii := cs.take (cs.length - tail.length - 1)
  if ascii.isEmpty then insertAll? [] 128 0 72 true cs
  else if ascii.all fun c => c.toNat < 0x80 then insertAll? ascii 128 0 72 true tail
  else none

end Launchpad.Address.Punycode
