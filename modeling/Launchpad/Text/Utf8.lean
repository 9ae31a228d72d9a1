/-!
# Reading bytes as text

Bytes that are no UTF-8 become the replacement character, one for each maximal beginning of a
sequence. The reader is a state machine over the bytes: between characters, or inside a sequence
with a range for its next byte.
-/

namespace Launchpad.Text

/-- Stands for bytes that are no character. -/
def replacement : Char := '\ufffd'

/-- A sequence that has begun: its value so far, how many bytes are missing, and the range of the
next one. -/
structure OpenSequence where
  value : Nat
  missing : Nat
  low : Nat := 0x80
  high : Nat := 0xbf
  deriving Repr, DecidableEq

/-- What a byte means between two characters: finished characters, and a sequence that it opens. -/
def firstByte (b : Nat) : List Char × Option OpenSequence :=
  if b < 0x80 then ([Char.ofNat b], none)
  else if 0xc2 ≤ b && b ≤ 0xdf then
    ([], some { value := b - 0xc0, missing := 1 })
  else if 0xe0 ≤ b && b ≤ 0xef then
    ([], some { value := b - 0xe0, missing := 2,
                low := if b = 0xe0 then 0xa0 else 0x80, high := if b = 0xed then 0x9f else 0xbf })
  else if 0xf0 ≤ b && b ≤ 0xf4 then
    ([], some { value := b - 0xf0, missing := 3,
                low := if b = 0xf0 then 0x90 else 0x80, high := if b = 0xf4 then 0x8f else 0xbf })
  else ([replacement], none)

/-- What a byte means inside a sequence. A byte out of range ends the sequence and is read anew. -/
def nextByte (o : OpenSequence) (b : Nat) : List Char × Option OpenSequence :=
  if o.low ≤ b && b ≤ o.high then
    let value := o.value * 64 + (b - 0x80)
    if o.missing ≤ 1 then ([Char.ofNat value], none)
    else ([], some { value := value, missing := o.missing - 1 })
  else
    let (out, rest) := firstByte b
    (replacement :: out, rest)

def decodeFrom (state : Option OpenSequence) : List UInt8 → List Char
  | [] => if state.isSome then [replacement] else []
  | b :: bs =>
    let (out, next) := match state with
      | none => firstByte b.toNat
      | some o => nextByte o b.toNat
    out ++ decodeFrom next bs

def decodeLossy (bytes : List UInt8) : List Char := decodeFrom none bytes

def decode? (bytes : List UInt8) : Option (List Char) :=
  (String.fromUTF8? ⟨bytes.toArray⟩).map String.toList

end Launchpad.Text
