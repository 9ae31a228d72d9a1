/-!
# Lengths of time

A duration is a number of nanoseconds and an instant is the duration since the clock started, so
that sums and comparisons are those of natural numbers. `Duration.text` is the text of a duration in
the largest unit that is not above it, with an exact fraction.
-/

namespace Launchpad

/-- A length of time, in nanoseconds. -/
abbrev Duration := Nat

/-- A moment, in nanoseconds since the clock started. -/
abbrev Instant := Nat

namespace Duration

def ofMillis (n : Nat) : Duration := n * 1000000

def ofSecs (n : Nat) : Duration := n * 1000000000

def millis (d : Duration) : Nat := d / 1000000

/-- The decimal digits of `n`, padded with zeros on the left to `width` places. -/
def padded (width n : Nat) : List Char :=
  let digits := (toString n).toList
  List.replicate (width - digits.length) '0' ++ digits

/-- The digits after the point of `part / 10 ^ width`, the zeros at the end left out. -/
def fractionDigits (width part : Nat) : List Char :=
  ((padded width part).reverse.dropWhile (· == '0')).reverse

/-- A number of units, `10 ^ width` nanoseconds each, with its unit. -/
def inUnit (d : Duration) (width : Nat) (unit : String) : String :=
  let fraction := fractionDigits width (d % Nat.pow 10 width)
  let point := if fraction.isEmpty then "" else "." ++ String.ofList fraction
  toString (d / Nat.pow 10 width) ++ point ++ unit

/-- The text of a length of time: seconds from one second on, else milliseconds from one
millisecond on, else microseconds from one microsecond on, else nanoseconds. -/
def text (d : Duration) : String :=
  if 1000000000 ≤ d then inUnit d 9 "s"
  else if 1000000 ≤ d then inUnit d 6 "ms"
  else if 1000 ≤ d then inUnit d 3 "µs"
  else inUnit d 0 "ns"

end Duration

/-- A moment of the calendar, counted from the epoch. -/
structure Timestamp where
  secs : Nat
  nanos : Nat
  deriving DecidableEq, Repr, Inhabited

/-- The calendar moment of an instant, of a clock that starts at the epoch. -/
def Instant.timestamp (t : Instant) : Timestamp := ⟨t / 1000000000, t % 1000000000⟩

end Launchpad
