import Launchpad.Double

/-!
# The text of a double

The fewest digits that read back, with a point among them or behind them where the number is not too
small or too large for that, and with an exponent of ten otherwise.
-/

namespace Launchpad.Double

/-- The digits of a number above zero without zeros at the end, and how many digits stand before the
point; below zero, how many zeros stand behind it. -/
def digitsAndPoint (x : Double) : List Char × Int :=
  let d := x.shortest
  let digits := Nat.toDigits 10 d.digits
  ((digits.reverse.dropWhile (· == '0')).reverse, digits.length + d.power)

/-- Digits with a point behind so many of them; a zero stands where there is no digit. -/
def withPoint (digits : List Char) (point : Nat) : List Char :=
  let fraction := digits.drop point
  digits.take point ++ List.replicate (point - digits.length) '0' ++ ['.'] ++
    (if fraction.isEmpty then ['0'] else fraction)

def mostWhole : Int := 16

def mostZeros : Int := 4

def withExponent (digits : List Char) (exponent : Int) : List Char :=
  digits.take 1 ++ (if digits.length ≤ 1 then [] else '.' :: digits.drop 1) ++
    ['e', if exponent < 0 then '-' else '+'] ++ Nat.toDigits 10 exponent.natAbs

def positiveText (x : Double) : List Char :=
  let (digits, point) := x.digitsAndPoint
  if 0 < point ∧ point ≤ mostWhole then withPoint digits point.toNat
  else if -mostZeros ≤ point ∧ point ≤ 0 then
    '0' :: '.' :: List.replicate (-point).toNat '0' ++ digits
  else withExponent digits (point - 1)

def text (x : Double) : String :=
  let body := if x.isZero then ['0', '.', '0'] else x.positiveText
  String.ofList (if x.negative then '-' :: body else body)

end Launchpad.Double
