/-!
# Binary fractions of double precision

A `Double` is a sign, a whole number of at most 53 bits and a power of two. `nearest?` rounds a
quotient to the nearest one, of two the even one; all other operations are exact operations on
quotients that are rounded in this way.
-/

namespace Launchpad

/-- The number `mantissa * 2 ^ exponent`, or what is as far below zero. -/
structure Double where
  negative : Bool := false
  mantissa : Nat
  exponent : Int
  deriving DecidableEq, Repr, Inhabited

namespace Double

/-- How many bits a mantissa has. -/
def precision : Nat := 53

def leastExponent : Int := -1074

def greatestExponent : Int := 971

/-! ## Rounding -/

/-- A quotient rounded to a whole number: to the nearest one, of two the even one. -/
def roundQuotient (num den : Nat) : Nat :=
  let q := num / den
  let r := num % den
  if den < 2 * r || (2 * r = den && q % 2 = 1) then q + 1 else q

/-- `num / den` in units of `2 ^ exponent`, as a quotient. -/
def inUnits (num den : Nat) (exponent : Int) : Nat × Nat :=
  (num * Nat.pow 2 (-exponent).toNat, den * Nat.pow 2 exponent.toNat)

/-- The exponent for which `num / den` has all the bits of a mantissa. -/
def fullExponent (num den : Nat) : Int :=
  let e : Int := num.log2 - den.log2 - precision
  let (n, d) := inUnits num den e
  if n / d < Nat.pow 2 precision then e else e + 1

/-- The number that is nearest to `num / den * 2 ^ shift`; nothing if that is too large. -/
def nearest? (num den : Nat) (shift : Int) : Option Double :=
  if num = 0 then some { mantissa := 0, exponent := leastExponent }
  else
    let e := max (fullExponent num den) (leastExponent - shift)
    let (n, d) := inUnits num den e
    let m := roundQuotient n d
    let (m, e) := if m = Nat.pow 2 precision then (m / 2, e + 1) else (m, e)
    if e + shift ≤ greatestExponent then some { mantissa := m, exponent := e + shift } else none

def largest : Double := { mantissa := Nat.pow 2 precision - 1, exponent := greatestExponent }

/-- The number nearest to a natural number, the largest one if that is too large. -/
def ofNat (n : Nat) : Double := (nearest? n 1 0).getD largest

def isZero (x : Double) : Bool := x.mantissa == 0

def negate (x : Double) : Double := { x with negative := !x.negative }

/-! ## Powers of ten -/

def greatestPower : Nat := 308

def powerOfTen (k : Nat) : Double := ofNat (Nat.pow 10 k)

def times? (x y : Double) : Option Double :=
  nearest? (x.mantissa * y.mantissa) 1 (x.exponent + y.exponent)

def over? (x y : Double) : Option Double :=
  nearest? x.mantissa y.mantissa (x.exponent - y.exponent)

/-- Divides by a power of ten, in so many steps at most. No step divides by more than the greatest
power. -/
def divideByPower : Nat → Double → Nat → Double
  | 0, x, _ => x
  | steps + 1, x, k =>
    let j := min k greatestPower
    let x := (x.over? (powerOfTen j)).getD x
    if k ≤ greatestPower || x.isZero then x else divideByPower steps x (k - greatestPower)

/-- The number for some digits, read as a whole number, and a power of ten. The digits are rounded
first, and the result of scaling them is rounded again. -/
def ofDecimal? (digits : Nat) (power : Int) : Option Double :=
  let x := ofNat digits
  if power < 0 then some (divideByPower 4 x (-power).toNat)
  else if power.toNat ≤ greatestPower then x.times? (powerOfTen power.toNat)
  else if x.isZero then some x else none

/-! ## The shortest decimals -/

/-- The numbers that round to a given one, as quotients over one denominator: the least, the given
one and the greatest. -/
structure Interval where
  low : Nat
  middle : Nat
  high : Nat
  den : Nat
  /-- Whether the least and the greatest are among them. -/
  closed : Bool

/-- The numbers that round to a number above zero. Below a power of two they lie half as close. -/
def interval (x : Double) : Interval :=
  let m := 4 * x.mantissa
  let below := if x.mantissa = Nat.pow 2 (precision - 1) && leastExponent < x.exponent then 1 else 2
  let up := Nat.pow 2 x.exponent.toNat
  { low := (m - below) * up, middle := m * up, high := (m + 2) * up,
    den := 4 * Nat.pow 2 (-x.exponent).toNat, closed := x.mantissa % 2 == 0 }

def Interval.contains (i : Interval) (num den : Nat) : Bool :=
  let n := num * i.den
  if i.closed then i.low * den ≤ n && n ≤ i.high * den else i.low * den < n && n < i.high * den

/-- Some digits, as a whole number, and the power of ten that they are multiplied with. -/
structure Decimal where
  digits : Nat
  power : Int
  deriving DecidableEq, Repr

/-- The power of ten of the first digit of the middle. -/
def Interval.leadingPower (i : Interval) : Int :=
  if i.den ≤ i.middle then (Nat.toDigits 10 (i.middle / i.den)).length - 1
  else -(((List.range 400).find? fun k => i.den ≤ i.middle * Nat.pow 10 k).getD 0 : Nat)

/-- The decimal with its last digit at a power of ten that is in the interval, the nearer one of
two. -/
def Interval.decimalAt? (i : Interval) (power : Int) : Option Decimal :=
  let up := Nat.pow 10 power.toNat
  let down := Nat.pow 10 (-power).toNat
  let isIn (c : Nat) : Bool := i.contains (c * up) down
  let c := i.middle * down / (i.den * up)
  let nearest := roundQuotient (i.middle * down) (i.den * up)
  let other := if nearest = c then c + 1 else c
  if isIn nearest then some ⟨nearest, power⟩
  else if isIn other then some ⟨other, power⟩
  else none

/-- The decimal with the fewest digits that rounds to a number above zero. -/
def shortest (x : Double) : Decimal :=
  let i := x.interval
  let first := i.leadingPower
  ((List.range 17).findSome? fun n : Nat => i.decimalAt? (first - n)).getD ⟨x.mantissa, 0⟩

end Double

end Launchpad
