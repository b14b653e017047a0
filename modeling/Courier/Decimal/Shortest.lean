import Courier.Decimal.Binary64

/-!
# The shortest decimal of a floating point value

A value is written with the fewest digits that lie closer to it than to any other value, and
among those with the nearest ones. The values that round to a magnitude form an interval, whose
ends belong to it exactly if the significand is even. For one digit, two digits and so on, the
two neighbours of the value on that decimal grid are tried; seventeen digits always suffice.

Digits are written positionally from `1e-5` up to below `1e16`, with `.0` after a whole number,
and with an exponent and its sign elsewhere.
-/
namespace Courier.Decimal

/-- The number `digits * 10 ^ exponent`. -/
structure Scaled where
  /-- All digits, as one number. -/
  digits : Nat
  /-- The power of ten of the last digit. -/
  exponent : Int
  deriving DecidableEq, Repr

namespace Scaled

/-- The same number without zeros at the end, of which at most `count` are dropped. -/
def trim (s : Scaled) : Nat → Scaled
  | 0 => s
  | count + 1 =>
    if s.digits ≠ 0 ∧ s.digits % 10 = 0 then trim ⟨s.digits / 10, s.exponent + 1⟩ count else s

end Scaled

/-- The interval of numbers that round to a magnitude, over one denominator. -/
structure Interval where
  /-- Four times the lower end. -/
  low : Nat
  /-- Four times the value. -/
  value : Nat
  /-- Four times the upper end. -/
  high : Nat
  /-- The denominator of all three. -/
  denominator : Nat
  /-- Whether the ends belong to it. -/
  closed : Bool

namespace Interval

/-- The numbers that round to a magnitude. Below a power of two the next magnitude is half as
far away as above it. -/
def ofMagnitude (m : Magnitude) : Interval :=
  let isPower := m.significand = Magnitude.significandBound / 2
  let gap := if isPower ∧ Magnitude.minExponent < m.exponent then 1 else 2
  let scale := if 0 ≤ m.exponent then 1 <<< m.exponent.toNat else 1
  { low := (4 * m.significand - gap) * scale
    value := 4 * m.significand * scale
    high := (4 * m.significand + 2) * scale
    denominator := if 0 ≤ m.exponent then 1 else 1 <<< (-m.exponent).toNat
    closed := m.significand % 2 = 0 }

/-- The value on the grid of `10 ^ exponent`, as a fraction. -/
def onGrid (i : Interval) (exponent : Int) : Nat × Nat :=
  if 0 ≤ exponent then (i.value, 4 * i.denominator * Nat.pow 10 exponent.toNat)
  else (i.value * Nat.pow 10 (-exponent).toNat, 4 * i.denominator)

/-- Whether `digits * 10 ^ exponent` lies in the interval. -/
def contains (i : Interval) (s : Scaled) : Bool :=
  let scaled := 4 * s.digits * i.denominator * Nat.pow 10 s.exponent.toNat
  let unit := Nat.pow 10 (-s.exponent).toNat
  if i.closed then i.low * unit ≤ scaled && scaled ≤ i.high * unit
  else i.low * unit < scaled && scaled < i.high * unit

/-- The power of ten of the first digit of the value. -/
def leading (i : Interval) : Int :=
  let n := i.value
  let d := 4 * i.denominator
  if d ≤ n then ((Nat.toDigits 10 (n / d)).length : Int) - 1
  else -((Nat.toDigits 10 ((d + n - 1) / n - 1)).length : Int)

/-- The last grid point not above the value. -/
def below (i : Interval) (exponent : Int) : Scaled :=
  ⟨(i.onGrid exponent).1 / (i.onGrid exponent).2, exponent⟩

/-- The first grid point above the value. -/
def above (i : Interval) (exponent : Int) : Scaled :=
  ⟨(i.onGrid exponent).1 / (i.onGrid exponent).2 + 1, exponent⟩

/-- The grid point nearest to the value, the even one of two. -/
def nearest (i : Interval) (exponent : Int) : Scaled :=
  let (n, d) := i.onGrid exponent
  ⟨roundHalfEven n d, exponent⟩

/-- The neighbour of the value on the grid of `10 ^ exponent` that lies in the interval, the
nearer one if both do. -/
def neighbour? (i : Interval) (exponent : Int) : Option Scaled :=
  match i.contains (i.below exponent), i.contains (i.above exponent) with
  | true, true => some (i.nearest exponent)
  | true, false => some (i.below exponent)
  | false, true => some (i.above exponent)
  | false, false => none

end Interval

/-- Digits that always suffice. -/
def maxDigits : Nat := 17

/-- The shortest decimal of a magnitude: the first grid that has a neighbour wins. -/
def shortest (m : Magnitude) : Scaled :=
  if m.significand = 0 then ⟨0, 0⟩
  else
    let interval := Interval.ofMagnitude m
    let leading := interval.leading
    let found := (List.range maxDigits).findSome? fun (more : Nat) =>
      interval.neighbour? (leading - more)
    (found.getD (interval.nearest (leading - maxDigits + 1))).trim (maxDigits + 1)

/-- Where positional writing ends. -/
structure Layout where
  /-- The smallest power of ten of a first digit that is written positionally. -/
  least : Int
  /-- The first power of ten of a first digit that is not. -/
  beyond : Int

/-- Numbers are written positionally from `1e-5` up to below `1e16`. -/
def layout : Layout := ⟨-5, 16⟩

/-- A number of zeros. -/
def zeros (count : Int) : List Char := List.replicate count.toNat '0'

/-- The text of a decimal. -/
def Scaled.chars (s : Scaled) : List Char :=
  let digits := Nat.toDigits 10 s.digits
  let leading := s.exponent + digits.length - 1
  if layout.least ≤ leading ∧ leading < layout.beyond then
    if leading < 0 then '0' :: '.' :: zeros (-leading - 1) ++ digits
    else if 0 ≤ s.exponent then digits ++ zeros s.exponent ++ ['.', '0']
    else digits.take (leading.toNat + 1) ++ '.' :: digits.drop (leading.toNat + 1)
  else
    let fraction := if digits.length = 1 then [] else '.' :: digits.drop 1
    let sign := if leading < 0 then '-' else '+'
    digits.take 1 ++ fraction ++ 'e' :: sign :: Nat.toDigits 10 leading.natAbs

/-- The text of a value. -/
def Binary64.chars (x : Binary64) : List Char :=
  let magnitude := (shortest x.magnitude).chars
  if x.negative then '-' :: magnitude else magnitude

end Courier.Decimal
