/-!
# Binary floating point in 64 bits

A finite value is a sign and a magnitude `significand * 2 ^ exponent`, with a significand of at
most 53 bits and an exponent of at least -1074. All arithmetic is exact arithmetic on natural
numbers followed by one rounding to the nearest magnitude, a tie going to the even significand.

A decimal is read as its reader reads it everywhere in this library: the digits that fit a
word of 64 bits are rounded once, and a power of ten is multiplied in or divided out with one
more rounding. So a decimal with many digits may be read as a neighbour of the nearest value.
-/
namespace Courier.Decimal

/-- The value of a decimal digit. -/
def digitValue (c : Char) : Nat := c.toNat - '0'.toNat

/-- The number that digits spell, the highest first. -/
def digitsValue (digits : List Char) : Nat :=
  digits.foldl (fun value c => 10 * value + digitValue c) 0

/-- A finite magnitude, `significand * 2 ^ exponent`. -/
structure Magnitude where
  /-- At most 53 bits. -/
  significand : Nat
  /-- At least -1074. -/
  exponent : Int
  deriving DecidableEq, Repr

/-- A finite value of 64 bits. Zero has both signs. -/
structure Binary64 where
  /-- Whether the sign is minus. -/
  negative : Bool
  /-- The value without its sign. -/
  magnitude : Magnitude
  deriving DecidableEq, Repr

/-- The whole number nearest to `n / d`, a tie going to the even one. -/
def roundHalfEven (n d : Nat) : Nat :=
  let whole := n / d
  let rest := n % d
  if 2 * rest < d then whole
  else if d < 2 * rest then whole + 1
  else whole + whole % 2

namespace Magnitude

/-- The exponent of the smallest magnitudes. -/
def minExponent : Int := -1074

/-- The largest exponent of a significand with 53 bits. -/
def maxExponent : Int := 971

/-- Nothing. -/
def zero : Magnitude := ⟨0, minExponent⟩

/-- The bound `2 ^ 53` that a significand stays below. -/
def significandBound : Nat := 1 <<< 53

/-- The exponent that leaves `n / d` between `2 ^ 52` and `2 ^ 53`, or the smallest one. -/
def exponentOf (n d : Nat) : Int :=
  let guess : Int := (n.log2 : Int) - d.log2
  let below : Bool := if 0 ≤ guess then n < d <<< guess.toNat else n <<< (-guess).toNat < d
  max (guess - (if below then 53 else 52)) minExponent

/-- The magnitude nearest to `n / d`; nothing if that would be too large. -/
def ofRatio? (n d : Nat) : Option Magnitude :=
  if n = 0 then some zero
  else
    let exponent := exponentOf n d
    let significand :=
      if 0 ≤ exponent then roundHalfEven n (d <<< exponent.toNat)
      else roundHalfEven (n <<< (-exponent).toNat) d
    let rounded : Magnitude :=
      if significand = significandBound then ⟨significandBound / 2, exponent + 1⟩
      else ⟨significand, exponent⟩
    if maxExponent < rounded.exponent then none else some rounded

/-- The fraction that a magnitude is. -/
def ratio (m : Magnitude) : Nat × Nat :=
  if 0 ≤ m.exponent then (m.significand <<< m.exponent.toNat, 1)
  else (m.significand, 1 <<< (-m.exponent).toNat)

/-- The product, rounded; nothing if it is too large. -/
def mul? (a b : Magnitude) : Option Magnitude :=
  ofRatio? (a.ratio.1 * b.ratio.1) (a.ratio.2 * b.ratio.2)

/-- The quotient, rounded; nothing if it is too large. -/
def div? (a b : Magnitude) : Option Magnitude :=
  ofRatio? (a.ratio.1 * b.ratio.2) (a.ratio.2 * b.ratio.1)

/-- The largest power of ten that has a magnitude. -/
def maxPower : Nat := 308

/-- The magnitude nearest to a power of ten. -/
def powerOfTen? (power : Nat) : Option Magnitude := ofRatio? (Nat.pow 10 power) 1

/-- The quotient by a power of ten. -/
def divPower? (m : Magnitude) (power : Nat) : Option Magnitude := do
  m.div? (← powerOfTen? power)

/-- A magnitude divided a number of times by the largest power of ten; zero stays zero. -/
def divLargest? (m : Magnitude) : Nat → Option Magnitude
  | 0 => some m
  | times + 1 =>
    if m.significand = 0 then some m
    else (m.divPower? maxPower).bind fun smaller => smaller.divLargest? times

/-- A magnitude divided by ten as often as `places` says, in steps of 308 places and a last step
of at least one. -/
def shiftDown? (m : Magnitude) (places : Nat) : Option Magnitude := do
  let smaller ← m.divLargest? ((places - 1) / maxPower)
  smaller.divPower? ((places - 1) % maxPower + 1)

/-- The magnitude that `significand * 10 ^ exponent` is read as; nothing if it is too large. -/
def ofDecimal? (significand : Nat) (exponent : Int) : Option Magnitude := do
  let start ← ofRatio? significand 1
  if exponent < 0 then start.shiftDown? (-exponent).toNat
  else if exponent.toNat ≤ maxPower then start.mul? (← powerOfTen? exponent.toNat)
  else if start.significand = 0 then some start
  else none

end Magnitude

end Courier.Decimal
