import Courier.Decimal.Binary64
import Courier.Hex
import Courier.Json.Value

/-!
# JSON literals

Numbers and strings as they are spelled, before anything is asked of what they denote. A number
literal may be too large to denote a value, and a string literal may hold half a surrogate pair
or damaged bytes and so denote no text: both still count as well spelled JSON, which is all that
is asked of a part that nobody reads.
-/
namespace Courier.Json

/-- A number as it is spelled. -/
structure NumberLiteral where
  /-- Whether a minus sign stands in front. -/
  negative : Bool
  /-- The digits before the point. -/
  whole : List Char
  /-- The digits after the point, if there is one. -/
  fraction : Option (List Char)
  /-- Whether the exponent is negative, and its digits, if there is one. -/
  exponent : Option (Bool × List Char)
  deriving DecidableEq, Repr

namespace NumberLiteral

/-- The minus sign in front, if there is one, and what follows it. -/
def splitSign : List Char → Bool × List Char
  | '-' :: rest => (true, rest)
  | cs => (false, cs)

/-- The leading digits, of which there must be one, and what follows them. -/
def splitDigits? (cs : List Char) : Option (List Char × List Char) :=
  match cs.takeWhile Char.isDigit with
  | [] => none
  | digits => some (digits, cs.dropWhile Char.isDigit)

/-- The fraction, if there is one, and what follows it. -/
def splitFraction? : List Char → Option (Option (List Char) × List Char)
  | '.' :: rest => (splitDigits? rest).map fun (digits, rest) => (some digits, rest)
  | cs => some (none, cs)

/-- The exponent that ends a number, if there is one. -/
def exponent? : List Char → Option (Option (Bool × List Char))
  | [] => some none
  | mark :: rest =>
    if mark = 'e' ∨ mark = 'E' then
      let (negative, rest) := match rest with
        | '-' :: rest => (true, rest)
        | '+' :: rest => (false, rest)
        | rest => (false, rest)
      match splitDigits? rest with
      | some (digits, []) => some (some (negative, digits))
      | _ => none
    else none

/-- The number that characters spell: no zero in front of another digit, a digit on both sides
of a point and after an exponent mark, and nothing besides. -/
def ofChars? (cs : List Char) : Option NumberLiteral := do
  let (negative, cs) := splitSign cs
  let (whole, cs) ← splitDigits? cs
  if whole.head? = some '0' ∧ 1 < whole.length then none
  else
    let (fraction, cs) ← splitFraction? cs
    let exponent ← exponent? cs
    some { negative, whole, fraction, exponent }

/-- Digits taken into a significand while it fits a word of 64 bits, and the digits left. -/
def fill (significand : Nat) : List Char → Nat × List Char
  | [] => (significand, [])
  | c :: rest =>
    let next := 10 * significand + Decimal.digitValue c
    if next < UInt64.size then fill next rest else (significand, c :: rest)

/-- The significand and the power of ten that a literal is read with. Digits that do not fit
only count for the power if they stand before the point. -/
def scaled (l : NumberLiteral) : Nat × Int :=
  let (significand, dropped) := fill 0 l.whole
  let fraction := l.fraction.getD []
  let (significand, ignored) := fill significand fraction
  let places : Int := (dropped.length : Int) - (fraction.length - ignored.length : Nat)
  match l.exponent with
  | none => (significand, places)
  | some (true, digits) => (significand, places - Decimal.digitsValue digits)
  | some (false, digits) => (significand, places + Decimal.digitsValue digits)

/-- The bound `2 ^ 63` that no negative whole number goes beyond. -/
def signBound : Nat := UInt64.size / 2

/-- The whole number that a literal without point and exponent denotes, if it lies between
`-2 ^ 63` and `2 ^ 64` and is not a negative zero. -/
def integer? (l : NumberLiteral) : Option Int :=
  if l.fraction.isSome || l.exponent.isSome then none
  else
    let n := Decimal.digitsValue l.whole
    if l.negative then if 0 < n ∧ n ≤ signBound then some (-n) else none
    else if n < UInt64.size then some n else none

/-- The value that a literal denotes, if it is not too large. -/
def value? (l : NumberLiteral) : Option Value :=
  match l.integer? with
  | some n => some (.integer n)
  | none =>
    let (significand, exponent) := l.scaled
    (Decimal.Magnitude.ofDecimal? significand exponent).map fun magnitude =>
      .real ⟨l.negative, magnitude⟩

end NumberLiteral

/-- One part of a string literal. -/
inductive Piece where
  /-- A character, written as itself or by a short escape. -/
  | char (c : Char)
  /-- A unit of 16 bits, written as four hexadecimal digits. -/
  | unit (value : Nat)
  /-- Bytes that spell no character. -/
  | damaged
  deriving DecidableEq, Repr

/-- A string as it is spelled between its quotation marks. -/
abbrev StringLiteral := List Piece

namespace StringLiteral

/-- Whether a unit is the first half of a surrogate pair. -/
def isHigh (value : Nat) : Bool := 0xD800 ≤ value && value < 0xDC00

/-- Whether a unit is the second half of a surrogate pair. -/
def isLow (value : Nat) : Bool := 0xDC00 ≤ value && value < 0xE000

/-- The character that a surrogate pair denotes. -/
def pair (high low : Nat) : Char := Char.ofNat (0x10000 + (high - 0xD800) * 0x400 + (low - 0xDC00))

/-- The characters that a literal denotes; nothing if it holds damage or half a pair. -/
def chars? : StringLiteral → Option (List Char)
  | [] => some []
  | .char c :: rest => (chars? rest).map (c :: ·)
  | .damaged :: _ => none
  | .unit value :: rest =>
    if isHigh value then
      match rest with
      | .unit low :: rest => if isLow low then (chars? rest).map (pair value low :: ·) else none
      | _ => none
    else if isLow value then none
    else (chars? rest).map (Char.ofNat value :: ·)

/-- The text that a literal denotes. -/
def text? (l : StringLiteral) : Option String := (chars? l).map String.ofList

end StringLiteral

end Courier.Json
