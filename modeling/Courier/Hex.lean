/-!
# Hexadecimal digits

A byte is written as two digits, the high half first. Writing uses small letters; reading takes
either case. Reading what was written gives the bytes back (`decode_encode`). Of the strings that a
user spells in digits, those that are spelled wrong are refused for one of the reasons that stand
here.
-/
namespace Courier

/-- A string that cannot become part of a transaction. -/
inductive EncodingError where
  /-- The spelling is not that of an address. -/
  | invalidAddress (spelling : String)
  /-- The parameters take up an odd number of bytes, so the last digit has no partner. -/
  | oddLength (bytes : Nat)
  /-- The parameters hold a character that is not a hexadecimal digit. -/
  | notADigit (c : Char)
  deriving DecidableEq, Repr

/-- The wording of a refusal. -/
def EncodingError.message : EncodingError → String
  | .invalidAddress spelling => "Invalid address: " ++ spelling
  | .oddLength bytes =>
    "Invalid hex data: odd number of hex digits (" ++ toString bytes ++ ") in params"
  | .notADigit c =>
    "Invalid hex data: unexpected character '" ++ String.singleton c ++ "' in params"

namespace Hex

/-- The value of an ASCII hexadecimal digit of either case. -/
def digitValue? (c : Char) : Option Nat :=
  if '0' ≤ c ∧ c ≤ '9' then some (c.toNat - '0'.toNat)
  else if 'a' ≤ c ∧ c ≤ 'f' then some (c.toNat - 'a'.toNat + 10)
  else if 'A' ≤ c ∧ c ≤ 'F' then some (c.toNat - 'A'.toNat + 10)
  else none

/-- Whether a character is an ASCII hexadecimal digit. -/
def isDigit (c : Char) : Bool := (digitValue? c).isSome

/-- The small digit of a value below sixteen. -/
def digit (value : Nat) : Char :=
  if value < 10 then Char.ofNat ('0'.toNat + value) else Char.ofNat ('a'.toNat + (value - 10))

/-- Reading a small digit gives its value. -/
theorem digitValue?_digit {value : Nat} (small : value < 16) :
    digitValue? (digit value) = some value := by
  revert small
  revert value
  decide

/-- The high and the low half of each byte, in order. -/
def halves (bytes : List UInt8) : List Nat :=
  bytes.flatMap fun byte => [byte.toNat / 16, byte.toNat % 16]

/-- The small digits of bytes, two for each. -/
def encode (bytes : List UInt8) : List Char := (halves bytes).map digit

/-- The bytes that pairs of digits spell; nothing if a digit is left over or a character is not a
digit. -/
def decode? : List Char → Option (List UInt8)
  | [] => some []
  | [_] => none
  | high :: low :: rest => do
    let high ← digitValue? high
    let low ← digitValue? low
    let bytes ← decode? rest
    some (UInt8.ofNat (high * 16 + low) :: bytes)

/-- Two halves for each byte. -/
@[simp] theorem length_halves (bytes : List UInt8) : (halves bytes).length = 2 * bytes.length := by
  induction bytes with
  | nil => rfl
  | cons byte bytes ih =>
    simp only [halves, List.flatMap_cons, List.length_append, List.length_cons,
      List.length_nil] at ih ⊢
    omega

/-- Two digits for each byte. -/
@[simp] theorem length_encode (bytes : List UInt8) : (encode bytes).length = 2 * bytes.length := by
  simp [encode]

/-- The digits of one byte stand in front of those of the rest. -/
theorem encode_cons (byte : UInt8) (bytes : List UInt8) :
    encode (byte :: bytes) = digit (byte.toNat / 16) :: digit (byte.toNat % 16) :: encode bytes :=
  rfl

/-- Bytes are read back from their digits. -/
@[simp] theorem decode_encode (bytes : List UInt8) : decode? (encode bytes) = some bytes := by
  induction bytes with
  | nil => rfl
  | cons byte bytes ih =>
    have bound := byte.toNat_lt
    have whole : UInt8.ofNat (byte.toNat / 16 * 16 + byte.toNat % 16) = byte := by
      rw [Nat.div_add_mod']
      exact UInt8.ofNat_toNat
    rw [encode_cons, decode?, digitValue?_digit (by omega), digitValue?_digit (by omega), ih]
    simp only [bind, Option.bind, whole]

/-- The bytes read are half as many as the digits. -/
theorem length_of_decode {digits : List Char} {bytes : List UInt8}
    (decoded : decode? digits = some bytes) : digits.length = 2 * bytes.length := by
  fun_induction decode? digits generalizing bytes with
  | case1 =>
    cases decoded
    rfl
  | case2 => cases decoded
  | case3 high low rest ih =>
    simp only [bind, Option.bind_eq_some_iff, Option.some.injEq] at decoded
    obtain ⟨_, _, _, _, found, read, rfl⟩ := decoded
    have := ih read
    simp only [List.length_cons]
    omega

end Hex

end Courier
