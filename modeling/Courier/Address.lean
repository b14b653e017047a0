import Courier.Hex
import Courier.Keccak

/-!
# Addresses

An address is twenty bytes. It is spelled as forty hexadecimal digits of either case, with or
without a leading `0x` or `0X`, and has one checksum spelling: a letter is a capital exactly
where the digit at its place in the Keccak-256 digest of the small digits is eight or more.
-/
namespace Courier

/-- Twenty bytes that name an account or a contract. -/
structure Address where
  /-- The bytes, the highest first. -/
  bytes : List UInt8
  /-- There are twenty of them. -/
  length_bytes : bytes.length = 20

namespace Address

/-- The digits of a spelling: the spelling without one leading `0x` or `0X`. -/
def digits (spelling : String) : List Char :=
  match spelling.toList with
  | '0' :: 'x' :: rest => rest
  | '0' :: 'X' :: rest => rest
  | all => all

/-- The address that a text spells, if it spells one. -/
def parse? (spelling : String) : Option Address := do
  let bytes ← Hex.decode? (digits spelling)
  if length : bytes.length = 20 then some ⟨bytes, length⟩ else none

/-- The address that a text spells, or the refusal that names the whole text. -/
def parse (spelling : String) : Except EncodingError Address :=
  match parse? spelling with
  | some address => .ok address
  | none => .error (.invalidAddress spelling)

/-- The small digit of a half byte, a capital where the digest asks for one. -/
def casedDigit (half digestHalf : Nat) : Char :=
  if 8 ≤ digestHalf then (Hex.digit half).toUpper else Hex.digit half

/-- The digits of the checksum spelling. -/
def checksumDigits (address : Address) : List Char :=
  let halves := Hex.halves address.bytes
  let ascii := (Hex.encode address.bytes).map Char.toUInt8
  List.zipWith casedDigit halves (Hex.halves (Keccak.digest ascii).toList)

/-- The checksum spelling, with the prefix `0x`. -/
def checksum (address : Address) : String :=
  String.ofList ('0' :: 'x' :: address.checksumDigits)

/-- The checksum spelling has forty digits. -/
theorem length_checksumDigits (address : Address) : address.checksumDigits.length = 40 := by
  simp [checksumDigits, address.length_bytes]

end Address

end Courier
