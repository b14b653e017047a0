/-!
# Reading UTF-8 that may be damaged

`scan` reads bytes as UTF-8 and keeps going past damage: each character is `some c`, and each
maximal run of bytes that begins a character but does not finish one, or begins none, is a
single `none`.

The reader is a machine that takes one byte at a time. Inside a character it knows how many
continuation bytes it is owed and the range of the next one, so that an overlong spelling, a
surrogate and a code point above U+10FFFF are damage at the first byte that gives them away.
What a text is encoded as is read back without damage (`scan_encode`, in the lemmas).
-/
namespace Courier.Text.Utf8

/-- Where the reader stands between two bytes. -/
inductive State where
  /-- Between characters. -/
  | start
  /-- Inside a character: `more + 1` bytes are owed, the next one lies between `low` and `high`,
  and the bytes so far spell `value`. -/
  | inside (more : Nat) (low high : UInt8) (value : Nat)
  deriving DecidableEq, Repr

/-- What the first byte of a character yields, and the state after it. -/
def first (byte : UInt8) : List (Option Char) × State :=
  let b := byte.toNat
  if b < 0x80 then ([some (Char.ofNat b)], .start)
  else if b < 0xC2 then ([none], .start)
  else if b < 0xE0 then ([], .inside 0 0x80 0xBF (b - 0xC0))
  else if b = 0xE0 then ([], .inside 1 0xA0 0xBF 0)
  else if b = 0xED then ([], .inside 1 0x80 0x9F 0x0D)
  else if b < 0xF0 then ([], .inside 1 0x80 0xBF (b - 0xE0))
  else if b = 0xF0 then ([], .inside 2 0x90 0xBF 0)
  else if b < 0xF4 then ([], .inside 2 0x80 0xBF (b - 0xF0))
  else if b = 0xF4 then ([], .inside 2 0x80 0x8F 4)
  else ([none], .start)

/-- What one byte yields, and the state after it. A byte that cannot continue the character
under way damages it and is read again as a first byte. -/
def step : State → UInt8 → List (Option Char) × State
  | .start, byte => first byte
  | .inside more low high value, byte =>
    if low ≤ byte ∧ byte ≤ high then
      let value := value * 64 + (byte.toNat - 0x80)
      match more with
      | 0 => ([some (Char.ofNat value)], .start)
      | more + 1 => ([], .inside more 0x80 0xBF value)
    else
      let (found, next) := first byte
      (none :: found, next)

/-- The characters and damaged parts of bytes, read from a state. -/
def scanFrom : State → List UInt8 → List (Option Char)
  | .start, [] => []
  | .inside .., [] => [none]
  | state, byte :: rest =>
    let (found, next) := step state byte
    found ++ scanFrom next rest

/-- The characters of bytes in UTF-8, each damaged part being `none`. -/
def scan (bytes : List UInt8) : List (Option Char) := scanFrom .start bytes

/-- The bytes of a text in UTF-8: those of its characters, in order. -/
def encode (text : String) : List UInt8 := text.toList.flatMap String.utf8EncodeChar

end Courier.Text.Utf8
