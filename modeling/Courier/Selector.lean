import Courier.Hex
import Courier.Keccak
import Courier.Text.Utf8

/-!
# Function selectors

A contract finds the function that a call means by four bytes: the first ones of the
Keccak-256 digest of the signature, in which blank characters count for nothing. Blank are the 25
characters with the Unicode property `White_Space`, which a reader sees as empty room; core's
`Char.isWhitespace` knows only the ASCII ones.
-/
namespace Courier

namespace Text

/-- The first and last code point of each run of blank characters, in ascending order. -/
def blankRanges : List (Nat × Nat) :=
  [(0x0009, 0x000D), (0x0020, 0x0020), (0x0085, 0x0085), (0x00A0, 0x00A0), (0x1680, 0x1680),
   (0x2000, 0x200A), (0x2028, 0x2029), (0x202F, 0x202F), (0x205F, 0x205F), (0x3000, 0x3000)]

/-- Whether a character has the property `White_Space`. -/
def isBlank (c : Char) : Bool :=
  blankRanges.any fun range => range.1 ≤ c.toNat && c.toNat ≤ range.2

/-- The characters of a text that are not blank, in order. -/
def dropBlanks (text : String) : String :=
  String.ofList (text.toList.filter fun c => !isBlank c)

end Text

/-- The four bytes that name a function. -/
abbrev Selector := Vector UInt8 4

namespace Selector

/-- The selector of a signature such as `transfer(address,uint256)`. -/
def ofSignature (signature : String) : Selector :=
  let digest := Keccak.digest (Text.Utf8.encode (Text.dropBlanks signature))
  #v[digest[0], digest[1], digest[2], digest[3]]

/-- A selector as eight small digits. -/
def hex (selector : Selector) : String := String.ofList (Hex.encode selector.toList)

/-- Eight digits, whatever the bytes. -/
theorem length_hex (selector : Selector) : selector.hex.length = 8 := by
  simp [hex, String.length_ofList]

end Selector

end Courier
