import Courier.Transaction

/-!
# Numbers in digits

What the digits of a number spell. The digits of a positive number begin with no zero in any base,
decimal digits spell the number they are the digits of, and so does a quantity, which
`Quantity.decode?` reads as a node does.
-/
namespace Courier

/-- The digit of a positive value below sixteen is no zero. -/
theorem digitChar_ne_zero {value : Nat} (small : value < 16) (positive : value ≠ 0) :
    value.digitChar ≠ '0' := by
  revert value
  decide

/-- The digits of a positive number do not begin with a zero. -/
theorem head?_toDigits_ne {base number : Nat} (large : 1 < base) (small : base ≤ 16)
    (positive : number ≠ 0) : (Nat.toDigits base number).head? ≠ some '0' := by
  induction number using Nat.base_induction base large with
  | single digit below =>
    rw [Nat.toDigits_of_lt_base below]
    simpa using digitChar_ne_zero (Nat.lt_of_lt_of_le below small) positive
  | digit front digit below front_pos ih =>
    obtain ⟨first, others, front_digits⟩ := List.exists_cons_of_ne_nil
      (Nat.toDigits_ne_nil : Nat.toDigits base front ≠ [])
    have leading := ih (Nat.ne_of_gt front_pos)
    rw [← Nat.toDigits_append_toDigits large front_pos below, front_digits]
    rwa [front_digits] at leading

namespace Decimal

/-- Decimal digits spell the number they are the digits of. -/
theorem digitsValue_toDigits (number : Nat) : digitsValue (Nat.toDigits 10 number) = number :=
  Nat.ofDigitChars_ten_toDigits

end Decimal

namespace Quantity

/-- The number that hexadecimal digits spell behind a number already read. -/
def valueFrom? (value : Nat) (digits : List Char) : Option Nat :=
  digits.foldlM (fun value c => (Hex.digitValue? c).map fun digit => 16 * value + digit) value

/-- The number that a spelling denotes: `0x` and hexadecimal digits, of which the first is a zero
only if it is the only one. -/
def decode? (spelling : String) : Option Nat :=
  match spelling.toList with
  | '0' :: 'x' :: digits =>
    if digits = [] ∨ digits.head? = some '0' ∧ digits ≠ ['0'] then none else valueFrom? 0 digits
  | _ => none

/-- The digit of a value below sixteen has that value. -/
theorem digitValue?_digitChar {value : Nat} (small : value < 16) :
    Hex.digitValue? value.digitChar = some value := by
  revert value
  decide

/-- Hexadecimal digits spell the number they are the digits of. -/
theorem valueFrom?_toDigits (number : Nat) :
    valueFrom? 0 (Nat.toDigits 16 number) = some number := by
  have sixteen : 1 < 16 := by decide
  induction number using Nat.base_induction 16 sixteen with
  | single digit below =>
    rw [Nat.toDigits_of_lt_base below]
    simp [valueFrom?, digitValue?_digitChar below]
  | digit front digit below front_pos ih =>
    rw [← Nat.toDigits_append_toDigits sixteen front_pos below, Nat.toDigits_of_lt_base below]
    unfold valueFrom? at ih ⊢
    rw [List.foldlM_append, ih]
    simp [digitValue?_digitChar below]

/-- A number is read back from its spelling. -/
theorem decode?_encode (number : Nat) : decode? (encode number) = some number := by
  have proper : ¬(Nat.toDigits 16 number = [] ∨
      (Nat.toDigits 16 number).head? = some '0' ∧ Nat.toDigits 16 number ≠ ['0']) := by
    rintro (empty | ⟨zero, more⟩)
    · exact Nat.toDigits_ne_nil empty
    · by_cases positive : number = 0
      · exact more (positive ▸ Nat.toDigits_zero 16)
      · exact head?_toDigits_ne (by decide) (by decide) positive zero
  have spelled : (encode number).toList = '0' :: 'x' :: Nat.toDigits 16 number := by
    simp [encode]
  rw [decode?, spelled]
  simp only [proper, ↓reduceIte, valueFrom?_toDigits]

end Quantity

end Courier
