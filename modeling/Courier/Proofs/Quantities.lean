import Mathlib.Data.List.Induction
import Courier.Proofs.Calldata
import Courier.Proofs.Numerals

/-!
# Quantities

The spellings of numbers that a node takes: the mark and small hexadecimal digits, of which the
first is a zero only if it is the only one (`Quantity.Lawful`). Lawful digits are the digits of the
number that they spell (`Quantity.toDigits_of_lawful`), so every number has one spelling, and those
of up to sixteen digits are the spellings of the words of 64 bits (`Quantity.encode_canonical`).
-/
namespace Courier.Quantity

/-- Whether characters are digits that may stand behind the mark. -/
structure Lawful (digits : List Char) : Prop where
  /-- There is at least one. -/
  nonempty : digits ≠ []
  /-- Each is a small hexadecimal digit. -/
  small : ∀ c ∈ digits, c ∈ Hex.smallAlphabet
  /-- The first is a zero only if it is the only one. -/
  leading : digits.head? = some '0' → digits = ['0']

/-- Whether a text spells a number: the mark, and lawful digits that come to the number in base
sixteen. -/
structure Spells (spelling : String) (digits : List Char) (value : Nat) : Prop where
  /-- The mark stands first. -/
  marked : spelling = "0x" ++ String.ofList digits
  /-- The digits follow. -/
  lawful : Lawful digits
  /-- The digits come to the number. -/
  valued : valueFrom? 0 digits = some value

/-- One more digit counts once, and those before it sixteen times as much as without it. -/
theorem valueFrom?_concat (front : List Char) (last : Char) :
    valueFrom? 0 (front ++ [last]) =
      (valueFrom? 0 front).bind fun value =>
        (Hex.digitValue? last).map fun digit => 16 * value + digit := by
  unfold valueFrom?
  rw [List.foldlM_append]
  simp only [List.foldlM_cons, List.foldlM_nil, Option.bind_eq_bind, Option.pure_def,
    Option.bind_fun_some]

/-- A small digit is the one of its value. -/
theorem digit_of_mem_smallAlphabet {c : Char} (small : c ∈ Hex.smallAlphabet) :
    ∃ digit < 16, Hex.digitValue? c = some digit ∧ digit.digitChar = c := by
  have table : ∀ place : Fin Hex.smallAlphabet.length,
      Hex.digitValue? Hex.smallAlphabet[place] = some place.val ∧
        place.val.digitChar = Hex.smallAlphabet[place] := by decide
  obtain ⟨place, below, rfl⟩ := List.mem_iff_getElem.1 small
  exact ⟨place, below, table ⟨place, below⟩⟩

/-- The digit of a value below sixteen is a small one. -/
theorem digitChar_mem_smallAlphabet {value : Nat} (small : value < 16) :
    value.digitChar ∈ Hex.smallAlphabet := by
  revert value
  decide

/-- Small digits come to a number. -/
theorem exists_valueFrom? {digits : List Char} (small : ∀ c ∈ digits, c ∈ Hex.smallAlphabet) :
    ∃ value, valueFrom? 0 digits = some value := by
  induction digits using List.reverseRecOn with
  | nil => exact ⟨0, rfl⟩
  | append_singleton front last ih =>
    obtain ⟨value, read⟩ := ih fun c listed => small c (List.mem_append_left _ listed)
    obtain ⟨digit, -, valued, -⟩ :=
      digit_of_mem_smallAlphabet (small last (List.mem_append_right _ List.mem_cons_self))
    refine ⟨16 * value + digit, ?_⟩
    rw [valueFrom?_concat, read, Option.bind_some, valued, Option.map_some]

/-- Of several lawful digits the first is no zero. -/
theorem Lawful.head?_front_ne {front : List Char} {last : Char} (lawful : Lawful (front ++ [last]))
    (several : front ≠ []) : front.head? ≠ some '0' := by
  intro zero
  have first : (front ++ [last]).head? = some '0' := by
    rw [List.head?_append_of_ne_nil _ several, zero]
  have one := congrArg List.length (lawful.leading first)
  rw [List.length_append, List.length_singleton, List.length_singleton] at one
  exact several (List.length_eq_zero_iff.1 (Nat.succ.inj one))

/-- Lawful digits are lawful without the last one, if any are left. -/
theorem Lawful.front {front : List Char} {last : Char} (lawful : Lawful (front ++ [last]))
    (several : front ≠ []) : Lawful front where
  nonempty := several
  small := fun c listed => lawful.small c (List.mem_append_left _ listed)
  leading := fun zero => absurd zero (lawful.head?_front_ne several)

/-- Lawful digits are the digits of the number that they come to. -/
theorem toDigits_of_lawful {digits : List Char} {value : Nat} (lawful : Lawful digits)
    (valued : valueFrom? 0 digits = some value) : Nat.toDigits 16 value = digits := by
  have sixteen : 1 < 16 := by decide
  -- The last digit is the remainder, so the induction takes the digits off from the end.
  induction digits using List.reverseRecOn generalizing value with
  | nil => exact absurd rfl lawful.nonempty
  | append_singleton front last ih =>
    obtain ⟨digit, below, lastValued, written⟩ := digit_of_mem_smallAlphabet
      (lawful.small last (List.mem_append_right _ List.mem_cons_self))
    rw [valueFrom?_concat, lastValued] at valued
    obtain ⟨before, read, total⟩ := Option.bind_eq_some_iff.1 valued
    obtain rfl : 16 * before + digit = value := Option.some.inj total
    by_cases alone : front = []
    · subst alone
      obtain rfl : 0 = before := Option.some.inj read
      rw [Nat.mul_zero, Nat.zero_add, Nat.toDigits_of_lt_base below, written]
      rfl
    · have same := ih (lawful.front alone) read
      have positive : before ≠ 0 := by
        rintro rfl
        rw [Nat.toDigits_zero] at same
        exact lawful.head?_front_ne alone (same ▸ rfl)
      rw [← Nat.toDigits_append_toDigits sixteen (Nat.pos_of_ne_zero positive) below, same,
        Nat.toDigits_of_lt_base below, written]

/-- The digits of a number are small. -/
theorem mem_smallAlphabet_of_mem_toDigits {value : Nat} :
    ∀ c ∈ Nat.toDigits 16 value, c ∈ Hex.smallAlphabet := by
  have sixteen : 1 < 16 := by decide
  induction value using Nat.base_induction 16 sixteen with
  | single digit below =>
    rw [Nat.toDigits_of_lt_base below]
    intro c listed
    rw [List.mem_singleton.1 listed]
    exact digitChar_mem_smallAlphabet below
  | digit front digit below front_pos ih =>
    rw [← Nat.toDigits_append_toDigits sixteen front_pos below, Nat.toDigits_of_lt_base below]
    intro c listed
    rcases List.mem_append.1 listed with early | last
    · exact ih c early
    · rw [List.mem_singleton.1 last]
      exact digitChar_mem_smallAlphabet below

/-- The digits of a number are lawful. -/
theorem lawful_toDigits (value : Nat) : Lawful (Nat.toDigits 16 value) where
  nonempty := Nat.toDigits_ne_nil
  small := mem_smallAlphabet_of_mem_toDigits
  leading := by
    intro zero
    by_cases positive : value = 0
    · rw [positive, Nat.toDigits_zero]
    · exact absurd zero (head?_toDigits_ne (by decide) (by decide) positive)

/-- A number is spelled by its digits behind the mark. -/
theorem spells_encode (value : Nat) : Spells (encode value) (Nat.toDigits 16 value) value where
  marked := rfl
  lawful := lawful_toDigits value
  valued := valueFrom?_toDigits value

/-- A spelling of a number is the one that is written for it. -/
theorem Spells.eq_encode {spelling : String} {digits : List Char} {value : Nat}
    (spells : Spells spelling digits value) : spelling = encode value := by
  rw [spells.marked, encode, toDigits_of_lawful spells.lawful spells.valued]

/-- Of up to sixteen digits are the numbers that a word of 64 bits holds. -/
theorem length_toDigits_le_iff {value : Nat} :
    (Nat.toDigits 16 value).length ≤ 16 ↔ value < UInt64.size :=
  Nat.length_toDigits_le_iff (by decide) (by decide)

/-- A word of 64 bits is written as the mark and one to sixteen small hexadecimal digits, which come
to it in base sixteen; the first is a zero only if the word is, and zero is written with that digit
alone. No other spelling comes to the word, two words are written differently, and every spelling
with up to sixteen digits is the one that is written for some word. -/
theorem encode_canonical :
    (∀ value : UInt64, ∃ digits, Spells (encode value.toNat) digits value.toNat ∧
      1 ≤ digits.length ∧ digits.length ≤ 16 ∧ (digits.head? = some '0' → value = 0)) ∧
    encode (0 : UInt64).toNat = "0x0" ∧
    (∀ (value : UInt64) (spelling : String) (digits : List Char),
      Spells spelling digits value.toNat → spelling = encode value.toNat) ∧
    (Function.Injective fun value : UInt64 => encode value.toNat) ∧
    ∀ digits, Lawful digits → digits.length ≤ 16 → ∃ value : UInt64,
      valueFrom? 0 digits = some value.toNat ∧
        "0x" ++ String.ofList digits = encode value.toNat := by
  refine ⟨fun value => ?_, rfl, fun value spelling digits spells => spells.eq_encode, ?_, ?_⟩
  · refine ⟨_, spells_encode value.toNat, Nat.length_toDigits_pos,
      length_toDigits_le_iff.2 value.toNat_lt, fun zero => ?_⟩
    by_contra positive
    have nonzero : value.toNat ≠ 0 := fun same => positive (UInt64.toNat_inj.1 same)
    exact head?_toDigits_ne (by decide) (by decide) nonzero zero
  · intro one other same
    have read := congrArg decode? same
    rw [decode?_encode, decode?_encode] at read
    exact UInt64.toNat_inj.1 (Option.some.inj read)
  · intro digits lawful short
    obtain ⟨value, valued⟩ := exists_valueFrom? lawful.small
    have spells : Spells ("0x" ++ String.ofList digits) digits value := ⟨rfl, lawful, valued⟩
    have fits : value < UInt64.size := by
      rw [← length_toDigits_le_iff, toDigits_of_lawful lawful valued]
      exact short
    have word : (UInt64.ofNat value).toNat = value := UInt64.toNat_ofNat_of_lt fits
    refine ⟨UInt64.ofNat value, ?_, ?_⟩
    · rw [word, valued]
    · rw [word, spells.eq_encode]

/-- Digits with zeros inside them, and as many digits as there can be. -/
theorem encode_canonical_inner_zeros :
    (Spells "0x100a" "100a".toList (0x100a : UInt64).toNat ∧
      "0x100a" = encode (0x100a : UInt64).toNat) ∧
    (Lawful "ffffffffffffffff".toList ∧ "ffffffffffffffff".toList.length ≤ 16 ∧
      ∃ value : UInt64, valueFrom? 0 "ffffffffffffffff".toList = some value.toNat ∧
        "0x" ++ String.ofList "ffffffffffffffff".toList = encode value.toNat) := by
  obtain ⟨-, -, only, -, all⟩ := encode_canonical
  have inner : "100a".toList ⊆ Hex.smallAlphabet := by decide
  have full : "ffffffffffffffff".toList ⊆ Hex.smallAlphabet := by decide
  have spells : Spells "0x100a" "100a".toList (0x100a : UInt64).toNat :=
    ⟨by decide, ⟨by decide, fun _ listed => inner listed, by decide⟩, by decide⟩
  have lawful : Lawful "ffffffffffffffff".toList :=
    ⟨by decide, fun _ listed => full listed, by decide⟩
  exact ⟨⟨spells, only _ _ _ spells⟩, ⟨lawful, by decide, all _ lawful (by decide)⟩⟩

end Courier.Quantity
