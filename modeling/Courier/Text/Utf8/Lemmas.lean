import Courier.Text.Utf8

/-!
# Encoded text is read back

The bytes of a character take the reader from between characters to between characters and
yield that character (`scanFrom_encodeChar`), so a whole text is read back as its characters,
none of them damaged (`scan_encode`).
-/
namespace Courier.Text.Utf8

/-- A scan reads one byte, and then the rest. -/
theorem scanFrom_cons (state : State) (byte : UInt8) (rest : List UInt8) :
    scanFrom state (byte :: rest) =
      (step state byte).1 ++ scanFrom (step state byte).2 rest := by
  cases state <;> rfl

/-- A byte in the range of the next one continues the character under way. -/
theorem step_inside {more n : Nat} {low high : UInt8} {value : Nat} (small : n < 256)
    (above : low.toNat ≤ n) (below : n ≤ high.toNat) :
    step (.inside more low high value) (UInt8.ofNat n) =
      match more with
      | 0 => ([some (Char.ofNat (value * 64 + (n - 0x80)))], .start)
      | more + 1 => ([], .inside more 0x80 0xBF (value * 64 + (n - 0x80))) := by
  have exact : (UInt8.ofNat n).toNat = n := UInt8.toNat_ofNat_of_lt' small
  have fits : low ≤ UInt8.ofNat n ∧ UInt8.ofNat n ≤ high := by
    rw [UInt8.le_iff_toNat_le, UInt8.le_iff_toNat_le, exact]
    exact ⟨above, below⟩
  cases more <;> simp only [step, fits, and_self, ↓reduceIte, exact]

/-- The bytes of a character are read as that character. -/
theorem scanFrom_encodeChar (c : Char) (rest : List UInt8) :
    scanFrom .start (String.utf8EncodeChar c ++ rest) = some c :: scanFrom .start rest := by
  have bound : c.val.toNat < 0xD800 ∨ 0xDFFF < c.val.toNat ∧ c.val.toNat < 0x110000 := c.valid
  have whole : Char.ofNat c.val.toNat = c := Char.ofNat_toNat c
  have exact (n : Nat) (small : n < 256) : (UInt8.ofNat n).toNat = n :=
    UInt8.toNat_ofNat_of_lt' small
  unfold String.utf8EncodeChar
  generalize c.val.toNat = v at bound whole
  have tail (n : Nat) :
      (0x80 : UInt8).toNat ≤ n % 64 + 128 ∧ n % 64 + 128 ≤ (0xBF : UInt8).toNat := by
    change 128 ≤ _ ∧ _ ≤ 191
    omega
  by_cases one : v ≤ 127
  · have start : step .start (UInt8.ofNat v) = ([some (Char.ofNat v)], .start) := by
      simp only [step, first, exact v (by omega)]
      rw [if_pos (by omega)]
    simp only [one, ↓reduceIte, List.cons_append, List.nil_append, scanFrom_cons, start, whole]
  have last : step (.inside 0 0x80 0xBF (v / 64)) (UInt8.ofNat (v % 64 + 128)) =
      ([some c], .start) := by
    rw [step_inside (by omega) (tail v).1 (tail v).2,
      show v / 64 * 64 + (v % 64 + 128 - 0x80) = v by omega, whole]
  by_cases two : v ≤ 2047
  · have start : step .start (UInt8.ofNat (v / 64 % 32 + 192)) =
        ([], .inside 0 0x80 0xBF (v / 64)) := by
      simp only [step, first, exact (v / 64 % 32 + 192) (by omega)]
      rw [if_neg (by omega), if_neg (by omega), if_pos (by omega),
        show v / 64 % 32 + 192 - 0xC0 = v / 64 by omega]
    simp only [one, two, ↓reduceIte, List.cons_append, List.nil_append, scanFrom_cons, start, last]
  by_cases three : v ≤ 65535
  · have early : ∃ low high : UInt8,
        step .start (UInt8.ofNat (v / 4096 % 16 + 224)) = ([], .inside 1 low high (v / 4096)) ∧
        low.toNat ≤ v / 64 % 64 + 128 ∧ v / 64 % 64 + 128 ≤ high.toNat := by
      simp only [step, first, exact (v / 4096 % 16 + 224) (by omega)]
      rw [if_neg (by omega), if_neg (by omega), if_neg (by omega)]
      by_cases lowest : v / 4096 = 0
      · rw [if_pos (by omega)]
        exact ⟨0xA0, 0xBF, by rw [lowest], by change 160 ≤ _; omega, by change _ ≤ 191; omega⟩
      rw [if_neg (by omega)]
      by_cases last : v / 4096 = 13
      · rw [if_pos (by omega)]
        exact ⟨0x80, 0x9F, by rw [last], by change 128 ≤ _; omega, by change _ ≤ 159; omega⟩
      rw [if_neg (by omega), if_pos (by omega),
        show v / 4096 % 16 + 224 - 0xE0 = v / 4096 by omega]
      exact ⟨0x80, 0xBF, rfl, tail (v / 64)⟩
    obtain ⟨low, high, start, above, below⟩ := early
    have middle : v / 4096 * 64 + (v / 64 % 64 + 128 - 0x80) = v / 64 := by omega
    simp only [one, two, three, ↓reduceIte, List.cons_append, List.nil_append, scanFrom_cons, start,
      step_inside (by omega : v / 64 % 64 + 128 < 256) above below, middle, last]
  · have later : step (.inside 1 0x80 0xBF (v / 4096)) (UInt8.ofNat (v / 64 % 64 + 128)) =
        ([], .inside 0 0x80 0xBF (v / 64)) := by
      rw [step_inside (by omega) (tail (v / 64)).1 (tail (v / 64)).2,
        show v / 4096 * 64 + (v / 64 % 64 + 128 - 0x80) = v / 64 by omega]
    have early : ∃ low high : UInt8,
        step .start (UInt8.ofNat (v / 262144 % 8 + 240)) = ([], .inside 2 low high (v / 262144)) ∧
        low.toNat ≤ v / 4096 % 64 + 128 ∧ v / 4096 % 64 + 128 ≤ high.toNat := by
      simp only [step, first, exact (v / 262144 % 8 + 240) (by omega)]
      rw [if_neg (by omega), if_neg (by omega), if_neg (by omega), if_neg (by omega),
        if_neg (by omega), if_neg (by omega)]
      by_cases lowest : v / 262144 = 0
      · rw [if_pos (by omega)]
        exact ⟨0x90, 0xBF, by rw [lowest], by change 144 ≤ _; omega, by change _ ≤ 191; omega⟩
      rw [if_neg (by omega)]
      by_cases highest : v / 262144 = 4
      · rw [if_neg (by omega), if_pos (by omega)]
        exact ⟨0x80, 0x8F, by rw [highest], by change 128 ≤ _; omega, by change _ ≤ 143; omega⟩
      rw [if_pos (by omega), show v / 262144 % 8 + 240 - 0xF0 = v / 262144 by omega]
      exact ⟨0x80, 0xBF, rfl, tail (v / 4096)⟩
    obtain ⟨low, high, start, above, below⟩ := early
    have middle : v / 262144 * 64 + (v / 4096 % 64 + 128 - 0x80) = v / 4096 := by omega
    simp only [one, two, three, ↓reduceIte, List.cons_append, List.nil_append, scanFrom_cons, start,
      step_inside (by omega : v / 4096 % 64 + 128 < 256) above below, middle, later, last]

/-- An encoded text is read back as its characters. -/
theorem scan_encode (text : String) : scan (encode text) = text.toList.map some := by
  unfold scan encode
  induction text.toList with
  | nil => rfl
  | cons c rest ih => rw [List.flatMap_cons, scanFrom_encodeChar, ih, List.map_cons]

end Courier.Text.Utf8
