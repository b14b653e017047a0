import Courier.Text.Utf8

/-!
# Text behind a byte order mark

The text of bytes that say themselves how they are encoded. A byte order mark at their front stands
for UTF-8 or for UTF-16 of either byte order, and is no part of the text; bytes without one are
UTF-8. Damage shows as U+FFFD.

In UTF-16 two bytes make a unit. A unit is a character, or one half of a pair that is one; the
reader keeps the first half of a pair until it has met the next unit. A half without its partner is
damage, and so is what is left over at the end. The units of a text are read back as that text
(`Utf16.scanFrom_flatMap_unitsOf`).
-/
namespace Courier.Text

namespace Utf16

/-- Whether a unit is the first half of a pair. -/
def isLead (unit : Nat) : Bool := 0xD800 ≤ unit && unit < 0xDC00

/-- Whether a unit is the second half of a pair. -/
def isTrail (unit : Nat) : Bool := 0xDC00 ≤ unit && unit < 0xE000

/-- The character of a pair. -/
def pair (lead trail : Nat) : Char :=
  Char.ofNat (0x10000 + (lead - 0xD800) * 0x400 + (trail - 0xDC00))

/-- The units of bytes, and whether a byte is left over. The high byte of a unit comes first if
`big` says so, and else the low one. -/
def units (big : Bool) : List UInt8 → List Nat × Bool
  | [] => ([], false)
  | [_] => ([], true)
  | one :: other :: rest =>
    let (later, odd) := units big rest
    let (high, low) := if big then (one, other) else (other, one)
    ((high.toNat * 0x100 + low.toNat) :: later, odd)

/-- What a unit yields that follows no first half, and the first half that it may be itself. -/
def first (unit : Nat) : List (Option Char) × Option Nat :=
  if isLead unit then ([], some unit)
  else if isTrail unit then ([none], none)
  else ([some (Char.ofNat unit)], none)

/-- What a unit yields after a first half or none, and the first half that is kept. A unit that is
no second half damages the pair under way and is read again by itself. -/
def step : Option Nat → Nat → List (Option Char) × Option Nat
  | none, unit => first unit
  | some lead, unit =>
    if isTrail unit then ([some (pair lead unit)], none)
    else
      let (found, next) := first unit
      (none :: found, next)

/-- The characters and damaged parts of units, read after a first half or none. A first half and a
byte that are left over together are one damaged part. -/
def scanFrom (odd : Bool) : Option Nat → List Nat → List (Option Char)
  | kept, [] => if kept.isSome || odd then [none] else []
  | kept, unit :: rest =>
    let (found, next) := step kept unit
    found ++ scanFrom odd next rest

/-- The units of a character. -/
def unitsOf (c : Char) : List Nat :=
  if c.toNat < 0x10000 then [c.toNat]
  else [0xD800 + (c.toNat - 0x10000) / 0x400, 0xDC00 + (c.toNat - 0x10000) % 0x400]

/-- A unit that is no half of a pair is a character. -/
theorem scanFrom_single {unit : Nat} (low : unit < 0xD800 ∨ 0xDFFF < unit) (odd : Bool)
    (rest : List Nat) :
    scanFrom odd none (unit :: rest) = some (Char.ofNat unit) :: scanFrom odd none rest := by
  have lead : isLead unit = false := by
    simp only [isLead, Bool.and_eq_false_iff, decide_eq_false_iff_not]
    omega
  have trail : isTrail unit = false := by
    simp only [isTrail, Bool.and_eq_false_iff, decide_eq_false_iff_not]
    omega
  simp only [scanFrom, step, first, lead, trail, Bool.false_eq_true, ↓reduceIte, List.cons_append,
    List.nil_append]

/-- Two halves of a pair are its character. -/
theorem scanFrom_pair {lead trail : Nat} (leads : isLead lead = true)
    (trails : isTrail trail = true) (odd : Bool) (rest : List Nat) :
    scanFrom odd none (lead :: trail :: rest) =
      some (pair lead trail) :: scanFrom odd none rest := by
  simp only [scanFrom, step, first, leads, trails, ↓reduceIte, List.cons_append, List.nil_append]

/-- The units of a character are read as that character. -/
theorem scanFrom_unitsOf (odd : Bool) (c : Char) (rest : List Nat) :
    scanFrom odd none (unitsOf c ++ rest) = some c :: scanFrom odd none rest := by
  have bound : c.toNat < 0xD800 ∨ 0xDFFF < c.toNat ∧ c.toNat < 0x110000 := c.valid
  have whole : Char.ofNat c.toNat = c := Char.ofNat_toNat c
  unfold unitsOf
  generalize c.toNat = v at bound whole
  split
  · rw [List.singleton_append, scanFrom_single (by omega), whole]
  · have leads : isLead (0xD800 + (v - 0x10000) / 0x400) = true := by
      simp only [isLead, Bool.and_eq_true, decide_eq_true_eq]
      omega
    have trails : isTrail (0xDC00 + (v - 0x10000) % 0x400) = true := by
      simp only [isTrail, Bool.and_eq_true, decide_eq_true_eq]
      omega
    have sum : 0x10000 + (0xD800 + (v - 0x10000) / 0x400 - 0xD800) * 0x400 +
        (0xDC00 + (v - 0x10000) % 0x400 - 0xDC00) = v := by omega
    rw [List.cons_append, List.singleton_append, scanFrom_pair leads trails, pair, sum, whole]

/-- The units of a text are read as its characters, and a byte that is left over behind them as
damage. -/
theorem scanFrom_flatMap_unitsOf (odd : Bool) (characters : List Char) :
    scanFrom odd none (characters.flatMap unitsOf) =
      characters.map some ++ if odd then [none] else [] := by
  induction characters with
  | nil => cases odd <;> rfl
  | cons c characters ih =>
    rw [List.flatMap_cons, scanFrom_unitsOf, ih]
    rfl

/-- The characters of bytes in UTF-16, each damaged part being `none`. -/
def scan (big : Bool) (bytes : List UInt8) : List (Option Char) :=
  let (units, odd) := units big bytes
  scanFrom odd none units

end Utf16

/-- The text of characters, in which damaged parts show as U+FFFD. -/
def mend (characters : List (Option Char)) : String :=
  String.ofList (characters.map fun c => c.getD '\uFFFD')

/-- The text of bytes, which may begin with a byte order mark. -/
def ofBytes : List UInt8 → String
  | 0xEF :: 0xBB :: 0xBF :: rest => mend (Utf8.scan rest)
  | 0xFF :: 0xFE :: rest => mend (Utf16.scan false rest)
  | 0xFE :: 0xFF :: rest => mend (Utf16.scan true rest)
  | bytes => mend (Utf8.scan bytes)

/-- A pair in either byte order, and the first half of one at the end. -/
example :
    ofBytes [0xFF, 0xFE, 0x3D, 0xD8, 0x00, 0xDE] = "😀" ∧
      ofBytes [0xFE, 0xFF, 0xD8, 0x3D, 0xDE, 0x00, 0x00, 0x61, 0xD8] = "😀a\uFFFD" ∧
      ofBytes [0xFE, 0xFF, 0xD8, 0x3D, 0xDE] = "\uFFFD" := ⟨rfl, rfl, rfl⟩

end Courier.Text
