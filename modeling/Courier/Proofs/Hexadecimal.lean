import Courier.Address
import Courier.Calldata

/-!
# Bytes in digits

What hexadecimal digits decode to: exactly the even runs of digits decode, one run after another to
the bytes of both, and the case of a digit does not count. So the checksum spelling of an address
and the digits of a selector decode.
-/
namespace Courier

namespace Hex

/-- Two runs of digits decode to the bytes of the first and then those of the second. -/
theorem decode?_append {front back : List Char} {first second : List UInt8}
    (one : decode? front = some first) (other : decode? back = some second) :
    decode? (front ++ back) = some (first ++ second) := by
  fun_induction decode? front generalizing first with
  | case1 =>
    cases one
    exact other
  | case2 => cases one
  | case3 high low rest ih =>
    simp only [Option.bind_eq_bind, Option.bind_eq_some_iff, Option.some.injEq] at one
    obtain ⟨highValue, highRead, lowValue, lowRead, later, read, rfl⟩ := one
    simp only [List.cons_append, decode?, highRead, lowRead, ih read, Option.bind_eq_bind,
      Option.bind_some]

/-- The runs that decode are those of even length that hold digits alone. -/
theorem exists_decode?_iff {digits : List Char} :
    (∃ bytes, decode? digits = some bytes) ↔
      digits.length % 2 = 0 ∧ ∀ c ∈ digits, isDigit c = true := by
  fun_induction decode? digits with
  | case1 => simp
  | case2 c => simp
  | case3 high low rest ih =>
    simp only [Option.bind_eq_bind, Option.bind_eq_some_iff, Option.some.injEq, List.length_cons,
      List.forall_mem_cons, isDigit, Option.isSome_iff_exists]
    constructor
    · rintro ⟨_, highValue, highRead, lowValue, lowRead, later, read, rfl⟩
      obtain ⟨even, others⟩ := ih.1 ⟨later, read⟩
      exact ⟨by omega, ⟨highValue, highRead⟩, ⟨lowValue, lowRead⟩,
        fun c listed => Option.isSome_iff_exists.1 (others c listed)⟩
    · rintro ⟨even, ⟨highValue, highRead⟩, ⟨lowValue, lowRead⟩, others⟩
      obtain ⟨later, read⟩ := ih.2 ⟨by omega, fun c listed =>
        Option.isSome_iff_exists.2 (others c listed)⟩
      exact ⟨_, highValue, highRead, lowValue, lowRead, later, read, rfl⟩

/-- Digits that have the halves of bytes for values decode to those bytes. -/
theorem decode?_of_values {digits : List Char} {bytes : List UInt8}
    (values : digits.map digitValue? = (halves bytes).map some) : decode? digits = some bytes := by
  induction bytes generalizing digits with
  | nil =>
    obtain rfl : digits = [] := List.map_eq_nil_iff.1 values
    rfl
  | cons byte bytes ih =>
    have bound := byte.toNat_lt
    have whole : UInt8.ofNat (byte.toNat / 16 * 16 + byte.toNat % 16) = byte := by
      rw [Nat.div_add_mod']
      exact UInt8.ofNat_toNat
    match digits with
    | [] => exact absurd (congrArg List.length values) (by simp)
    | [_] => exact absurd (congrArg List.length values) (by simp; omega)
    | high :: low :: rest =>
      simp only [List.map_cons, halves, List.flatMap_cons, List.cons_append, List.nil_append,
        List.cons.injEq] at values
      obtain ⟨highRead, lowRead, others⟩ := values
      simp only [decode?, highRead, lowRead, ih others, Option.bind_eq_bind, Option.bind_some,
        whole]

/-- The halves of bytes lie below sixteen. -/
theorem lt_of_mem_halves {bytes : List UInt8} {half : Nat} (listed : half ∈ halves bytes) :
    half < 16 := by
  simp only [halves, List.mem_flatMap, List.mem_cons, List.not_mem_nil, or_false] at listed
  obtain ⟨byte, _, rfl | rfl⟩ := listed
  · have := byte.toNat_lt
    omega
  · omega

/-- A digit takes up one byte in a text. -/
theorem utf8Size_of_isDigit {c : Char} (digit : isDigit c = true) : c.utf8Size = 1 := by
  rw [Char.utf8Size_eq_one_iff, UInt32.le_iff_toNat_le]
  change c.toNat ≤ 127
  unfold isDigit digitValue? at digit
  simp only [Char.le_def, UInt32.le_iff_toNat_le] at digit
  change Option.isSome (if 48 ≤ c.toNat ∧ c.toNat ≤ 57 then _ else
    if 97 ≤ c.toNat ∧ c.toNat ≤ 102 then _ else
      if 65 ≤ c.toNat ∧ c.toNat ≤ 70 then _ else _) = true at digit
  grind

/-- A text of digits takes up as many bytes as there are digits. -/
theorem utf8ByteSize_of_isDigit {digits : List Char}
    (all : ∀ c ∈ digits, isDigit c = true) :
    (String.ofList digits).utf8ByteSize = digits.length := by
  induction digits with
  | nil => rfl
  | cons c digits ih =>
    rw [String.ofList_cons, String.utf8ByteSize_append, String.utf8ByteSize_singleton,
      utf8Size_of_isDigit (all c List.mem_cons_self),
      ih fun other listed => all other (List.mem_cons_of_mem _ listed), List.length_cons,
      Nat.add_comm]

end Hex

namespace Address

/-- A digit keeps its value whatever its case. -/
theorem digitValue?_casedDigit {half : Nat} (small : half < 16) (digestHalf : Nat) :
    Hex.digitValue? (casedDigit half digestHalf) = some half := by
  unfold casedDigit
  split
  · revert half
    decide
  · exact Hex.digitValue?_digit small

/-- The digits of the checksum spelling decode to the bytes. -/
theorem decode?_checksumDigits (address : Address) :
    Hex.decode? address.checksumDigits = some address.bytes := by
  have cased (halves digest : List Nat) (small : ∀ half ∈ halves, half < 16)
      (long : halves.length ≤ digest.length) :
      (List.zipWith casedDigit halves digest).map Hex.digitValue? = halves.map some := by
    induction halves generalizing digest with
    | nil => rfl
    | cons half halves ih =>
      cases digest with
      | nil => exact absurd long (by simp)
      | cons digestHalf digest =>
        rw [List.zipWith_cons_cons, List.map_cons, List.map_cons,
          digitValue?_casedDigit (small half List.mem_cons_self),
          ih digest (fun other listed => small other (List.mem_cons_of_mem _ listed))
            (Nat.le_of_succ_le_succ long)]
  apply Hex.decode?_of_values
  apply cased
  · exact fun half listed => Hex.lt_of_mem_halves listed
  · simp only [Hex.length_halves, address.length_bytes, Vector.length_toList]
    decide

/-- A text is the spelling of the address that its digits decode to. -/
theorem decode?_digits_of_parse {spelling : String} {address : Address}
    (parsed : parse spelling = .ok address) :
    Hex.decode? (digits spelling) = some address.bytes := by
  unfold parse at parsed
  cases found : parse? spelling with
  | none =>
    rw [found] at parsed
    exact nomatch parsed
  | some other =>
    rw [found] at parsed
    obtain rfl := Except.ok.inj parsed
    simp only [parse?, Option.bind_eq_bind, Option.bind_eq_some_iff] at found
    obtain ⟨bytes, read, fits⟩ := found
    split at fits
    · cases fits
      exact read
    · exact nomatch fits

end Address

namespace Calldata

/-- The bytes of the selector that a signature puts first: none for the empty signature, else the
first four of the digest. -/
def selectorBytes (signature : String) : List UInt8 :=
  if signature = "" then []
  else (Keccak.digest (Text.Utf8.encode (Text.dropBlanks signature))).toList.take 4

/-- The selector digits decode to the bytes of the selector. -/
theorem decode?_selectorDigits (signature : String) :
    Hex.decode? (selectorDigits signature).toList = some (selectorBytes signature) := by
  unfold selectorDigits selectorBytes
  by_cases empty : signature = ""
  · subst empty
    rfl
  · have nonempty : signature.isEmpty = false := by
      simpa [Bool.eq_false_iff] using empty
    have four (digest : Vector UInt8 32) :
        (#v[digest[0], digest[1], digest[2], digest[3]] : Selector).toList =
          digest.toList.take 4 := by
      refine List.ext_getElem (by simp) fun place inside _ => ?_
      simp only [Vector.length_toList] at inside
      obtain rfl | rfl | rfl | rfl : place = 0 ∨ place = 1 ∨ place = 2 ∨ place = 3 := by omega
      all_goals simp
    simp only [nonempty, Bool.false_eq_true, ↓reduceIte, empty, Selector.hex, String.toList_ofList,
      Hex.decode_encode, Selector.ofSignature, four]

end Calldata

end Courier
