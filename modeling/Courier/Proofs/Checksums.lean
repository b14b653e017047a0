import Mathlib.Data.List.Forall2
import Courier.Proofs.Hexadecimal
import Courier.Proofs.Keccak.Sponge

/-!
# Checksum spellings

An address is spelled by forty hexadecimal digits of either case, bare or behind a mark
(`Address.SpelledBy`), and by nothing else. Its checksum spelling depends on its bytes alone: each
letter is a capital exactly where the digit at its place in the digest of the small digits is eight
or more (`Address.checksum_spelling`). So it is one spelling for all the others, and reading it
back, in whatever case and behind whatever mark, gives it again (`Address.checksum_canonical`).
-/
namespace Courier

namespace Hex

/-- What holds of every digit among the ASCII characters holds of every digit. -/
theorem of_digitValue? (holds : Char → Nat → Prop)
    (table : ∀ code < 128, ∀ value, digitValue? (Char.ofNat code) = some value →
      holds (Char.ofNat code) value)
    {c : Char} {value : Nat} (read : digitValue? c = some value) : holds c value := by
  have ascii : c.toNat < 128 := by
    have one := utf8Size_of_isDigit (Option.isSome_iff_exists.2 ⟨value, read⟩)
    rw [Char.utf8Size_eq_one_iff, UInt32.le_iff_toNat_le] at one
    exact Nat.lt_succ_of_le one
  rw [← Char.ofNat_toNat c] at read ⊢
  exact table c.toNat ascii value read

/-- The value of a digit lies below sixteen. -/
theorem lt_of_digitValue? {c : Char} {value : Nat} (read : digitValue? c = some value) :
    value < 16 :=
  of_digitValue? (fun _ value => value < 16) (by decide) read

/-- A digit with a small letter is the digit of its value. -/
theorem digit_of_digitValue? {c : Char} {value : Nat} (read : digitValue? c = some value) :
    digit value = c.toLower :=
  of_digitValue? (fun c value => digit value = c.toLower) (by decide) read

/-- Whether a character is another, up to its case. -/
def Recased (c other : Char) : Prop := other = c ∨ other = c.toLower ∨ other = c.toUpper

/-- A digit keeps its value in either case. -/
theorem digitValue?_of_recased {c other : Char} {value : Nat} (read : digitValue? c = some value)
    (recased : Recased c other) :
    digitValue? other = some value := by
  have both : digitValue? c.toLower = some value ∧ digitValue? c.toUpper = some value :=
    of_digitValue? (fun c value =>
      digitValue? c.toLower = some value ∧ digitValue? c.toUpper = some value) (by decide) read
  rcases recased with rfl | rfl | rfl
  · exact read
  · exact both.1
  · exact both.2

/-- Digits keep their values in either case. -/
theorem map_digitValue?_of_recased {digits recased : List Char}
    (pairs : List.Forall₂ Recased digits recased)
    (isDigit : ∀ c ∈ digits, isDigit c = true) :
    recased.map digitValue? = digits.map digitValue? := by
  induction pairs with
  | nil => rfl
  | cons pair _ ih =>
    obtain ⟨first, others⟩ := List.forall_mem_cons.1 isDigit
    obtain ⟨value, read⟩ := Option.isSome_iff_exists.1 first
    rw [List.map_cons, List.map_cons, read, digitValue?_of_recased read pair, ih others]

/-- The values of digits are the halves of the bytes that they decode to. -/
theorem values_of_decode? {digits : List Char} {bytes : List UInt8}
    (decoded : decode? digits = some bytes) :
    digits.map digitValue? = (halves bytes).map some := by
  fun_induction decode? digits generalizing bytes with
  | case1 =>
    cases decoded
    rfl
  | case2 => cases decoded
  | case3 high low rest ih =>
    simp only [Option.bind_eq_bind, Option.bind_eq_some_iff, Option.some.injEq] at decoded
    obtain ⟨highValue, highRead, lowValue, lowRead, later, read, rfl⟩ := decoded
    have highSmall := lt_of_digitValue? highRead
    have lowSmall := lt_of_digitValue? lowRead
    have whole : (UInt8.ofNat (highValue * 16 + lowValue)).toNat = highValue * 16 + lowValue :=
      UInt8.toNat_ofNat_of_lt' (by rw [UInt8.size]; omega)
    have highHalf : (highValue * 16 + lowValue) / 16 = highValue := by omega
    have lowHalf : (highValue * 16 + lowValue) % 16 = lowValue := by omega
    simp only [List.map_cons, halves, List.flatMap_cons, List.cons_append, List.nil_append,
      highRead, lowRead, whole, highHalf, lowHalf, List.cons.injEq, true_and]
    exact ih read

/-- The digits of the bytes that digits decode to are these, with small letters. -/
theorem encode_of_decode? {digits : List Char} {bytes : List UInt8}
    (decoded : decode? digits = some bytes) : encode bytes = digits.map Char.toLower := by
  have values := values_of_decode? decoded
  rw [encode]
  clear decoded
  generalize halves bytes = halves at values
  induction digits generalizing halves with
  | nil =>
    obtain rfl : halves = [] := List.map_eq_nil_iff.1 values.symm
    rfl
  | cons c digits ih =>
    obtain ⟨half, others, rfl, read, rest⟩ := List.map_eq_cons_iff.1 values.symm
    rw [List.map_cons, List.map_cons, digit_of_digitValue? read.symm, ih others rest.symm]

/-- What stands at a place among the halves of bytes. -/
theorem getElem?_halves (bytes : List UInt8) (place : Nat) :
    (halves bytes)[place]? = bytes[place / 2]?.map fun byte =>
      if place % 2 = 0 then byte.toNat / 16 else byte.toNat % 16 := by
  induction bytes generalizing place with
  | nil => rfl
  | cons byte bytes ih =>
    match place with
    | 0 => rfl
    | 1 => rfl
    | place + 2 =>
      have next : (place + 2) / 2 = place / 2 + 1 := by omega
      have parity : (place + 2) % 2 = place % 2 := by omega
      rw [next, parity, List.getElem?_cons_succ, ← ih place]
      rfl

end Hex

/-- The hexadecimal digit at a place in a digest, as a number: of each byte first the high half and
then the low one. -/
def Keccak.digitAt (digest : Vector UInt8 32) (place : Fin 64) : Nat :=
  let byte := digest.get ⟨place.val / 2, by omega⟩
  if place.val % 2 = 0 then byte.toNat / 16 else byte.toNat % 16

namespace Address

/-- Whether a text is some digits, bare or behind one of the two marks. -/
inductive Marked (digits : List Char) (text : String) : Prop where
  /-- There is no mark. -/
  | bare (spelled : text.toList = digits)
  /-- The mark is `0x`. -/
  | small (spelled : text.toList = '0' :: 'x' :: digits)
  /-- The mark is `0X`. -/
  | capital (spelled : text.toList = '0' :: 'X' :: digits)

/-- Whether a text spells an address with some digits: they are forty hexadecimal ones of either
case, bare or behind a mark. -/
structure SpelledBy (digits : List Char) (text : String) : Prop where
  /-- The text is the digits and perhaps a mark. -/
  marked : Marked digits text
  /-- There are forty. -/
  length : digits.length = 40
  /-- Each is a hexadecimal digit. -/
  isDigit : ∀ c ∈ digits, Hex.isDigit c = true

/-- Whether digits are others in the case that the checksum asks for: the letters are small, but
for those at whose place the digest of the small digits has a digit of eight or more. -/
structure CasedBy (digits cased : List Char) : Prop where
  /-- There are forty. -/
  length : cased.length = 40
  /-- At every place stands the digit, with a capital letter where the digest asks for it. -/
  digit : ∀ place : Fin 40, ∃ c, (digits.map Char.toLower)[place.val]? = some c ∧
    cased[place.val]? = some
      (let digest := Keccak.digest ((digits.map Char.toLower).map Char.toUInt8)
       if c.isAlpha ∧ 8 ≤ Keccak.digitAt digest ⟨place.val, by omega⟩ then c.toUpper else c)

/-- A text is the digits that are left of it without a mark, bare or behind that mark. -/
theorem marked_digits (text : String) : Marked (digits text) text := by
  unfold digits
  split
  · rename_i spelled
    exact .small spelled
  · rename_i spelled
    exact .capital spelled
  · exact .bare rfl

/-- No mark stands before hexadecimal digits by accident: what is left of such a text without a mark
are the digits. -/
theorem digits_of_marked {digits : List Char} {text : String} (marked : Marked digits text)
    (isDigit : ∀ c ∈ digits, Hex.isDigit c = true) : Address.digits text = digits := by
  unfold Address.digits
  cases marked with
  | bare spelled =>
    rw [spelled]
    split
    · exact absurd (isDigit 'x' (by simp)) (by decide)
    · exact absurd (isDigit 'X' (by simp)) (by decide)
    · rfl
  | small spelled =>
    rw [spelled]
    rfl
  | capital spelled =>
    rw [spelled]
    rfl

/-- The texts that spell an address are those of forty hexadecimal digits. -/
theorem parse?_eq_some_iff {text : String} {address : Address} :
    parse? text = some address ↔
      ∃ digits, SpelledBy digits text ∧ Hex.decode? digits = some address.bytes := by
  obtain ⟨bytes, twenty⟩ := address
  simp only [parse?, Option.bind_eq_bind, Option.bind_eq_some_iff]
  constructor
  · rintro ⟨read, decoded, fits⟩
    split at fits
    · obtain rfl := congrArg Address.bytes (Option.some.inj fits)
      have forty := Hex.length_of_decode decoded
      have all := (Hex.exists_decode?_iff.1 ⟨read, decoded⟩).2
      exact ⟨digits text, ⟨marked_digits text, by omega, all⟩, decoded⟩
    · cases fits
  · rintro ⟨digits, spelled, decoded⟩
    rw [digits_of_marked spelled.marked spelled.isDigit]
    exact ⟨bytes, decoded, by rw [dif_pos twenty]⟩

/-- A text that forty hexadecimal digits spell is an address. -/
theorem exists_parse?_of_spelledBy {digits : List Char} {text : String}
    (spelled : SpelledBy digits text) :
    ∃ address, parse? text = some address ∧ Hex.decode? digits = some address.bytes := by
  have forty := spelled.length
  obtain ⟨bytes, decoded⟩ := Hex.exists_decode?_iff.2 ⟨by omega, spelled.isDigit⟩
  have length := Hex.length_of_decode decoded
  exact ⟨⟨bytes, by omega⟩, parse?_eq_some_iff.2 ⟨digits, spelled, decoded⟩, decoded⟩

/-- What stands at a place among the halves of a digest is its digit there. -/
theorem getElem?_halves_digest (digest : Vector UInt8 32) (place : Fin 64) :
    (Hex.halves digest.toList)[place.val]? = some (Keccak.digitAt digest place) := by
  have inside : place.val / 2 < 32 := by omega
  rw [Hex.getElem?_halves, Vector.getElem?_toList, Vector.getElem?_eq_getElem inside]
  rfl

/-- A digit is a capital if it is a letter and the digest asks for it. -/
theorem casedDigit_eq {half : Nat} (small : half < 16) (digestHalf : Nat) :
    casedDigit half digestHalf =
      if (Hex.digit half).isAlpha ∧ 8 ≤ digestHalf then (Hex.digit half).toUpper
      else Hex.digit half := by
  have figure : (Hex.digit half).isAlpha = false → (Hex.digit half).toUpper = Hex.digit half := by
    revert half
    decide
  unfold casedDigit
  by_cases letter : (Hex.digit half).isAlpha = true
  · simp only [letter, true_and]
  · simp only [letter, figure (Bool.eq_false_iff.2 letter), ite_self]

/-- The checksum spelling has the digits of the address in the case that the checksum asks for. -/
theorem casedBy_checksumDigits {digits : List Char} {address : Address}
    (decoded : Hex.decode? digits = some address.bytes) :
    CasedBy digits address.checksumDigits := by
  refine ⟨address.length_checksumDigits, fun place => ?_⟩
  have inside : place.val < (Hex.halves address.bytes).length := by
    rw [Hex.length_halves, address.length_bytes]
    omega
  have half := List.getElem?_eq_getElem inside
  have below := Hex.lt_of_mem_halves (List.getElem_mem inside)
  rw [← Hex.encode_of_decode? decoded]
  refine ⟨Hex.digit (Hex.halves address.bytes)[place.val], ?_, ?_⟩
  · rw [Hex.encode, List.getElem?_map, half]
    rfl
  · have digest := getElem?_halves_digest
      (Keccak.digest ((Hex.encode address.bytes).map Char.toUInt8)) ⟨place.val, by omega⟩
    rw [checksumDigits, List.getElem?_zipWith, half, digest]
    exact congrArg some (casedDigit_eq below _)

/-- The checksum spelling is its digits behind `0x`. -/
theorem checksum_eq (address : Address) :
    address.checksum = "0x" ++ String.ofList address.checksumDigits := by
  have mark : "0x" = String.ofList ['0', 'x'] := rfl
  rw [mark, ← String.ofList_append]
  rfl

/-- Addresses of the same bytes are one. -/
theorem eq_of_bytes {one other : Address} (same : one.bytes = other.bytes) : one = other := by
  cases one
  cases other
  simpa using same

/-- Addresses of one checksum spelling are one. -/
theorem checksum_inj {one other : Address} (same : one.checksum = other.checksum) :
    one = other := by
  have digits : one.checksumDigits = other.checksumDigits := by
    simpa [checksum] using congrArg String.toList same
  have bytes := one.decode?_checksumDigits
  rw [digits, other.decode?_checksumDigits, Option.some.injEq] at bytes
  exact eq_of_bytes bytes.symm

/-- The checksum spelling of the address that a text spells. -/
def respell (spelling : String) : Except EncodingError String := (parse spelling).map checksum

/-- What respelling gives, as the address that was read or the refusal that names the text. -/
theorem respell_eq (spelling : String) :
    respell spelling =
      (parse? spelling).elim (.error (.invalidAddress spelling)) fun address =>
        .ok address.checksum := by
  rw [respell, parse]
  cases parse? spelling <;> rfl

/-- The texts that are respelled are those that spell an address. -/
theorem respell_eq_ok_iff {spelling text : String} :
    respell spelling = .ok text ↔
      ∃ address, parse? spelling = some address ∧ text = address.checksum := by
  rw [respell_eq]
  cases parse? spelling with
  | none => simp
  | some address => simp [eq_comm]

/-- Every text has a checksum spelling or is refused by name: the former are exactly those of forty
hexadecimal digits, in either case, bare or behind `0x` or `0X`. The spelling is `0x` and the
digits, of which the letters are capitals exactly where the digit at their place in the Keccak-256
digest of the small digits is eight or more; and the digest is the Keccak-256 hash of the bits. -/
theorem checksum_spelling (spelling : String) :
    ((∃ text, respell spelling = .ok text) ↔ ∃ digits, SpelledBy digits spelling) ∧
    (∀ digits, SpelledBy digits spelling →
      ∃ cased, respell spelling = .ok ("0x" ++ String.ofList cased) ∧ CasedBy digits cased) ∧
    ((¬∃ digits, SpelledBy digits spelling) →
      respell spelling = .error (.invalidAddress spelling)) ∧
    ∀ message, Keccak.Standard.bitsOf (Keccak.digest message).toList =
      Keccak.Standard.hash (Keccak.Standard.bitsOf message) := by
  have accepted {digits : List Char} (spelled : SpelledBy digits spelling) :
      ∃ cased, respell spelling = .ok ("0x" ++ String.ofList cased) ∧ CasedBy digits cased := by
    obtain ⟨address, read, decoded⟩ := exists_parse?_of_spelledBy spelled
    exact ⟨address.checksumDigits, respell_eq_ok_iff.2 ⟨address, read, address.checksum_eq.symm⟩,
      casedBy_checksumDigits decoded⟩
  refine ⟨⟨?_, ?_⟩, fun digits spelled => accepted spelled, ?_, Keccak.bitsOf_digest⟩
  · rintro ⟨text, written⟩
    obtain ⟨address, read, _⟩ := respell_eq_ok_iff.1 written
    obtain ⟨digits, spelled, _⟩ := parse?_eq_some_iff.1 read
    exact ⟨digits, spelled⟩
  · rintro ⟨digits, spelled⟩
    obtain ⟨cased, written, _⟩ := accepted spelled
    exact ⟨_, written⟩
  · intro other
    rw [respell_eq]
    cases read : parse? spelling with
    | none => rfl
    | some address =>
      obtain ⟨digits, spelled, _⟩ := parse?_eq_some_iff.1 read
      exact absurd ⟨digits, spelled⟩ other

/-- A spelling in mixed case behind `0X`. -/
theorem checksum_spelling_mixed_case :
    ∃ cased, respell "0XfB6916095CA1df60bB79Ce92cE3Ea74c37c5d359" =
        .ok ("0x" ++ String.ofList cased) ∧
      CasedBy "fB6916095CA1df60bB79Ce92cE3Ea74c37c5d359".toList cased :=
  (checksum_spelling _).2.1 _ ⟨.capital rfl, rfl, List.all_eq_true.1 rfl⟩

/-- An address in capitals gives its checksum spelling. -/
example : (respell "0XFB6916095CA1DF60BB79CE92CE3EA74C37C5D359").toOption =
    some "0xfB6916095ca1df60bB79Ce92cE3Ea74c37c5d359" := by
  decide +kernel

/-- Whether a text denotes some bytes: it spells an address with digits whose values are the halves
of the bytes, of each the high one first. -/
def Denotes (text : String) (bytes : List UInt8) : Prop :=
  ∃ digits, SpelledBy digits text ∧ digits.map Hex.digitValue? = (Hex.halves bytes).map some

/-- A text that denotes bytes is read as the address of these. -/
theorem denotes_iff {text : String} {bytes : List UInt8} :
    Denotes text bytes ↔ ∃ address, parse? text = some address ∧ address.bytes = bytes := by
  constructor
  · rintro ⟨digits, spelled, values⟩
    obtain ⟨address, read, decoded⟩ := exists_parse?_of_spelledBy spelled
    rw [Hex.decode?_of_values values, Option.some.injEq] at decoded
    exact ⟨address, read, decoded.symm⟩
  · rintro ⟨address, read, rfl⟩
    obtain ⟨digits, spelled, decoded⟩ := parse?_eq_some_iff.1 read
    exact ⟨digits, spelled, Hex.values_of_decode? decoded⟩

/-- Digits in another case, behind another mark, are read as the same address. -/
theorem parse?_of_recased {digits recased : List Char} {text : String} {address : Address}
    (decoded : Hex.decode? digits = some address.bytes)
    (pairs : List.Forall₂ Hex.Recased digits recased) (marked : Marked recased text) :
    parse? text = some address := by
  have isDigit := (Hex.exists_decode?_iff.1 ⟨_, decoded⟩).2
  -- The values are those of the digits, so the bytes are too.
  have values := Hex.values_of_decode? decoded
  rw [← Hex.map_digitValue?_of_recased pairs isDigit] at values
  have read := Hex.decode?_of_values values
  have forty := Hex.length_of_decode read
  have twenty := address.length_bytes
  exact parse?_eq_some_iff.2
    ⟨recased, ⟨marked, by omega, (Hex.exists_decode?_iff.1 ⟨_, read⟩).2⟩, read⟩

/-- The checksum spelling stands for the bytes, and for all their spellings: texts have the same one
exactly if they denote the same bytes, and it is read back in whatever case its letters are put and
behind whatever mark, or none, and spelled as it was. -/
theorem checksum_canonical {one other first second : String}
    (firstWritten : respell one = .ok first) (secondWritten : respell other = .ok second) :
    (first = second ↔ ∃ bytes, Denotes one bytes ∧ Denotes other bytes) ∧
    respell first = .ok first ∧
    ∃ digits, first.toList = '0' :: 'x' :: digits ∧
      ∀ recased text, List.Forall₂ Hex.Recased digits recased → Marked recased text →
        respell text = .ok first := by
  obtain ⟨address, read, rfl⟩ := respell_eq_ok_iff.1 firstWritten
  obtain ⟨another, readAnother, rfl⟩ := respell_eq_ok_iff.1 secondWritten
  have again {recased : List Char} {text : String}
      (pairs : List.Forall₂ Hex.Recased address.checksumDigits recased)
      (marked : Marked recased text) : respell text = .ok address.checksum :=
    respell_eq_ok_iff.2
      ⟨address, parse?_of_recased address.decode?_checksumDigits pairs marked, rfl⟩
  have unmarked : address.checksum.toList = '0' :: 'x' :: address.checksumDigits :=
    String.toList_ofList
  refine ⟨⟨fun same => ?_, ?_⟩, ?_, address.checksumDigits, unmarked,
    fun recased text pairs marked => again pairs marked⟩
  · obtain rfl := checksum_inj same
    exact ⟨address.bytes, denotes_iff.2 ⟨address, read, rfl⟩,
      denotes_iff.2 ⟨address, readAnother, rfl⟩⟩
  · rintro ⟨bytes, denotes, denotesToo⟩
    obtain ⟨_, readOne, fromOne⟩ := denotes_iff.1 denotes
    obtain ⟨_, readOther, fromOther⟩ := denotes_iff.1 denotesToo
    obtain rfl := Option.some.inj (read.symm.trans readOne)
    obtain rfl := Option.some.inj (readAnother.symm.trans readOther)
    rw [eq_of_bytes (fromOne.trans fromOther.symm)]
  · exact again (List.forall₂_same.2 fun c _ => .inl rfl) (.small unmarked)

/-- One address, in small digits behind `0x` and in capitals behind nothing. -/
theorem checksum_canonical_two_spellings :
    ∃ text, respell "0xfb6916095ca1df60bb79ce92ce3ea74c37c5d359" = .ok text ∧
      respell "FB6916095CA1DF60BB79CE92CE3EA74C37C5D359" = .ok text := by
  have denotes : Denotes "0xfb6916095ca1df60bb79ce92ce3ea74c37c5d359"
      [0xfb, 0x69, 0x16, 0x09, 0x5c, 0xa1, 0xdf, 0x60, 0xbb, 0x79, 0xce, 0x92, 0xce, 0x3e, 0xa7,
        0x4c, 0x37, 0xc5, 0xd3, 0x59] :=
    ⟨"fb6916095ca1df60bb79ce92ce3ea74c37c5d359".toList,
      ⟨.small rfl, rfl, List.all_eq_true.1 rfl⟩, by decide⟩
  have denotesToo : Denotes "FB6916095CA1DF60BB79CE92CE3EA74C37C5D359"
      [0xfb, 0x69, 0x16, 0x09, 0x5c, 0xa1, 0xdf, 0x60, 0xbb, 0x79, 0xce, 0x92, 0xce, 0x3e, 0xa7,
        0x4c, 0x37, 0xc5, 0xd3, 0x59] :=
    ⟨"FB6916095CA1DF60BB79CE92CE3EA74C37C5D359".toList,
      ⟨.bare rfl, rfl, List.all_eq_true.1 rfl⟩, by decide⟩
  obtain ⟨address, read, _⟩ := denotes_iff.1 denotes
  obtain ⟨another, readAnother, _⟩ := denotes_iff.1 denotesToo
  have firstWritten := respell_eq_ok_iff.2 ⟨address, read, rfl⟩
  have secondWritten := respell_eq_ok_iff.2 ⟨another, readAnother, rfl⟩
  have same := (checksum_canonical firstWritten secondWritten).1.2 ⟨_, denotes, denotesToo⟩
  exact ⟨_, firstWritten, same ▸ secondWritten⟩

end Address

end Courier
