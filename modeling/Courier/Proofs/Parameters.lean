import Courier.Calldata
import Courier.Proofs.Checksums

/-!
# Accepted parameters

Parameters are an even number of hexadecimal digits, bare or behind one mark `0x`, and nothing else
is accepted. Of what stands behind the mark the bytes are counted before the characters are looked
at, so an odd number of bytes is the refusal even where a character is wrong; otherwise the refusal
names the first character that is no digit (`Params.normalize_eq_iff`). What is accepted has no mark
any more, and so it is accepted as it stands (`Params.normalize_accepts_exactly`).
-/
namespace Courier

namespace Hex

/-- The characters that are hexadecimal digits. -/
def alphabet : List Char := "0123456789abcdefABCDEF".toList

/-- The digits are the characters of the alphabet. -/
theorem isDigit_iff {c : Char} : isDigit c = true ↔ c ∈ alphabet := by
  constructor
  · intro digit
    obtain ⟨value, read⟩ := Option.isSome_iff_exists.1 digit
    exact of_digitValue? (fun c _ => c ∈ alphabet) (by decide) read
  · have all : alphabet.all isDigit = true := by decide
    exact List.all_eq_true.1 all c

/-- Whether a text is whole bytes in hexadecimal: an even number of digits. -/
structure Whole (text : String) : Prop where
  /-- Every digit has a partner. -/
  even : text.length % 2 = 0
  /-- There are digits only. -/
  digits : ∀ c ∈ text.toList, c ∈ alphabet

/-- Whether a text is whole bytes can be computed. -/
theorem whole_iff {text : String} :
    Whole text ↔ text.length % 2 = 0 ∧ text.toList.all isDigit = true := by
  simp only [List.all_eq_true, isDigit_iff]
  exact ⟨fun whole => ⟨whole.even, whole.digits⟩, fun ⟨even, digits⟩ => ⟨even, digits⟩⟩

instance (text : String) : Decidable (Whole text) := decidable_of_iff _ whole_iff.symm

/-- Whole bytes after whole bytes are whole bytes. -/
theorem Whole.append {front back : String} (one : Whole front) (other : Whole back) :
    Whole (front ++ back) := by
  have first := one.even
  have second := other.even
  constructor
  · rw [String.length_append]
    omega
  · intro c listed
    rw [String.toList_append, List.mem_append] at listed
    rcases listed with early | late
    · exact one.digits c early
    · exact other.digits c late

/-- Whole bytes decode. -/
theorem Whole.exists_decode? {text : String} (whole : Whole text) :
    ∃ bytes, decode? text.toList = some bytes := by
  rw [exists_decode?_iff, String.length_toList]
  exact ⟨whole.even, fun c listed => isDigit_iff.2 (whole.digits c listed)⟩

/-- A text of digits takes up as many bytes as it has characters. -/
theorem utf8ByteSize_of_alphabet {text : String} (digits : ∀ c ∈ text.toList, c ∈ alphabet) :
    text.utf8ByteSize = text.length := by
  have same := utf8ByteSize_of_isDigit fun c listed => isDigit_iff.2 (digits c listed)
  rw [String.ofList_toList] at same
  rw [same, String.length_toList]

/-- In a text of digits there is no first character that is none. -/
theorem find?_eq_none_iff {cs : List Char} :
    (cs.find? fun c => !isDigit c) = none ↔ ∀ c ∈ cs, c ∈ alphabet := by
  simp only [List.find?_eq_none, Bool.not_eq_true, Bool.not_eq_false', isDigit_iff]

/-- In any other text there are digits up to it. -/
theorem find?_eq_some_iff {cs : List Char} {c : Char} :
    (cs.find? fun c => !isDigit c) = some c ↔
      c ∉ alphabet ∧
        ∃ before after, cs = before ++ c :: after ∧ ∀ d ∈ before, d ∈ alphabet := by
  simp only [List.find?_eq_some_iff_append, Bool.not_eq_true', Bool.not_not, isDigit_iff,
    ← Bool.not_eq_true]

end Hex

namespace Params

/-- Whether a text is what stands behind the mark `0x` of parameters, or these themselves if they
have no mark. -/
inductive Behind (params : String) : String → Prop where
  /-- There is a mark. -/
  | marked {rest : String} (spelled : params = "0x" ++ rest) : Behind params rest
  /-- There is none. -/
  | bare (free : ¬"0x".toList <+: params.toList) : Behind params params

/-- What the text behind the mark comes to. -/
inductive Judged (text : String) : Except EncodingError String → Prop where
  /-- Whole bytes are accepted as they stand. -/
  | accepted (whole : Hex.Whole text) : Judged text (.ok text)
  /-- An odd number of bytes in UTF-8 is refused with this number, whatever the characters. -/
  | oddLength (odd : text.utf8ByteSize % 2 = 1) :
    Judged text (.error (.oddLength text.utf8ByteSize))
  /-- In an even number of bytes the first character that is no digit is refused. -/
  | notADigit {before after : List Char} {c : Char} (even : text.utf8ByteSize % 2 = 0)
    (split : text.toList = before ++ c :: after) (digits : ∀ d ∈ before, d ∈ Hex.alphabet)
    (wrong : c ∉ Hex.alphabet) : Judged text (.error (.notADigit c))

variable {params text : String}

/-- What is left of parameters without their mark stands behind it. -/
theorem behind_digits (params : String) : Behind params (String.ofList (digits params)) := by
  have whole := String.ofList_toList (s := params)
  have mark : "0x" = String.ofList ['0', 'x'] := rfl
  unfold digits
  split
  · rename_i rest spelled
    apply Behind.marked
    rw [mark, ← String.ofList_append, ← whole, spelled]
    rfl
  · rename_i free
    rw [whole]
    apply Behind.bare
    rintro ⟨rest, spelled⟩
    exact free rest spelled.symm

/-- What stands behind the mark of parameters is their digits. -/
theorem Behind.eq (behind : Behind params text) : text = String.ofList (digits params) := by
  unfold digits
  cases behind with
  | marked spelled =>
    have marked : params.toList = '0' :: 'x' :: text.toList := by
      rw [spelled, String.toList_append]
      rfl
    rw [marked]
    exact String.ofList_toList.symm
  | bare free =>
    split
    · rename_i rest spelled
      exact absurd ⟨rest, spelled.symm⟩ free
    · rw [String.ofList_toList]

/-- Digits alone have no mark in front of them. -/
theorem behind_of_alphabet (digits : ∀ c ∈ text.toList, c ∈ Hex.alphabet) : Behind text text := by
  apply Behind.bare
  rintro ⟨rest, spelled⟩
  have listed : 'x' ∈ text.toList := by
    rw [← spelled]
    exact List.mem_append_left rest (by decide)
  exact absurd (digits 'x' listed) (by decide)

/-- Of the parameters only what stands behind their mark is looked at. -/
theorem normalize_of_behind (behind : Behind params text) :
    normalize params =
      if text.utf8ByteSize % 2 ≠ 0 then .error (.oddLength text.utf8ByteSize)
      else
        match text.toList.find? fun c => !Hex.isDigit c with
        | some c => .error (.notADigit c)
        | none => .ok text := by
  obtain rfl := behind.eq
  rw [String.toList_ofList]
  rfl

/-- What stands behind the mark is judged in one way, and that is what the parameters come to. -/
theorem normalize_eq_iff (behind : Behind params text) {result : Except EncodingError String} :
    normalize params = result ↔ Judged text result := by
  rw [normalize_of_behind behind]
  constructor
  · rintro rfl
    by_cases odd : text.utf8ByteSize % 2 = 1
    · rw [if_pos (by omega)]
      exact .oddLength odd
    · have even : text.utf8ByteSize % 2 = 0 := by omega
      rw [if_neg (by omega)]
      cases found : text.toList.find? fun c => !Hex.isDigit c with
      | none =>
        have digits := Hex.find?_eq_none_iff.1 found
        rw [Hex.utf8ByteSize_of_alphabet digits] at even
        exact .accepted ⟨even, digits⟩
      | some c =>
        obtain ⟨wrong, before, after, split, digits⟩ := Hex.find?_eq_some_iff.1 found
        exact .notADigit even split digits wrong
  · intro judged
    cases judged with
    | accepted whole =>
      have even := whole.even
      rw [← Hex.utf8ByteSize_of_alphabet whole.digits] at even
      rw [if_neg (by omega), Hex.find?_eq_none_iff.2 whole.digits]
    | oddLength odd => rw [if_pos (by omega)]
    | @notADigit before after c even split digits wrong =>
      rw [if_neg (by omega), Hex.find?_eq_some_iff.2 ⟨wrong, before, after, split, digits⟩]

/-- Whole bytes are accepted as they stand. -/
theorem normalize_of_whole (whole : Hex.Whole text) : normalize text = .ok text :=
  (normalize_eq_iff (behind_of_alphabet whole.digits)).2 (.accepted whole)

/-- Accepted parameters are whole bytes behind their mark. -/
theorem normalize_eq_ok_iff (behind : Behind params text) {result : String} :
    normalize params = .ok result ↔ result = text ∧ Hex.Whole text := by
  rw [normalize_eq_iff behind]
  constructor
  · intro judged
    cases judged with
    | accepted whole => exact ⟨rfl, whole⟩
  · rintro ⟨rfl, whole⟩
    exact .accepted whole

/-- More digits after accepted parameters are taken after the digits of these. -/
theorem normalize_append {more : String} (accepted : normalize params = .ok text)
    (whole : Hex.Whole more) : normalize (params ++ more) = .ok (text ++ more) := by
  obtain ⟨rest, behind⟩ : ∃ rest, Behind params rest := ⟨_, behind_digits params⟩
  obtain ⟨rfl, first⟩ := (normalize_eq_ok_iff behind).1 accepted
  have both := first.append whole
  cases behind with
  | marked spelled =>
    rw [spelled, String.append_assoc]
    exact (normalize_eq_ok_iff (.marked rfl)).2 ⟨rfl, both⟩
  | bare free => exact normalize_of_whole both

/-- The parameters that are accepted are an even number of hexadecimal digits, bare or behind one
mark, and they come to these digits. Of any others the text behind the mark is refused, either for
its length in bytes, if that is odd, or else for its first character that is no digit. What is
accepted is accepted again as it stands, and a mark put before parameters without one changes
nothing. -/
theorem normalize_accepts_exactly (params : String) :
    (∃! text, Behind params text) ∧
    (∀ text, Behind params text →
      ∀ result, normalize params = result ↔ Judged text result) ∧
    (∀ text, normalize params = .ok text → normalize text = .ok text) ∧
    (¬"0x".toList <+: params.toList → normalize ("0x" ++ params) = normalize params) := by
  have behind := behind_digits params
  refine ⟨?_, ?_, ?_, ?_⟩
  · exact ⟨_, behind, fun other also => also.eq⟩
  · exact fun text also result => normalize_eq_iff also
  · intro text accepted
    obtain ⟨rfl, whole⟩ := (normalize_eq_ok_iff behind).1 accepted
    exact normalize_of_whole whole
  · intro free
    rw [normalize_of_behind (.marked rfl), normalize_of_behind (.bare free)]

/-- A mark behind the mark is refused for its letter, and an odd number of bytes goes before a
letter that is no digit: `é` takes up two. -/
theorem normalize_accepts_exactly_two_refusals :
    normalize "0x0x12" = .error (.notADigit 'x') ∧
    normalize "0xé1" = .error (.oddLength 3) ∧
    normalize "0é1" = normalize "0x0é1" := by
  have letter : Judged "0x12" (.error (.notADigit 'x')) :=
    @Judged.notADigit "0x12" ['0'] ['1', '2'] 'x' (by decide) rfl
      (List.forall_mem_singleton.2 (by decide)) (by decide)
  have length : Judged "é1" (.error (.oddLength 3)) := .oddLength (by decide)
  refine ⟨?_, ?_, ?_⟩
  · exact ((normalize_accepts_exactly "0x0x12").2.1 "0x12" (.marked rfl) _).2 letter
  · exact ((normalize_accepts_exactly "0xé1").2.1 "é1" (.marked rfl) _).2 length
  · exact ((normalize_accepts_exactly "0é1").2.2.2 (by decide)).symm

end Params

end Courier
