import Courier.Proofs.Parameters
import Courier.Proofs.Signatures

/-!
# Calldata put together

Calldata is the mark, the selector of the signature if there is one, and the digits of the
parameters (`Calldata.encode_eq_ok_iff`). All of it behind the mark is whole bytes, so calldata is
itself acceptable as parameters, and it makes no difference whether a selector comes from a
signature or stands in front of the parameters by hand (`Calldata.encode_paths_agree`).
-/
namespace Courier

namespace Hex

/-- The digits that bytes are written with. -/
def smallAlphabet : List Char := "0123456789abcdef".toList

/-- Small digits are digits. -/
theorem mem_alphabet_of_small {c : Char} (small : c ∈ smallAlphabet) : c ∈ alphabet := by
  have first : smallAlphabet <+: alphabet := ⟨"ABCDEF".toList, rfl⟩
  exact first.subset small

/-- Bytes are written with small digits. -/
theorem mem_encode {bytes : List UInt8} {c : Char} (listed : c ∈ encode bytes) :
    c ∈ smallAlphabet := by
  have digit : ∀ half < 16, Hex.digit half ∈ smallAlphabet := by decide
  rw [encode, List.mem_map] at listed
  obtain ⟨half, among, rfl⟩ := listed
  exact digit half (lt_of_mem_halves among)

end Hex

namespace Selector

/-- A selector is written as eight small digits. -/
theorem whole_hex (selector : Selector) :
    selector.hex.length = 8 ∧ ∀ c ∈ selector.hex.toList, c ∈ Hex.smallAlphabet := by
  refine ⟨selector.length_hex, fun c listed => ?_⟩
  rw [hex, String.toList_ofList] at listed
  exact Hex.mem_encode listed

end Selector

namespace Calldata

variable {signature params digits data : String}

/-- Calldata is refused exactly as the parameters are, whatever the signature. -/
theorem encode_eq_error_iff {error : EncodingError} :
    encode signature params = .error error ↔ Params.normalize params = .error error := by
  unfold encode
  cases Params.normalize params with
  | error other => simp [Except.map]
  | ok digits => simp [Except.map]

/-- Calldata is the selector of the signature and the accepted digits behind the mark. -/
theorem encode_eq_ok_iff :
    encode signature params = .ok data ↔
      ∃ digits, Params.normalize params = .ok digits ∧
        data = "0x" ++ (selectorDigits signature ++ digits) := by
  unfold encode
  cases Params.normalize params with
  | error other => simp [Except.map]
  | ok digits => simp [Except.map, String.append_assoc, eq_comm]

/-- What a signature puts first is whole bytes. -/
theorem whole_selectorDigits (signature : String) : Hex.Whole (selectorDigits signature) := by
  by_cases empty : signature = ""
  · rw [empty, selectorDigits_empty]
    exact ⟨rfl, fun c none => absurd none List.not_mem_nil⟩
  · obtain ⟨eight, small⟩ := Selector.whole_hex (Selector.ofSignature signature)
    rw [selectorDigits_of_ne empty]
    constructor
    · rw [eight]
    · exact fun c listed => Hex.mem_alphabet_of_small (small c listed)

/-- Without a signature whole bytes are calldata behind the mark, which may be there already. -/
theorem encode_empty_of_whole (whole : Hex.Whole digits) :
    encode "" digits = .ok ("0x" ++ digits) ∧
      encode "" ("0x" ++ digits) = .ok ("0x" ++ digits) := by
  have marked : Params.normalize ("0x" ++ digits) = .ok digits :=
    (Params.normalize_eq_ok_iff (.marked rfl)).2 ⟨rfl, whole⟩
  have bare := Params.normalize_of_whole whole
  constructor
  · exact encode_eq_ok_iff.2 ⟨digits, bare, by rw [selectorDigits_empty, String.empty_append]⟩
  · exact encode_eq_ok_iff.2 ⟨digits, marked, by rw [selectorDigits_empty, String.empty_append]⟩

/-- Calldata comes to the same whether its selector is found from a signature or stands in front of
the parameters by hand: it is refused exactly as the parameters are; made, it is what the selector
and the accepted digits come to without a signature, it is its own calldata, and digits put after
the parameters stand after it. The selector of a signature is eight small digits that decode to the
four bytes, whatever these are. -/
theorem encode_paths_agree (signature params : String) :
    let hex := (Selector.ofSignature signature).hex
    (∀ error, encode signature params = .error error ↔ Params.normalize params = .error error) ∧
    (∀ data, encode signature params = .ok data →
      (∃ digits, Params.normalize params = .ok digits ∧
        encode "" ((if signature = "" then "" else hex) ++ digits) = .ok data) ∧
      encode "" data = .ok data ∧
      ∀ more, Hex.Whole more → encode signature (params ++ more) = .ok (data ++ more)) ∧
    hex.length = 8 ∧ (∀ c ∈ hex.toList, c ∈ Hex.smallAlphabet) ∧
    Hex.decode? hex.toList = some (Selector.ofSignature signature).toList := by
  intro hex
  refine ⟨fun error => encode_eq_error_iff, ?_, ?_⟩
  · intro data encoded
    obtain ⟨digits, accepted, rfl⟩ := encode_eq_ok_iff.1 encoded
    have behind := Params.behind_digits params
    obtain ⟨same, whole⟩ := (Params.normalize_eq_ok_iff behind).1 accepted
    rw [← same] at whole
    have first : (if signature = "" then "" else hex) = selectorDigits signature := by
      by_cases empty : signature = ""
      · rw [if_pos empty, empty, selectorDigits_empty]
      · rw [if_neg empty, selectorDigits_of_ne empty]
    have both := (whole_selectorDigits signature).append whole
    obtain ⟨bare, marked⟩ := encode_empty_of_whole both
    refine ⟨⟨digits, accepted, ?_⟩, marked, ?_⟩
    · rw [first]
      exact bare
    · intro more wholeMore
      rw [String.append_assoc, String.append_assoc]
      exact encode_eq_ok_iff.2 ⟨_, Params.normalize_append accepted wholeMore, rfl⟩
  · obtain ⟨eight, small⟩ := Selector.whole_hex (Selector.ofSignature signature)
    refine ⟨eight, small, ?_⟩
    show Hex.decode? (Selector.ofSignature signature).hex.toList = _
    rw [Selector.hex, String.toList_ofList, Hex.decode_encode]

/-- Calldata of a signature and marked parameters, fed back and with a byte more. -/
theorem encode_paths_agree_fed_back :
    ∃ data, encode "approve(address, uint256)" "0x2A" = .ok data ∧ encode "" data = .ok data ∧
      Hex.Whole "fF" ∧
      encode "approve(address, uint256)" ("0x2A" ++ "fF") = .ok (data ++ "fF") := by
  have accepted : Params.normalize "0x2A" = .ok "2A" := by decide
  have whole : Hex.Whole "fF" := by decide
  have encoded : encode "approve(address, uint256)" "0x2A" = .ok _ :=
    encode_eq_ok_iff.2 ⟨"2A", accepted, rfl⟩
  obtain ⟨-, again, after⟩ :=
    (encode_paths_agree "approve(address, uint256)" "0x2A").2.1 _ encoded
  exact ⟨_, encoded, again, whole, after "fF" whole⟩

end Calldata

end Courier
