import Courier.Calldata

/-!
# Blanks in signatures

Two signatures that are alike but for their blanks have one selector, so they make the same calldata
of the same parameters, with one exception: whether there is a selector at all is decided before the
blanks are dropped. A signature of blanks alone is therefore not the empty one; it puts the selector
of the empty text first, where the empty signature puts nothing
(`Calldata.encode_ignores_blanks_iff`).
-/
namespace Courier

/-- Signatures that are alike but for their blanks have one selector. -/
theorem Selector.ofSignature_congr {signature other : String}
    (alike : Text.dropBlanks signature = Text.dropBlanks other) :
    ofSignature signature = ofSignature other :=
  -- The function is written out: to find it by rewriting, the digest would be unfolded.
  congrArg (fun text =>
    let digest := Keccak.digest (Text.Utf8.encode text)
    (#v[digest[0], digest[1], digest[2], digest[3]] : Selector)) alike

namespace Calldata

/-- The empty signature puts nothing first. -/
theorem selectorDigits_empty : selectorDigits "" = "" := rfl

/-- Every other signature puts its selector first. -/
theorem selectorDigits_of_ne {signature : String} (other : signature ≠ "") :
    selectorDigits signature = (Selector.ofSignature signature).hex := by
  rw [selectorDigits, if_neg (by simpa using other)]

/-- Only the empty signature puts nothing first. -/
theorem selectorDigits_eq_empty_iff {signature : String} :
    selectorDigits signature = "" ↔ signature = "" := by
  by_cases empty : signature = ""
  · subst empty
    simp [selectorDigits_empty]
  · rw [selectorDigits_of_ne empty]
    have eight := (Selector.ofSignature signature).length_hex
    constructor
    · intro none
      rw [none] at eight
      exact nomatch eight
    · exact fun none => absurd none empty

/-- Signatures that are alike but for their blanks put the same first exactly if both are empty or
neither is. -/
theorem selectorDigits_eq_iff {signature other : String}
    (alike : Text.dropBlanks signature = Text.dropBlanks other) :
    selectorDigits signature = selectorDigits other ↔ (signature = "" ↔ other = "") := by
  constructor
  · intro same
    rw [← selectorDigits_eq_empty_iff, same, selectorDigits_eq_empty_iff]
  · intro both
    by_cases empty : signature = ""
    · rw [empty, both.1 empty]
    · rw [selectorDigits_of_ne empty, selectorDigits_of_ne (mt both.2 empty),
        Selector.ofSignature_congr alike]

/-- The calldata of two signatures and the same parameters differs exactly where these are accepted
and what the signatures put first differs. -/
theorem encode_eq_iff {signature other params : String} :
    encode signature params = encode other params ↔
      selectorDigits signature = selectorDigits other ∨
        ∃ error, Params.normalize params = .error error := by
  unfold encode
  cases Params.normalize params with
  | error error => simp [Except.map]
  | ok digits => simp [Except.map]

/-- Signatures that are alike but for their blanks make the same calldata of the same parameters,
or the same refusal, exactly if both are empty or neither is, or the parameters are refused. -/
theorem encode_ignores_blanks_iff {signature other : String}
    (alike : Text.dropBlanks signature = Text.dropBlanks other) (params : String) :
    encode signature params = encode other params ↔
      (signature = "" ↔ other = "") ∨ ∃ error, Params.normalize params = .error error := by
  rw [encode_eq_iff, selectorDigits_eq_iff alike]

/-- A signature with blanks in it, of three kinds, and without. -/
theorem encode_ignores_blanks_iff_inner_blanks :
    Text.dropBlanks " set(int,\u00a0bool)\u3000" = Text.dropBlanks "set(int,bool)" ∧
      encode " set(int,\u00a0bool)\u3000" "0x2A" = encode "set(int,bool)" "0x2A" := by
  have alike : Text.dropBlanks " set(int,\u00a0bool)\u3000" = Text.dropBlanks "set(int,bool)" := by
    decide
  exact ⟨alike, (encode_ignores_blanks_iff alike "0x2A").2 (.inl (by decide))⟩

/-- A signature of one blank is the empty one but for that, and makes other calldata. -/
theorem encode_blank_ne_encode_empty :
    Text.dropBlanks " " = Text.dropBlanks "" ∧ encode " " "" ≠ encode "" "" := by
  refine ⟨by decide, fun same => ?_⟩
  rcases encode_eq_iff.1 same with digits | ⟨error, refused⟩
  · exact absurd (selectorDigits_eq_empty_iff.1 digits) (by decide)
  · exact nomatch refused

end Calldata

end Courier
