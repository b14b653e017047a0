import Courier.Proofs.Keccak.Lanes

/-!
# Bytes and bits

What the sponge does to bytes is what it is defined to do to their bits: the padding, the blocks and
what is read from the lanes at the end. So the digest of bytes is the Keccak-256 hash of their bits
(`Keccak.bitsOf_digest`).
-/
namespace Courier.Keccak

open Standard (bitsOf)

/-! ### The bits of bytes -/

/-- The bits of bytes are those of the first and then those of the others. -/
theorem bitsOf_cons (byte : UInt8) (bytes : List UInt8) :
    bitsOf (byte :: bytes) =
      ((List.range 8).map fun index => byte.toNat.testBit index) ++ bitsOf bytes :=
  List.flatMap_cons

/-- The bits of bytes are those of the front and then those of the back. -/
theorem bitsOf_append (front back : List UInt8) :
    bitsOf (front ++ back) = bitsOf front ++ bitsOf back :=
  List.flatMap_append

/-- There are eight bits to a byte. -/
theorem length_bitsOf (bytes : List UInt8) : (bitsOf bytes).length = 8 * bytes.length := by
  induction bytes with
  | nil => rfl
  | cons byte bytes ih =>
    rw [bitsOf_cons, List.length_append, ih, List.length_map, List.length_range, List.length_cons]
    omega

/-- What stands at a place among the bits of bytes. -/
theorem getElem?_bitsOf (bytes : List UInt8) (place : Nat) :
    (bitsOf bytes)[place]? =
      bytes[place / 8]?.map fun byte => byte.toNat.testBit (place % 8) := by
  induction bytes generalizing place with
  | nil => rfl
  | cons byte bytes ih =>
    rw [bitsOf_cons]
    by_cases first : place < 8
    · have whole : place / 8 = 0 := by omega
      have rest : place % 8 = place := by omega
      rw [List.getElem?_append_left (by simpa using first), List.getElem?_map,
        List.getElem?_range first, whole, rest]
      rfl
    · have whole : place / 8 = (place - 8) / 8 + 1 := by omega
      have rest : place % 8 = (place - 8) % 8 := by omega
      rw [List.getElem?_append_right (by simpa using first), List.length_map, List.length_range,
        ih, whole, rest, List.getElem?_cons_succ]

/-- What stands at a place among the bits of bytes, and past their end. -/
theorem getD_bitsOf (bytes : List UInt8) (place : Nat) :
    (bitsOf bytes).getD place false = (bytes.getD (place / 8) 0).toNat.testBit (place % 8) := by
  rw [List.getD_eq_getElem?_getD, List.getD_eq_getElem?_getD, getElem?_bitsOf]
  cases bytes[place / 8]? with
  | none => exact (Nat.zero_testBit _).symm
  | some byte => rfl

/-- The bits of a back are a back of the bits. -/
theorem bitsOf_drop (bytes : List UInt8) (count : Nat) :
    bitsOf (bytes.drop count) = (bitsOf bytes).drop (8 * count) := by
  refine List.ext_getElem? fun place => ?_
  have whole : (8 * count + place) / 8 = count + place / 8 := by omega
  have rest : (8 * count + place) % 8 = place % 8 := by omega
  rw [List.getElem?_drop, getElem?_bitsOf, getElem?_bitsOf, List.getElem?_drop, whole, rest]

/-- The bits of a front are a front of the bits. -/
theorem bitsOf_take (bytes : List UInt8) (count : Nat) :
    bitsOf (bytes.take count) = (bitsOf bytes).take (8 * count) := by
  refine List.ext_getElem? fun place => ?_
  have inside : place / 8 < count ↔ place < 8 * count := by omega
  rw [List.getElem?_take, getElem?_bitsOf, getElem?_bitsOf, List.getElem?_take]
  simp only [inside]
  split <;> rfl

/-! ### Taking up -/

/-- The bits of a byte as a word. -/
theorem bit_toUInt64 (byte : UInt8) {z : Nat} (inside : z < 64) :
    bit byte.toUInt64 z = byte.toNat.testBit z := by
  rw [bit, UInt8.toBitVec_toUInt64, BitVec.getLsbD_setWidth, decide_eq_true inside, Bool.true_and,
    ← BitVec.testBit_toNat, UInt8.toNat_toBitVec]

/-- The bits of the word that bytes spell. -/
theorem bit_word (bytes : List UInt8) {z : Nat} (inside : z < 64) :
    bit (word bytes) z = (bytes.getD (z / 8) 0).toNat.testBit (z % 8) := by
  induction bytes generalizing z with
  | nil =>
    have zero : bit (word []) z = false := BitVec.getLsbD_zero
    rw [zero, List.getD_nil]
    exact (Nat.zero_testBit _).symm
  | cons byte bytes ih =>
    -- The first byte fills the eight lowest bits, and the others stand above it.
    have shifted : word (byte :: bytes) = (word bytes <<< UInt64.ofNat 8) ||| byte.toUInt64 := rfl
    rw [shifted, bit_or, bit_shiftLeft _ (by decide) inside, bit_toUInt64 byte inside]
    by_cases first : z < 8
    · have whole : z / 8 = 0 := by omega
      have rest : z % 8 = z := by omega
      have low : ¬8 ≤ z := by omega
      rw [decide_eq_false low, Bool.false_and, Bool.false_or, whole, rest, List.getD_cons_zero]
    · have whole : z / 8 = (z - 8) / 8 + 1 := by omega
      have rest : z % 8 = (z - 8) % 8 := by omega
      have high : 8 ≤ z := by omega
      have past : byte.toNat.testBit z = false := by
        rw [← UInt8.toNat_toBitVec, BitVec.testBit_toNat]
        exact BitVec.getLsbD_of_ge _ _ high
      rw [decide_eq_true high, Bool.true_and, past, Bool.or_false, ih (by omega), whole, rest,
        List.getD_cons_succ]

/-- Taking up a block of bytes is taking up its bits. -/
theorem stateOf_absorb (lanes : Lanes) (block : List UInt8) :
    stateOf (absorb lanes block) = Standard.absorb (stateOf lanes) (bitsOf block) := by
  rw [absorb, stateOf_permute, Standard.absorb]
  refine congrArg Standard.permute ?_
  funext x y z
  have whole : Standard.place x y z / 8 = 8 * (index x y).val + z.val / 8 := by
    simp only [Standard.place, index]
    omega
  have rest : Standard.place x y z % 8 = z.val % 8 := by
    simp only [Standard.place]
    omega
  have inside : z.val / 8 < 8 := by omega
  have byte : ((block.drop (8 * (index x y).val)).take 8).getD (z.val / 8) 0 =
      block.getD (8 * (index x y).val + z.val / 8) 0 := by
    rw [List.getD_eq_getElem?_getD, List.getD_eq_getElem?_getD, List.getElem?_take_of_lt inside,
      List.getElem?_drop]
  rw [stateOf_ofFn, bit_xor, bit_word _ z.isLt, byte, getD_bitsOf, whole, rest, bit_getElem]

/-- Taking up blocks of bytes, one after another, is taking up their bits. -/
theorem stateOf_foldl_absorb (lanes : Lanes) (blocks : List (List UInt8)) :
    stateOf (blocks.foldl absorb lanes) =
      (blocks.map bitsOf).foldl Standard.absorb (stateOf lanes) := by
  induction blocks generalizing lanes with
  | nil => rfl
  | cons block blocks ih =>
    rw [List.foldl_cons, List.map_cons, List.foldl_cons, ih, stateOf_absorb]

/-- Blocks are the bytes that stand so many times the rate from the front. -/
theorem blocks_eq (count : Nat) (bytes : List UInt8) :
    blocks count bytes =
      (List.range count).map fun index => (bytes.drop (rate * index)).take rate := by
  induction count generalizing bytes with
  | zero => rfl
  | succ count ih =>
    rw [blocks, ih, List.range_succ_eq_map, List.map_cons, List.map_map]
    refine congrArg _ (List.map_congr_left fun index _ => ?_)
    have past : rate + rate * index = rate * (index + 1) := by
      rw [Nat.mul_add, Nat.mul_one, Nat.add_comm]
    rw [List.drop_drop, past]
    rfl

/-- The bits of blocks of bytes are the blocks of their bits. -/
theorem map_bitsOf_blocks (bytes : List UInt8) :
    (blocks (bytes.length / rate) bytes).map bitsOf =
      (List.range ((bitsOf bytes).length / Standard.rate)).map fun index =>
        ((bitsOf bytes).drop (Standard.rate * index)).take Standard.rate := by
  have bits : Standard.rate = 8 * rate := rfl
  have count : (bitsOf bytes).length / Standard.rate = bytes.length / rate := by
    rw [length_bitsOf, bits, Nat.mul_div_mul_left _ _ (by decide)]
  rw [blocks_eq, List.map_map, count]
  refine List.map_congr_left fun index _ => ?_
  rw [bits, Nat.mul_assoc, ← bitsOf_drop, ← bitsOf_take]
  rfl

/-! ### The padding -/

/-- The bits of bytes of zeros are zeros. -/
theorem bitsOf_replicate_zero (count : Nat) :
    bitsOf (List.replicate count 0) = List.replicate (8 * count) false := by
  induction count with
  | zero => rfl
  | succ count ih =>
    have eight : 8 * (count + 1) = 8 + 8 * count := by omega
    rw [List.replicate_succ, bitsOf_cons, ih, eight, ← List.replicate_append_replicate]
    rfl

/-- The padding of bytes is the padding of their bits. -/
theorem bitsOf_pad (message : List UInt8) :
    bitsOf (pad message) = Standard.pad (bitsOf message) := by
  have below : message.length % 136 < 136 := Nat.mod_lt _ (by decide)
  have bits : 8 * message.length % 1088 = 8 * (message.length % 136) :=
    Nat.mul_mod_mul_left 8 message.length 136
  rw [pad, Standard.pad, length_bitsOf, rate, Standard.rate, bits]
  split
  · -- One byte of room takes both one bits, with six zeros between them.
    rename_i full
    have zeros : (2 * 1088 - 2 - 8 * (message.length % 136)) % 1088 = 6 := by omega
    rw [bitsOf_append, zeros, List.append_assoc]
    rfl
  · -- The first byte ends in seven zeros, and as many come before the bit of the last.
    rename_i room
    have zeros : (2 * 1088 - 2 - 8 * (message.length % 136)) % 1088 =
        7 + (8 * (136 - message.length % 136 - 2) + 7) := by omega
    rw [bitsOf_append, bitsOf_append, bitsOf_append, bitsOf_replicate_zero, zeros,
      ← List.replicate_append_replicate, ← List.replicate_append_replicate]
    simp only [List.append_assoc, List.cons_append]
    rfl

/-! ### The digest -/

/-- The lanes of zeros hold zeros. -/
theorem stateOf_zero : stateOf (Vector.replicate 25 0) = fun _ _ _ => false := by
  funext x y z
  rw [← bit_getElem, Fin.getElem_fin, Vector.getElem_replicate]
  exact BitVec.getLsbD_zero

/-- The bits of the byte that a word holds from a depth on. -/
theorem testBit_toUInt8 (word : UInt64) {depth place : Nat} (short : depth < 64)
    (inside : place < 8) :
    (word >>> UInt64.ofNat depth).toUInt8.toNat.testBit place = bit word (depth + place) := by
  rw [← bit_shiftRight word short, ← UInt8.toNat_toBitVec, BitVec.testBit_toNat,
    UInt64.toBitVec_toUInt8, BitVec.getLsbD_setWidth, decide_eq_true inside, Bool.true_and]
  rfl

/-- Bytes whose bits agree, place by place, with given ones have these for their bits. -/
theorem bitsOf_ofFn {count : Nat} (bytes : Fin count → UInt8) (bits : Fin (8 * count) → Bool)
    (agree : ∀ (i : Fin count) (number : Fin (8 * count)), number.val / 8 = i.val →
      (bytes i).toNat.testBit (number.val % 8) = bits number) :
    bitsOf (Vector.ofFn bytes).toList = (List.finRange (8 * count)).map bits := by
  refine List.ext_getElem? fun place => ?_
  rw [getElem?_bitsOf, Vector.getElem?_toList, List.getElem?_map]
  by_cases inside : place < 8 * count
  · have byte : place / 8 < count := by omega
    have number : (List.finRange (8 * count))[place]? = some ⟨place, inside⟩ := by
      rw [List.getElem?_eq_getElem (by simpa using inside), List.getElem_finRange]
      rfl
    rw [number, Vector.getElem?_eq_getElem byte, Vector.getElem_ofFn]
    exact congrArg some (agree ⟨place / 8, byte⟩ ⟨place, inside⟩ rfl)
  · rw [Vector.getElem?_eq_none (by omega), List.getElem?_eq_none (by simp; omega)]
    rfl

/-- The digest of bytes is the hash of their bits. -/
theorem bitsOf_digest (message : List UInt8) :
    bitsOf (digest message).toList = Standard.hash (bitsOf message) := by
  have state : stateOf ((blocks ((pad message).length / rate) (pad message)).foldl absorb
      (Vector.replicate 25 0)) = Standard.absorbAll (Standard.pad (bitsOf message)) := by
    rw [Standard.absorbAll, ← bitsOf_pad, ← map_bitsOf_blocks, stateOf_foldl_absorb, stateOf_zero]
  rw [digest, Standard.hash, ← state]
  generalize (blocks ((pad message).length / rate) (pad message)).foldl absorb
    (Vector.replicate 25 0) = lanes
  refine bitsOf_ofFn _ _ fun i number byte => ?_
  have depth : 8 * (i.val % 8) + number.val % 8 = number.val % 64 := by omega
  have corner : number.val / 64 % 5 % 5 + 5 * (number.val / 64 / 5 % 5) = i.val / 8 := by
    omega
  rw [testBit_toUInt8 _ (by omega) (by omega), depth]
  simp only [stateOf, lane, corner]

end Courier.Keccak
