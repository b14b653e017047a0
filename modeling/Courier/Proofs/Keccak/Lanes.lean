import Courier.Keccak
import Courier.Proofs.Keccak.Standard

/-!
# Lanes and bits

What the permutation of lanes does to the bits in them: each of its steps does what the map of that
name does, so the permutation of lanes is that of the state whose bits they hold
(`Keccak.stateOf_permute`).
-/
namespace Courier.Keccak

/-- The bit at a depth of a word. -/
def bit (word : UInt64) (z : Nat) : Bool := word.toBitVec.getLsbD z

/-- The state whose bits the lanes hold. -/
def stateOf (lanes : Lanes) : Standard.State := fun x y z => bit (lane lanes x.val y.val) z.val

/-! ### Words -/

@[simp] theorem bit_xor (one other : UInt64) (z : Nat) :
    bit (one ^^^ other) z = (bit one z ^^ bit other z) := by
  simp only [bit, UInt64.toBitVec_xor, BitVec.getLsbD_xor]

@[simp] theorem bit_and (one other : UInt64) (z : Nat) :
    bit (one &&& other) z = (bit one z && bit other z) := by
  simp only [bit, UInt64.toBitVec_and, BitVec.getLsbD_and]

@[simp] theorem bit_or (one other : UInt64) (z : Nat) :
    bit (one ||| other) z = (bit one z || bit other z) := by
  simp only [bit, UInt64.toBitVec_or, BitVec.getLsbD_or]

theorem bit_not (word : UInt64) {z : Nat} (inside : z < 64) : bit (~~~word) z = !bit word z := by
  simp only [bit, UInt64.toBitVec_not, BitVec.getLsbD_not, inside, decide_true, Bool.true_and]

/-- A shift takes its amount as it is if that is less than the width. -/
theorem toNat_amount {distance : Nat} (short : distance < 64) :
    ((UInt64.ofNat distance).toBitVec % 64).toNat = distance := by
  have fits : distance < UInt64.size := Nat.lt_trans short (by decide)
  rw [BitVec.toNat_umod, UInt64.toNat_toBitVec, UInt64.toNat_ofNat_of_lt' fits]
  exact Nat.mod_eq_of_lt short

/-- A shift to the left by less than the width. -/
theorem bit_shiftLeft (word : UInt64) {distance z : Nat} (short : distance < 64)
    (inside : z < 64) :
    bit (word <<< UInt64.ofNat distance) z =
      (decide (distance ≤ z) && bit word (z - distance)) := by
  simp only [bit, UInt64.toBitVec_shiftLeft, BitVec.shiftLeft_eq', toNat_amount short,
    BitVec.getLsbD_shiftLeft, inside, decide_true, Bool.true_and, ← decide_not, Nat.not_lt]

/-- A shift to the right by less than the width. -/
theorem bit_shiftRight (word : UInt64) {distance : Nat} (short : distance < 64) (z : Nat) :
    bit (word >>> UInt64.ofNat distance) z = bit word (distance + z) := by
  simp only [bit, UInt64.toBitVec_shiftRight, BitVec.ushiftRight_eq', toNat_amount short,
    BitVec.getLsbD_ushiftRight]

/-- A word has no bit beyond its width. -/
theorem bit_of_le (word : UInt64) {z : Nat} (outside : 64 ≤ z) : bit word z = false :=
  BitVec.getLsbD_of_ge word.toBitVec z outside

/-- A word turned left holds at each depth the bit from so far below. -/
theorem bit_turnLeft (word : UInt64) {distance : Nat} (short : distance < 64) (z : Fin 64) :
    bit (turnLeft word (UInt64.ofNat distance)) z.val =
      bit word (z - Fin.ofNat 64 distance).val := by
  have source : (z - Fin.ofNat 64 distance).val = (64 - distance + z.val) % 64 := by
    rw [Fin.val_sub, Fin.val_ofNat, Nat.mod_eq_of_lt short]
  rw [turnLeft, bit_or, bit_shiftLeft word short z.isLt, source]
  by_cases still : distance = 0
  · -- The shift to the right is then by the whole width, which is none at all.
    subst still
    have whole : word >>> ((64 : UInt64) - UInt64.ofNat 0) = word := by
      rw [← UInt64.toBitVec_inj, UInt64.toBitVec_shiftRight]
      exact BitVec.ushiftRight_zero word.toBitVec
    have same : (64 - 0 + z.val) % 64 = z.val := by omega
    rw [whole, same, Nat.sub_zero, decide_eq_true (Nat.zero_le z.val), Bool.true_and,
      Bool.or_self]
  · have rest : (64 : UInt64) - UInt64.ofNat distance = UInt64.ofNat (64 - distance) :=
      (UInt64.ofNat_sub (Nat.le_of_lt short)).symm
    rw [rest, bit_shiftRight word (by omega)]
    by_cases above : distance ≤ z.val
    · have place : (64 - distance + z.val) % 64 = z.val - distance := by omega
      have outside : 64 ≤ 64 - distance + z.val := by omega
      rw [place, decide_eq_true above, Bool.true_and, bit_of_le word outside, Bool.or_false]
    · have place : (64 - distance + z.val) % 64 = 64 - distance + z.val := by omega
      rw [place, decide_eq_false above, Bool.false_and, Bool.false_or]

/-! ### The round -/

/-- The index of the lane at a column and row. -/
def index (x y : Fin 5) : Fin 25 := ⟨x.val + 5 * y.val, by omega⟩

/-- The lane at a column and row is the one with their index. -/
theorem lane_eq (lanes : Lanes) (x y : Fin 5) : lane lanes x.val y.val = lanes[index x y] := by
  have column : x.val % 5 = x.val := Nat.mod_eq_of_lt x.isLt
  have row : y.val % 5 = y.val := Nat.mod_eq_of_lt y.isLt
  simp only [lane, column, row]
  rfl

/-- The bits of the lane with an index. -/
theorem bit_getElem (lanes : Lanes) (x y : Fin 5) (z : Fin 64) :
    bit lanes[index x y] z.val = stateOf lanes x y z := by
  rw [stateOf, lane_eq]

/-- The column of an index. -/
theorem index_mod (x y : Fin 5) : (index x y).val % 5 = x.val := by
  simp only [index]
  omega

/-- The column that stands so far behind that of an index. -/
theorem index_mod_add (x y offset : Fin 5) :
    ((index x y).val % 5 + offset.val) % 5 = (x + offset).val := by
  rw [index_mod, Fin.val_add]

/-- The row of an index. -/
theorem index_div (x y : Fin 5) : (index x y).val / 5 = y.val := by
  simp only [index]
  omega

/-- The bits of lanes that are given one by one. -/
theorem stateOf_ofFn (lanes : Fin 25 → UInt64) (x y : Fin 5) (z : Fin 64) :
    stateOf (Vector.ofFn lanes) x y z = bit (lanes (index x y)) z.val := by
  rw [← bit_getElem]
  exact congrArg (bit · z.val) (Vector.getElem_ofFn (index x y).isLt)

/-- The bits of a lane by columns and rows that go around. -/
theorem bit_lane_mod (lanes : Lanes) {x y : Nat} (column row : Fin 5) (z : Fin 64)
    (x_eq : x % 5 = column.val) (y_eq : y % 5 = row.val) :
    bit (lane lanes x y) z.val = stateOf lanes column row z := by
  have inner (inside : x % 5 + 5 * (y % 5) < 25) :
      (⟨x % 5 + 5 * (y % 5), inside⟩ : Fin 25) = index column row := by
    rw [index, Fin.mk.injEq, x_eq, y_eq]
  rw [← bit_getElem, lane, inner]
  rfl

/-- The bits of the parity of a column, by columns that go around. -/
theorem bit_parity (lanes : Lanes) {x : Nat} (column : Fin 5) (z : Fin 64)
    (x_eq : x % 5 = column.val) :
    bit (lane lanes x 0 ^^^ lane lanes x 1 ^^^ lane lanes x 2 ^^^ lane lanes x 3 ^^^
      lane lanes x 4) z.val = Standard.parity (stateOf lanes) column z := by
  simp only [bit_xor, Standard.parity, bit_lane_mod lanes column 0 z x_eq rfl,
    bit_lane_mod lanes column 1 z x_eq rfl, bit_lane_mod lanes column 2 z x_eq rfl,
    bit_lane_mod lanes column 3 z x_eq rfl, bit_lane_mod lanes column 4 z x_eq rfl]

/-- Taking up the parities of columns is `theta`. -/
theorem stateOf_mixColumns (lanes : Lanes) :
    stateOf (mixColumns lanes) = Standard.theta (stateOf lanes) := by
  funext x y z
  have around : x - 1 = x + 4 := by
    decide +revert
  have before : ((index x y).val % 5 + 4) % 5 % 5 = (x - 1).val := by
    rw [Nat.mod_mod, around]
    exact index_mod_add x y 4
  have after : ((index x y).val % 5 + 1) % 5 % 5 = (x + 1).val := by
    rw [Nat.mod_mod]
    exact index_mod_add x y 1
  have once : (1 : UInt64) = UInt64.ofNat 1 := rfl
  have given (words : Fin 5 → UInt64) (place : Fin 5) :
      (Vector.ofFn words).get place = words place := Vector.getElem_ofFn place.isLt
  rw [mixColumns, stateOf_ofFn]
  simp only [given]
  rw [bit_xor, bit_xor, bit_parity lanes (x - 1) z before, once, bit_turnLeft _ (by decide) z,
    bit_parity lanes (x + 1) _ after, bit_getElem]
  rfl

/-- The turns that are listed are the distances, of which whole turns are left out. -/
theorem turns_eq (x y : Fin 5) :
    turns[index x y] = UInt64.ofNat (Standard.distance x y % 64) := by
  decide +revert

/-- Turning the lanes and letting them change places is `rho` and `pi`. -/
theorem stateOf_turnAndMove (lanes : Lanes) :
    stateOf (turnAndMove lanes) = Standard.pi (Standard.rho (stateOf lanes)) := by
  funext x y z
  have column : ((index x y).val % 5 + 3 * ((index x y).val / 5)) % 5 = (x + 3 * y).val := by
    rw [index_mod, index_div, Fin.val_add, Fin.val_mul, Nat.add_mod_mod]
    rfl
  have row : (index x y).val % 5 % 5 = x.val := by
    rw [index_mod, Nat.mod_eq_of_lt x.isLt]
  have whole (far : Nat) : Fin.ofNat 64 (far % 64) = Fin.ofNat 64 far :=
    Fin.ext (Nat.mod_mod far 64)
  rw [turnAndMove, stateOf_ofFn, bit_lane_mod _ (x + 3 * y) x z column row, stateOf_ofFn, turns_eq,
    bit_turnLeft _ (Nat.mod_lt _ (by decide)), whole, bit_getElem]
  rfl

/-- What the lanes of rows take up is what `chi` says. -/
theorem stateOf_mixRows (lanes : Lanes) :
    stateOf (mixRows lanes) = Standard.chi (stateOf lanes) := by
  funext x y z
  have row : (index x y).val / 5 % 5 = y.val := by
    rw [index_div, Nat.mod_eq_of_lt y.isLt]
  have next : ((index x y).val % 5 + 1) % 5 = (x + 1).val := index_mod_add x y 1
  have second : ((index x y).val % 5 + 2) % 5 = (x + 2).val := index_mod_add x y 2
  rw [mixRows, stateOf_ofFn, bit_xor, bit_and, bit_not _ z.isLt,
    bit_lane_mod lanes (x + 1) y z next row, bit_lane_mod lanes (x + 2) y z second row,
    bit_getElem]
  rfl

/-- The constants of the rounds, each with the number of its round. -/
def numbered : List (UInt64 × Nat) := roundConstants.zipIdx

/-- The bits of the constants are those that the rounds have by their numbers. -/
theorem bit_of_mem_numbered :
    ∀ entry ∈ numbered, ∀ z : Fin 64, bit entry.1 z.val = Standard.constant entry.2 z := by
  decide +kernel

/-- A round of lanes is the round of their bits. -/
theorem stateOf_round (lanes : Lanes) {entry : UInt64 × Nat} (listed : entry ∈ numbered) :
    stateOf (round lanes entry.1) = Standard.round (stateOf lanes) entry.2 := by
  rw [Standard.round, ← stateOf_mixColumns, ← stateOf_turnAndMove, ← stateOf_mixRows]
  funext x y z
  rw [round, Standard.iota]
  generalize mixRows (turnAndMove (mixColumns lanes)) = mixed
  rw [← bit_getElem, Fin.getElem_fin, Vector.getElem_set]
  by_cases corner : x = 0 ∧ y = 0
  · have first : 0 = (index x y).val := by
      simp only [index, corner]
      rfl
    obtain ⟨rfl, rfl⟩ := corner
    rw [if_pos first, if_pos ⟨rfl, rfl⟩, bit_xor, bit_of_mem_numbered entry listed, ← bit_getElem]
    rfl
  · have other : 0 ≠ (index x y).val := by
      simp only [index, Fin.ext_iff] at corner ⊢
      omega
    rw [if_neg corner, if_neg other, ← bit_getElem]
    rfl

/-- Rounds of lanes, one after another, are those of their bits. -/
theorem stateOf_foldl_round (lanes : Lanes) {rounds : List (UInt64 × Nat)}
    (listed : ∀ entry ∈ rounds, entry ∈ numbered) :
    stateOf (rounds.foldl (fun lanes entry => round lanes entry.1) lanes) =
      rounds.foldl (fun state entry => Standard.round state entry.2) (stateOf lanes) := by
  induction rounds generalizing lanes with
  | nil => rfl
  | cons entry rounds ih =>
    obtain ⟨first, others⟩ := List.forall_mem_cons.1 listed
    rw [List.foldl_cons, List.foldl_cons, ih _ others, stateOf_round lanes first]

/-- The permutation of lanes is the permutation of their bits. -/
theorem stateOf_permute (lanes : Lanes) :
    stateOf (permute lanes) = Standard.permute (stateOf lanes) := by
  -- Both permutations go through one list, of constants for the lanes and numbers for the bits.
  have constants : roundConstants = numbered.map Prod.fst :=
    (List.zipIdx_map_fst 0 roundConstants).symm
  have numbers : List.range 24 = numbered.map Prod.snd := by
    decide
  rw [permute, Standard.permute, constants, numbers, List.foldl_map, List.foldl_map]
  exact stateOf_foldl_round lanes fun _ listed => listed

end Courier.Keccak
