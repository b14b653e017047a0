/-!
# Keccak-256, bit by bit

The hash function in the terms that define it, with nothing of how it is computed: a state is 1600
bits in five columns, five rows and a depth of 64, a round is the five maps `theta`, `rho`, `pi`,
`chi` and `iota`, and the sponge takes up 1088 bits of the padded message before each permutation.
The distances of `rho` and the constants of `iota` are generated here, not listed.
-/
namespace Courier.Keccak.Standard

/-- A state: a bit for each column, row and depth. -/
abbrev State : Type := Fin 5 → Fin 5 → Fin 64 → Bool

/-! ### The round -/

/-- The parity of a column at a depth. -/
def parity (state : State) (x : Fin 5) (z : Fin 64) : Bool :=
  state x 0 z ^^ state x 1 z ^^ state x 2 z ^^ state x 3 z ^^ state x 4 z

/-- Every bit takes up the parity of the column before it and of the one after it, the latter one
place down. -/
def theta (state : State) : State := fun x y z =>
  state x y z ^^ (parity state (x - 1) z ^^ parity state (x + 1) (z - 1))

/-- The places that `rho` goes through, one after another. -/
def walk : Nat → Fin 5 × Fin 5
  | 0 => (1, 0)
  | step + 1 => ((walk step).2, 2 * (walk step).1 + 3 * (walk step).2)

/-- How far `rho` turns a lane: the triangular numbers along the walk, and nothing at the one place
that the walk does not come to. -/
def distance (x y : Fin 5) : Nat :=
  match (List.range 24).find? fun step => walk step = (x, y) with
  | some step => (step + 1) * (step + 2) / 2
  | none => 0

/-- Every lane is turned by its distance. -/
def rho (state : State) : State := fun x y z => state x y (z - Fin.ofNat 64 (distance x y))

/-- The lanes change places. -/
def pi (state : State) : State := fun x y z => state (x + 3 * y) x z

/-- Every bit takes up the next but one of its row where the next is not set. -/
def chi (state : State) : State := fun x y z =>
  state x y z ^^ (!state (x + 1) y z && state (x + 2) y z)

/-- The power of `x` modulo the polynomial `x^8 + x^6 + x^5 + x^4 + 1` over two elements, its
coefficients being the bits of a number. -/
def power : Nat → Nat
  | 0 => 1
  | exponent + 1 =>
    let next := 2 * power exponent
    if next < 256 then next else next ^^^ 0x171

/-- The constant of a round at a depth: where the depth is one less than the `j`-th power of two,
the lowest coefficient of a power. -/
def constant (index : Nat) (z : Fin 64) : Bool :=
  (List.range 7).any fun j => z.val + 1 = 1 <<< j && (power (j + 7 * index)).testBit 0

/-- The lane in the corner takes up the constant of the round. -/
def iota (index : Nat) (state : State) : State := fun x y z =>
  if x = 0 ∧ y = 0 then state x y z ^^ constant index z else state x y z

/-- The round with an index. -/
def round (state : State) (index : Nat) : State := iota index (chi (pi (rho (theta state))))

/-- The permutation: 24 rounds. -/
def permute (state : State) : State := (List.range 24).foldl round state

/-! ### The sponge -/

/-- The bits that are taken up before each permutation. -/
def rate : Nat := 1088

/-- A message with its padding: a one bit, as many zeros as make whole blocks, and a one bit. -/
def pad (message : List Bool) : List Bool :=
  message ++ true :: List.replicate ((2 * rate - 2 - message.length % rate) % rate) false ++ [true]

/-- The number of a bit among the 1600 bits of a state. -/
def place (x y : Fin 5) (z : Fin 64) : Nat := 64 * (5 * y.val + x.val) + z.val

/-- A block is added to a state, bit by bit as far as it goes, and the state permuted. -/
def absorb (state : State) (block : List Bool) : State :=
  permute fun x y z => state x y z ^^ block.getD (place x y z) false

/-- The state after a padded message, from the one of zeros. -/
def absorbAll (padded : List Bool) : State :=
  ((List.range (padded.length / rate)).map fun index =>
    (padded.drop (rate * index)).take rate).foldl absorb fun _ _ _ => false

/-- The hash of a message: the first 256 bits of the state after it. -/
def hash (message : List Bool) : List Bool :=
  (List.finRange 256).map fun index =>
    absorbAll (pad message) ⟨index.val / 64 % 5, by omega⟩ ⟨index.val / 64 / 5, by omega⟩
      ⟨index.val % 64, by omega⟩

/-! ### Bytes -/

/-- The bits of bytes, of each the lowest first. -/
def bitsOf (bytes : List UInt8) : List Bool :=
  bytes.flatMap fun byte => (List.range 8).map fun index => byte.toNat.testBit index

end Courier.Keccak.Standard
