/-!
# Keccak-256

The sponge that Ethereum hashes with: 25 lanes of 64 bits, 24 rounds, 136 bytes absorbed at a
time, and the padding of the first submission (a single `0x01` after the message), which the
later standard changed. Lane `(x, y)` stands at index `x + 5 * y`.
-/
namespace Courier.Keccak

/-- The 25 lanes of the sponge. -/
abbrev Lanes := Vector UInt64 25

/-- Bytes absorbed by one permutation. -/
def rate : Nat := 136

/-- The distance each lane is turned, by index. -/
def turns : Vector UInt64 25 :=
  #v[0, 1, 62, 28, 27, 36, 44, 6, 55, 20, 3, 10, 43, 25, 39, 41, 45, 15, 21, 8, 18, 2, 61, 56, 14]

/-- The constant that each round adds to the first lane. -/
def roundConstants : List UInt64 :=
  [0x0000000000000001, 0x0000000000008082, 0x800000000000808A, 0x8000000080008000,
   0x000000000000808B, 0x0000000080000001, 0x8000000080008081, 0x8000000000008009,
   0x000000000000008A, 0x0000000000000088, 0x0000000080008009, 0x000000008000000A,
   0x000000008000808B, 0x800000000000008B, 0x8000000000008089, 0x8000000000008003,
   0x8000000000008002, 0x8000000000000080, 0x000000000000800A, 0x800000008000000A,
   0x8000000080008081, 0x8000000000008080, 0x0000000080000001, 0x8000000080008008]

/-- A word turned left by a distance below 64. -/
def turnLeft (word distance : UInt64) : UInt64 :=
  (word <<< distance) ||| (word >>> (64 - distance))

/-- The lane at column `x` and row `y`, both taken modulo five. -/
def lane (lanes : Lanes) (x y : Nat) : UInt64 :=
  lanes.get ⟨x % 5 + 5 * (y % 5), by omega⟩

/-- Every lane takes up the parity of the column before it and of the turned column after it. -/
def mixColumns (lanes : Lanes) : Lanes :=
  let parity : Vector UInt64 5 := Vector.ofFn fun x =>
    lane lanes x 0 ^^^ lane lanes x 1 ^^^ lane lanes x 2 ^^^ lane lanes x 3 ^^^ lane lanes x 4
  let change : Vector UInt64 5 := Vector.ofFn fun x =>
    let before := parity.get ⟨(x.val + 4) % 5, by omega⟩
    let after := parity.get ⟨(x.val + 1) % 5, by omega⟩
    before ^^^ turnLeft after 1
  Vector.ofFn fun i => lanes[i] ^^^ change.get ⟨i.val % 5, by omega⟩

/-- Every lane is turned by its own distance and moves to the place `(y, 2x + 3y)`. -/
def turnAndMove (lanes : Lanes) : Lanes :=
  let turned : Lanes := Vector.ofFn fun i => turnLeft lanes[i] turns[i]
  Vector.ofFn fun i => lane turned (i.val % 5 + 3 * (i.val / 5)) (i.val % 5)

/-- Every lane takes up the next lane of its row where the lane after that is set and that next
one is not. -/
def mixRows (lanes : Lanes) : Lanes :=
  Vector.ofFn fun i =>
    let x := i.val % 5
    let y := i.val / 5
    lanes[i] ^^^ (~~~ lane lanes (x + 1) y &&& lane lanes (x + 2) y)

/-- One round. -/
def round (lanes : Lanes) (constant : UInt64) : Lanes :=
  let mixed := mixRows (turnAndMove (mixColumns lanes))
  mixed.set 0 (mixed[0] ^^^ constant)

/-- The permutation of the sponge: all rounds in order. -/
def permute (lanes : Lanes) : Lanes := roundConstants.foldl round lanes

/-- The word that up to eight bytes spell, the lowest byte first. -/
def word (bytes : List UInt8) : UInt64 :=
  bytes.foldr (fun byte high => (high <<< 8) ||| byte.toUInt64) 0

/-- One block is added to the front of the lanes, which are then permuted. -/
def absorb (lanes : Lanes) (block : List UInt8) : Lanes :=
  permute (Vector.ofFn fun i => lanes[i] ^^^ word ((block.drop (8 * i.val)).take 8))

/-- A message with its padding: a one bit, zeros, and a one bit at the end of the last block. -/
def pad (message : List UInt8) : List UInt8 :=
  let room := rate - message.length % rate
  if room = 1 then message ++ [0x81]
  else message ++ [0x01] ++ List.replicate (room - 2) 0x00 ++ [0x80]

/-- Bytes cut into `count` blocks of the sponge's rate. -/
def blocks : Nat → List UInt8 → List (List UInt8)
  | 0, _ => []
  | count + 1, bytes => bytes.take rate :: blocks count (bytes.drop rate)

/-- The 32 bytes that a message hashes to. -/
def digest (message : List UInt8) : Vector UInt8 32 :=
  let padded := pad message
  let lanes := (blocks (padded.length / rate) padded).foldl absorb (Vector.replicate 25 0)
  Vector.ofFn fun i =>
    (lanes.get ⟨i.val / 8, by omega⟩ >>> UInt64.ofNat (8 * (i.val % 8))).toUInt8

end Courier.Keccak
