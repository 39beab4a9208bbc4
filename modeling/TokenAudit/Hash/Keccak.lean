/-!
# Keccak-256

The sponge with a rate of 136 bytes and the padding that starts with a single one bit, as used for
function selectors. The state is 25 lanes of 64 bits; lane `x + 5 * y` stands at column `x` and
row `y`.
-/

namespace TokenAudit.Hash.Keccak

/-- The permutation's state: 25 lanes. -/
abbrev State := Vector UInt64 25

/-- The word rotated left by `n` places. -/
def rotateLeft (word : UInt64) (n : Nat) : UInt64 :=
  if n == 0 then word
  else (word <<< UInt64.ofNat n) ||| (word >>> UInt64.ofNat (64 - n))

/-- The constant that each round mixes into the first lane. -/
def roundConstants : List UInt64 :=
  [0x0000000000000001, 0x0000000000008082, 0x800000000000808A, 0x8000000080008000,
   0x000000000000808B, 0x0000000080000001, 0x8000000080008081, 0x8000000000008009,
   0x000000000000008A, 0x0000000000000088, 0x0000000080008009, 0x000000008000000A,
   0x000000008000808B, 0x800000000000008B, 0x8000000000008089, 0x8000000000008003,
   0x8000000000008002, 0x8000000000000080, 0x000000000000800A, 0x800000008000000A,
   0x8000000080008081, 0x8000000000008080, 0x0000000080000001, 0x8000000080008008]

/-- By how much each lane is rotated. -/
def rotations : Vector Nat 25 :=
  #v[0, 1, 62, 28, 27, 36, 44, 6, 55, 20, 3, 10, 43, 25, 39, 41, 45, 15, 21, 8, 18, 2, 61, 56, 14]

/-- The lane at column `x` and row `y`, both modulo five. -/
def lane (state : State) (x y : Nat) : UInt64 :=
  state[x % 5 + 5 * (y % 5)]

/-- The sum of a column's lanes. -/
def column (state : State) (x : Nat) : UInt64 :=
  lane state x 0 ^^^ lane state x 1 ^^^ lane state x 2 ^^^ lane state x 3 ^^^ lane state x 4

/-- Every lane is mixed with the two neighbouring columns. -/
def theta (state : State) : State :=
  let columns : Vector UInt64 5 := Vector.ofFn fun x => column state x
  Vector.ofFn fun i =>
    state[i] ^^^ columns[(i.val + 4) % 5] ^^^ rotateLeft (columns[(i.val + 1) % 5]) 1

/-- Lanes are rotated and moved: the lane at column `x` and row `y` goes to column `y` and row
`2x + 3y`. -/
def rhoPi (state : State) : State :=
  Vector.ofFn fun i =>
    -- the lane that arrives at column `x`, row `y` comes from column `x + 3y`, row `x`
    let x := i.val % 5
    let y := i.val / 5
    let source := (x + 3 * y) % 5 + 5 * (x % 5)
    rotateLeft (state[source]) (rotations[source])

/-- Every lane is mixed with the two lanes to its right. -/
def chi (state : State) : State :=
  Vector.ofFn fun i =>
    let x := i.val % 5
    let y := i.val / 5
    lane state x y ^^^ (~~~(lane state (x + 1) y) &&& lane state (x + 2) y)

/-- One round of the permutation. -/
def round (state : State) (constant : UInt64) : State :=
  let mixed := chi (rhoPi (theta state))
  mixed.set 0 (mixed[0] ^^^ constant)

/-- The permutation: 24 rounds. -/
def permute (state : State) : State :=
  roundConstants.foldl round state

/-- The number of message bytes that one application of the permutation takes in. -/
def rate : Nat := 136

/-- The message followed by a one bit, zeros, and a final one bit, in whole blocks. -/
def pad (message : List UInt8) : List UInt8 :=
  let gap := rate - message.length % rate
  if gap == 1 then message ++ [0x81]
  else message ++ 0x01 :: List.replicate (gap - 2) 0 ++ [0x80]

/-- The word whose bytes are given, the least significant first. -/
def wordOfBytes (bytes : List UInt8) : UInt64 :=
  bytes.foldr (fun byte word => (word <<< 8) ||| byte.toUInt64) 0

/-- The eight bytes of a word, the least significant first. -/
def bytesOfWord (word : UInt64) : List UInt8 :=
  (List.range 8).map fun i => (word >>> UInt64.ofNat (8 * i)).toUInt8

/-- The state after one block has been mixed in and permuted. -/
def absorb (state : State) (block : List UInt8) : State :=
  permute <| Vector.ofFn fun i =>
    state[i] ^^^ wordOfBytes ((block.drop (8 * i.val)).take 8)

/-- A list cut into `count` pieces of `size` elements. -/
def chunks (size : Nat) : Nat → List UInt8 → List (List UInt8)
  | 0, _ => []
  | count + 1, bytes => bytes.take size :: chunks size count (bytes.drop size)

/-- The 32-byte digest of a message. -/
def digest (message : List UInt8) : List UInt8 :=
  let padded := pad message
  let state := (chunks rate (padded.length / rate) padded).foldl absorb (Vector.replicate 25 0)
  (state.toList.flatMap bytesOfWord).take 32

end TokenAudit.Hash.Keccak
