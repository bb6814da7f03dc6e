import ContractHarness.Bytes

/-!
# Keccak-256

The hash function of the chain: a sponge over twenty-five lanes of sixty-four bits that takes in
136 bytes at a time. The message is closed with a first bit of padding in a byte of its own and a
last bit at the end of its last block.
-/

set_option autoImplicit false

namespace ContractHarness.Keccak

/-- The state of the sponge: the lane in column `x` of row `y` stands at `x + 5 * y`. -/
abbrev State := Array UInt64

/-- The lane at a place of the state. -/
def State.lane (s : State) (i : Nat) : UInt64 :=
  s.getD i 0

/-- The constants that break the symmetry of the rounds. -/
def roundConstants : List UInt64 := [
  0x0000000000000001, 0x0000000000008082, 0x800000000000808A, 0x8000000080008000,
  0x000000000000808B, 0x0000000080000001, 0x8000000080008081, 0x8000000000008009,
  0x000000000000008A, 0x0000000000000088, 0x0000000080008009, 0x000000008000000A,
  0x000000008000808B, 0x800000000000008B, 0x8000000000008089, 0x8000000000008003,
  0x8000000000008002, 0x8000000000000080, 0x000000000000800A, 0x800000008000000A,
  0x8000000080008081, 0x8000000000008080, 0x0000000080000001, 0x8000000080008008]

/-- How far each lane is rotated, in the order of the state. -/
def rotations : Array UInt64 := #[
  0, 1, 62, 28, 27,
  36, 44, 6, 55, 20,
  3, 10, 43, 25, 39,
  41, 45, 15, 21, 8,
  18, 2, 61, 56, 14]

/-- Rotation of a lane to the left. -/
def rotateLeft (lane count : UInt64) : UInt64 :=
  if count = 0 then lane else (lane <<< count) ||| (lane >>> (64 - count))

/-- Adds to each lane the parities of the columns on both sides of it. -/
def mixColumns (s : State) : State :=
  let parity x := s.lane x ^^^ s.lane (x + 5) ^^^ s.lane (x + 10) ^^^ s.lane (x + 15)
    ^^^ s.lane (x + 20)
  let parities := (Array.range 5).map parity
  let sums := (Array.range 5).map fun x =>
    parities.getD ((x + 4) % 5) 0 ^^^ rotateLeft (parities.getD ((x + 1) % 5) 0) 1
  (Array.range 25).map fun i => s.lane i ^^^ sums.getD (i % 5) 0

/-- Rotates the lanes and moves them to other columns: the lane that ends up in column `x` of row
`y` comes from column `x + 3 * y` of row `x`. -/
def permute (s : State) : State :=
  (Array.range 25).map fun i =>
    let x := i % 5
    let y := i / 5
    let source := (x + 3 * y) % 5 + 5 * x
    rotateLeft (s.lane source) (rotations.getD source 0)

/-- The step that is not linear, within each row. -/
def chi (s : State) : State :=
  (Array.range 25).map fun i =>
    let row := i / 5 * 5
    s.lane i ^^^ ((s.lane (row + (i + 1) % 5) ^^^ 0xFFFFFFFFFFFFFFFF)
      &&& s.lane (row + (i + 2) % 5))

/-- One round. -/
def round (s : State) (constant : UInt64) : State :=
  let s := chi (permute (mixColumns s))
  s.setIfInBounds 0 (s.lane 0 ^^^ constant)

/-- The permutation of the state. -/
def permutation (s : State) : State :=
  roundConstants.foldl round s

/-- How many bytes the sponge takes in at a time. -/
def rate : Nat := 136

/-- The lane that eight bytes denote, the first byte the least significant. -/
def laneOfBytes (bytes : Bytes) : UInt64 :=
  bytes.foldr (fun b lane => (lane <<< 8) ||| b.toUInt64) 0

/-- The eight bytes of a lane, the least significant first. -/
def bytesOfLane (lane : UInt64) : Bytes :=
  (List.range 8).map fun i => (lane >>> (8 * UInt64.ofNat i)).toUInt8

/-- Takes one block in. -/
def absorb (s : State) (block : Bytes) : State :=
  permutation <| (Array.range 25).map fun i =>
    if i < rate / 8 then s.lane i ^^^ laneOfBytes ((block.drop (8 * i)).take 8) else s.lane i

/-- The padding that closes a message whose last block holds `used` bytes. -/
def padding (used : Nat) : Bytes :=
  if used + 1 = rate then [0x81]
  else 0x01 :: (List.replicate (rate - used - 2) 0x00 ++ [0x80])

/-- Takes in a message, block by block. -/
def absorbAll (s : State) (message : Bytes) : State :=
  if rate ≤ message.length then
    absorbAll (absorb s (message.take rate)) (message.drop rate)
  else
    absorb s (message ++ padding message.length)
termination_by message.length
decreasing_by simp only [List.length_drop, rate] at *; omega

end ContractHarness.Keccak

namespace ContractHarness

/-- The Keccak-256 hash of the bytes. -/
def keccak256 (message : Bytes) : Word :=
  let s := Keccak.absorbAll (Array.replicate 25 0) message
  Word.ofBytes ((List.range 4).flatMap fun i => Keccak.bytesOfLane (s.lane i))

end ContractHarness
