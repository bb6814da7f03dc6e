/-!
# Bytes and words

Numbers are stored big-endian. `Bytes.ofNat width n` keeps the last `width` bytes of `n`, and
`Bytes.toNat` reads them back. A word is the unit of the chain's memory: thirty-two bytes, read as
an unsigned number or as a number in two's complement.
-/

set_option autoImplicit false

namespace ContractHarness

/-- A sequence of bytes. -/
abbrev Bytes := List UInt8

namespace Bytes

/-- The last `width` bytes of a number, the most significant first. -/
def ofNat : (width : Nat) → (n : Nat) → Bytes
  | 0, _ => []
  | width + 1, n => ofNat width (n / 256) ++ [UInt8.ofNat n]

/-- The number that the bytes denote, the first byte the most significant. -/
def toNat (bytes : Bytes) : Nat :=
  bytes.foldl (fun value b => 256 * value + b.toNat) 0

/-- The bytes filled up with zeros to a whole number of thirty-two byte groups. -/
def padded (bytes : Bytes) : Bytes :=
  bytes ++ List.replicate ((32 - bytes.length % 32) % 32) 0

/-- A number in a width takes that many bytes. -/
@[simp] theorem length_ofNat (width n : Nat) : (ofNat width n).length = width := by
  induction width generalizing n with
  | zero => rfl
  | succ width ih => simp [ofNat, ih]

/-- A byte at the end makes the number of the bytes before it 256 times as large and is added to it.
-/
theorem toNat_append_singleton (bytes : Bytes) (b : UInt8) :
    toNat (bytes ++ [b]) = 256 * toNat bytes + b.toNat := by
  simp [toNat]

/-- The bytes of a number in a width denote it modulo the numbers of that width. -/
theorem toNat_ofNat (width n : Nat) : toNat (ofNat width n) = n % Nat.pow 256 width := by
  induction width generalizing n with
  | zero => simp [ofNat, toNat, Nat.mod_one]
  | succ width ih =>
    have split : Nat.pow 256 (width + 1) = 256 * Nat.pow 256 width := Nat.pow_succ'
    rw [ofNat, toNat_append_singleton, ih, UInt8.toNat_ofNat', split, Nat.mod_mul, Nat.add_comm]

end Bytes

/-- Two hundred and fifty-six bits. -/
abbrev Word := BitVec 256

/-- The number of words. -/
def Word.size : Nat := 0x10000000000000000000000000000000000000000000000000000000000000000

/-- The thirty-two bytes of a word. -/
def Word.toBytes (w : Word) : Bytes :=
  Bytes.ofNat 32 w.toNat

/-- The word of the bytes, of which the last thirty-two count. -/
def Word.ofBytes (bytes : Bytes) : Word :=
  BitVec.ofNat 256 (Bytes.toNat bytes)

/-- The number of a word is below the number of words. -/
theorem Word.toNat_lt_size (w : Word) : w.toNat < Word.size :=
  w.isLt

/-- A number below the number of words is the number of its word. -/
theorem Word.toNat_ofNat_of_lt {n : Nat} (h : n < Word.size) : (BitVec.ofNat 256 n).toNat = n := by
  rw [BitVec.toNat_ofNat]
  exact Nat.mod_eq_of_lt h

/-- A word takes 32 bytes. -/
@[simp] theorem Word.length_toBytes (w : Word) : w.toBytes.length = 32 :=
  Bytes.length_ofNat 32 _

/-- A word is read from its own bytes. -/
@[simp] theorem Word.ofBytes_toBytes (w : Word) : Word.ofBytes w.toBytes = w := by
  apply BitVec.eq_of_toNat_eq
  have h := w.isLt
  rw [Word.ofBytes, Word.toBytes, Bytes.toNat_ofNat, BitVec.toNat_ofNat, Nat.pow_eq]
  omega

end ContractHarness
