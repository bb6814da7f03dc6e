import ContractHarness.Keccak
import ContractHarness.Text.Hex
import ContractHarness.Text.Utf8

/-!
# Addresses

An account or a contract is known by 160 bits. An address is shown in mixed case: a letter of its
hexadecimal form is a capital where the corresponding digit of the hash of that form is eight or
more, so that most misprints can be told from the letters alone.
-/

set_option autoImplicit false

namespace ContractHarness

/-- The address of an account or a contract. -/
structure Address where
  bits : BitVec 160
deriving DecidableEq, Repr

namespace Address

/-- The number of addresses. -/
def size : Nat := 0x10000000000000000000000000000000000000000

/-- The address with the given number, taken modulo `size`. -/
def ofNat (n : Nat) : Address :=
  ⟨BitVec.ofNat 160 n⟩

/-- The number of an address. -/
def toNat (a : Address) : Nat :=
  a.bits.toNat

/-- The address that belongs to nobody. -/
def zero : Address := ofNat 0

/-- The twenty bytes of an address. -/
def toBytes (a : Address) : Bytes :=
  Bytes.ofNat 20 a.toNat

/-- The address of the last twenty bytes. -/
def ofBytes (bytes : Bytes) : Address :=
  ofNat (Bytes.toNat bytes)

/-- The forty lowercase digits of an address. -/
def digits (a : Address) : List Char :=
  Hex.ofNat 40 a.toNat

/-- The lowercase form of an address. -/
def hex (a : Address) : String :=
  Hex.prefixed a.digits

/-- Capitalises the letters that stand over a hash digit of eight or more. -/
def capitalise (digits hashDigits : List Char) : List Char :=
  List.zipWith (fun c h => if (Hex.digitValue? h).any (8 ≤ ·) then c.toUpper else c)
    digits hashDigits

/-- The form in which an address is shown. -/
def checksummed (a : Address) : String :=
  let hash := keccak256 (a.digits.flatMap String.utf8EncodeChar)
  Hex.prefixed (capitalise a.digits (Hex.ofNat 64 hash.toNat))

/-- Reads forty digits in any letter case as an address. -/
def ofDigits? (digits : List Char) : Option Address :=
  if digits.length = 40 then (Hex.toNat? digits).map ofNat else none

/-- The address of a number has that number modulo the number of addresses. -/
@[simp] theorem toNat_ofNat (n : Nat) : (ofNat n).toNat = n % size := by
  simp [ofNat, toNat, size]

/-- An address is the address of its number. -/
@[simp] theorem ofNat_toNat (a : Address) : ofNat a.toNat = a := by
  simp [ofNat, toNat]

/-- The number of an address is below the number of addresses. -/
theorem toNat_lt (a : Address) : a.toNat < size :=
  a.bits.isLt

/-- Addresses are told apart by their numbers. -/
theorem toNat_inj {a b : Address} : a.toNat = b.toNat ↔ a = b := by
  constructor
  · intro h
    rw [← ofNat_toNat a, ← ofNat_toNat b, h]
  · rintro rfl
    rfl

/-- An address takes twenty bytes. -/
@[simp] theorem length_toBytes (a : Address) : a.toBytes.length = 20 :=
  Bytes.length_ofNat 20 _

end Address

/-- The hash of a transaction, or any other fixed value of thirty-two bytes. -/
abbrev Hash := Word

/-- The full lowercase form of a hash. -/
def Hash.hex (h : Hash) : String :=
  Hex.prefixed (Hex.ofNat 64 h.toNat)

/-- Reads sixty-four digits in any letter case as a hash. -/
def Hash.ofDigits? (digits : List Char) : Option Hash :=
  if digits.length = 64 then (Hex.toNat? digits).map (BitVec.ofNat 256) else none

end ContractHarness
