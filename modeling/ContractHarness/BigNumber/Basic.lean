import ContractHarness.Address

/-!
# Big numbers

Signed integers whose magnitude fits a word: wide enough for every value that comes back from the
chain, signed or not. Zero has no sign, so that equal integers are equal numbers (`toInt_inj`).
-/

set_option autoImplicit false

namespace ContractHarness

/-- An integer with a magnitude below `2 ^ 256`. -/
structure BigNumber where
  negative : Bool
  magnitude : Word
  zero_unsigned : magnitude = 0 → negative = false
deriving DecidableEq

namespace BigNumber

/-- The number with a sign and a magnitude; the sign of zero is dropped. -/
def ofSign (negative : Bool) (magnitude : Word) : BigNumber where
  negative := negative && magnitude != 0
  magnitude := magnitude
  zero_unsigned := by rintro rfl; simp

/-- The number zero. -/
def zero : BigNumber := ofSign false 0

/-- Zero is the number where none is given. -/
instance : Inhabited BigNumber := ⟨zero⟩

/-- The integer that the number denotes. -/
def toInt (n : BigNumber) : Int :=
  if n.negative then -(n.magnitude.toNat : Int) else n.magnitude.toNat

/-- The number as an unsigned word, if it is not negative. -/
def toWord? (n : BigNumber) : Option Word :=
  if n.negative then none else some n.magnitude

/-- An unsigned word as a number. -/
def ofWord (w : Word) : BigNumber :=
  ofSign false w

/-- A word in two's complement as a number. -/
def ofSignedWord (w : Word) : BigNumber :=
  if w.msb then ofSign true (-w) else ofSign false w

/-- A signed integer of 64 bits as a number. -/
def ofInt64 (n : Int64) : BigNumber :=
  ofSign (n.toInt < 0) (BitVec.ofNat 256 n.toInt.natAbs)

/-- A natural number below `2 ^ 256` as a number. -/
def ofNat (n : Nat) : BigNumber :=
  ofSign false (BitVec.ofNat 256 n)

/-- The number of an address. -/
def ofAddress (a : Address) : BigNumber :=
  ofNat a.toNat

/-- The decimal form, with a minus sign when negative. -/
def decimal (n : BigNumber) : String :=
  (if n.negative then "-" else "") ++ n.magnitude.toNat.repr

/-- Hexadecimal digits filled up to whole bytes. -/
def evenDigits (digits : List Char) : List Char :=
  if digits.length % 2 = 1 then '0' :: digits else digits

/-- The hexadecimal form: whole bytes behind `0x`, with a minus sign in front when negative. -/
def hex (n : BigNumber) : String :=
  (if n.negative then "-" else "") ++
    Hex.prefixed (evenDigits (Nat.toDigits 16 n.magnitude.toNat))

/-- Numbers are shown as their decimals. -/
instance : Repr BigNumber := ⟨fun n _ => n.decimal⟩

/-- A number is determined by the integer that it stands for. -/
theorem toInt_inj {a b : BigNumber} : a.toInt = b.toInt ↔ a = b := by
  constructor
  · obtain ⟨sa, ma, ha⟩ := a
    obtain ⟨sb, mb, hb⟩ := b
    intro h
    simp only [toInt] at h
    have zero_iff (w : Word) : w = 0 ↔ w.toNat = 0 := by
      constructor
      · rintro rfl; rfl
      · intro h; exact BitVec.eq_of_toNat_eq h
    have magnitudes : ma = mb := by
      apply BitVec.eq_of_toNat_eq
      cases sa <;> cases sb <;> simp at h <;> omega
    subst magnitudes
    have signs : sa = sb := by
      rw [zero_iff] at ha hb
      cases sa <;> cases sb <;> simp only [Bool.false_eq_true, if_true, if_false] at h <;>
        first
        | rfl
        | exact ha (by omega)
        | exact (hb (by omega)).symm
    subst signs
    rfl
  · rintro rfl
    rfl

end BigNumber

end ContractHarness
