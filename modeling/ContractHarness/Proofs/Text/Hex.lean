import ContractHarness.Bytes
import ContractHarness.Text.Hex

/-!
# Hexadecimal digits of numbers

A number that fits into some bytes has the same digits as those bytes.
-/

set_option autoImplicit false

namespace ContractHarness.Hex

/-- A number of one digit has zeros before it. -/
theorem ofNat_of_lt {n : Nat} (h : n < 16) (width : Nat) :
    ofNat (width + 1) n = List.replicate width '0' ++ [Nat.digitChar n] := by
  unfold ofNat
  rw [Nat.toDigits_of_lt_base h]
  rfl

/-- The last digit of a number stands behind the digits of the number without it. -/
theorem ofNat_succ (width n : Nat) :
    ofNat (width + 2) n = ofNat (width + 1) (n / 16) ++ [Nat.digitChar (n % 16)] := by
  by_cases h : n < 16
  · have hzero : n / 16 = 0 := Nat.div_eq_of_lt h
    rw [ofNat_of_lt h, hzero, ofNat_of_lt (by decide), Nat.mod_eq_of_lt h,
      List.replicate_succ']
    rfl
  · have hdigits := Nat.toDigits_of_base_le (b := 16) (by decide) (Nat.le_of_not_lt h)
    unfold ofNat
    rw [hdigits]
    dsimp only
    have hpadding : width + 2 - ((Nat.toDigits 16 (n / 16)).length + 1) =
        width + 1 - (Nat.toDigits 16 (n / 16)).length := by omega
    rw [List.length_append, List.length_singleton, hpadding, List.append_assoc]

/-- A byte is shown by the digits of its two halves. -/
theorem ofByte_ofNat (n : Nat) :
    ofByte (UInt8.ofNat n) = [Nat.digitChar (n / 16 % 16), Nat.digitChar (n % 16)] := by
  have hhigh : n % 256 / 16 = n / 16 % 16 := by omega
  have hlow : n % 256 % 16 = n % 16 := by omega
  unfold ofByte
  rw [UInt8.toNat_ofNat', hhigh, hlow]

/-- The last byte of a number gives its last two digits. -/
theorem ofBytes_ofNat_succ (width n : Nat) : ofBytes (Bytes.ofNat (width + 1) n) =
    ofBytes (Bytes.ofNat width (n / 256)) ++
      [Nat.digitChar (n / 16 % 16), Nat.digitChar (n % 16)] := by
  unfold ofBytes
  rw [Bytes.ofNat, List.flatMap_append, List.flatMap_singleton, ofByte_ofNat]

/-- A number that fits into bytes has their digits. -/
theorem ofBytes_ofNat (width : Nat) {n : Nat} (h : n < Nat.pow 256 (width + 1)) :
    ofBytes (Bytes.ofNat (width + 1) n) = ofNat (2 * width + 2) n := by
  induction width generalizing n with
  | zero =>
    have hbyte : n < 256 := h
    have hhigh : n / 16 < 16 := by omega
    rw [ofBytes_ofNat_succ, ofNat_succ, ofNat_of_lt hhigh, Nat.mod_eq_of_lt hhigh]
    rfl
  | succ width ih =>
    have hrest : n / 256 < Nat.pow 256 (width + 1) := by
      rw [Nat.pow_eq] at h ⊢
      rw [Nat.pow_succ] at h
      exact Nat.div_lt_of_lt_mul (by omega)
    have hdivide : n / 16 / 16 = n / 256 := Nat.div_div_eq_div_mul n 16 16
    have hdigits : ofNat (2 * (width + 1) + 2) n = ofNat (2 * width + 2) (n / 256) ++
        [Nat.digitChar (n / 16 % 16)] ++ [Nat.digitChar (n % 16)] := by
      rw [← hdivide, ← ofNat_succ (2 * width + 1) (n / 16)]
      exact ofNat_succ (2 * width + 2) n
    rw [ofBytes_ofNat_succ, ih hrest, hdigits, List.append_assoc]
    rfl

end ContractHarness.Hex
