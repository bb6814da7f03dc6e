import ContractHarness.BigNumber.Basic

/-!
# The integers that big numbers denote

Words, signed words, machine integers and addresses become big numbers without a change of value:
also the least signed word and the least machine integer, which have no positive counterpart of the
same width.
-/

set_option autoImplicit false

namespace ContractHarness.BigNumber

/-- A sign and a magnitude stand for the magnitude or its opposite. -/
theorem toInt_ofSign (negative : Bool) (magnitude : Word) : (ofSign negative magnitude).toInt =
    if negative then -(magnitude.toNat : Int) else magnitude.toNat := by
  unfold ofSign toInt
  dsimp only
  by_cases hzero : magnitude = 0
  · subst hzero
    cases negative <;> rfl
  · have hsign : (magnitude != 0) = true := by simpa using hzero
    simp only [hsign, Bool.and_true]

/-- A word stands for its unsigned number. -/
theorem toInt_ofWord (w : Word) : (ofWord w).toInt = w.toNat :=
  toInt_ofSign false w

/-- A word in two's complement keeps its value. -/
theorem toInt_ofSignedWord (w : Word) : (ofSignedWord w).toInt = w.toInt := by
  have hw := w.isLt
  rw [ofSignedWord, BitVec.toInt_eq_msb_cond]
  cases hmsb : w.msb with
  | false =>
    rw [if_neg (by decide), if_neg (by decide), toInt_ofSign]
    rfl
  | true =>
    have hlarge := hmsb
    rw [BitVec.msb_eq_decide, decide_eq_true_eq] at hlarge
    rw [if_pos rfl, if_pos rfl, toInt_ofSign, if_pos rfl, BitVec.toNat_neg,
      Nat.mod_eq_of_lt (by omega)]
    omega

/-- A machine integer keeps its value. -/
theorem toInt_ofInt64 (n : Int64) : (ofInt64 n).toInt = n.toInt := by
  have hlow := n.le_toInt
  have hhigh := n.toInt_lt
  have hsmall : n.toInt.natAbs < Word.size := by
    have hbound : n.toInt.natAbs ≤ 0x8000000000000000 := by omega
    exact Nat.lt_of_le_of_lt hbound (by decide)
  rw [ofInt64, toInt_ofSign, Word.toNat_ofNat_of_lt hsmall]
  by_cases hnegative : n.toInt < 0
  · rw [decide_eq_true hnegative, if_pos rfl]
    omega
  · rw [decide_eq_false hnegative, if_neg (by decide)]
    omega

/-- A number below the limit stands for itself. -/
theorem toInt_ofNat {n : Nat} (h : n < Word.size) : (ofNat n).toInt = n := by
  rw [ofNat, toInt_ofSign, Word.toNat_ofNat_of_lt h]
  rfl

/-- An address stands for the number of its bits. -/
theorem toInt_ofAddress (a : Address) : (ofAddress a).toInt = a.toNat :=
  toInt_ofNat (Nat.lt_trans a.toNat_lt (by decide))

/-! ## Signs -/

variable {n : BigNumber} {w : Word}

/-- Zero has no sign. -/
theorem magnitude_ne_zero (hnegative : n.negative = true) : n.magnitude.toNat ≠ 0 := by
  intro hzero
  rw [n.zero_unsigned (BitVec.eq_of_toNat_eq hzero)] at hnegative
  cases hnegative

/-- The integers below zero are those of negative numbers. -/
theorem toInt_neg_iff : n.toInt < 0 ↔ n.negative = true := by
  unfold toInt
  cases hnegative : n.negative with
  | false => simp
  | true =>
    have hmagnitude := magnitude_ne_zero hnegative
    rw [if_pos rfl]
    exact iff_of_true (by omega) rfl

/-- A number is no word exactly when it is below zero. -/
theorem toWord?_eq_none_iff : n.toWord? = none ↔ n.toInt < 0 := by
  rw [toInt_neg_iff, toWord?]
  cases n.negative <;> simp

/-- A number is a word exactly when it is the number of the word. -/
theorem toWord?_eq_some_iff : n.toWord? = some w ↔ n = ofWord w := by
  constructor
  · intro h
    unfold toWord? at h
    cases hnegative : n.negative with
    | true =>
      rw [hnegative] at h
      cases h
    | false =>
      rw [hnegative] at h
      cases h
      rw [← toInt_inj, toInt_ofWord, toInt, hnegative]
      rfl
  · rintro rfl
    rfl

end ContractHarness.BigNumber
