import ContractHarness.Metatoken
import ContractHarness.Proofs.BigNumber.Integers

/-!
# The number of a metatoken

A word has 160 bits for the address of a contract above 96 for the number of a token. The number of
a metatoken is there exactly when the number of the token has no more bits than that, and then both
parts can be read off again. So the sum of the parts never leaves the word, and what is a number of
one metatoken is not that of another.
-/

set_option autoImplicit false

namespace ContractHarness.Metatoken

variable {contract : Address} {token : BigNumber} {a b w : Word}

/-! ## The two parts of a word -/

/-- How many numbers of tokens there are beside one address. -/
def tokenCount : Nat := 0x1000000000000000000000000

/-- The mask is the largest number of a token. -/
theorem toNat_tokenMask : tokenMask.toNat = tokenCount - 1 := by decide

/-- The address stands above all the numbers of tokens. -/
theorem toNat_category (contract : Address) :
    (category contract).toNat = contract.toNat * tokenCount := by
  have hlimit : contract.toNat < Address.size := contract.toNat_lt
  have hsizes : Address.size * tokenCount = Word.size := by decide
  have hword : contract.toNat < Word.size := Nat.lt_trans hlimit (by decide)
  have hshifted : contract.toNat * tokenCount < Word.size := by
    rw [← hsizes]
    exact Nat.mul_lt_mul_of_pos_right hlimit (by decide)
  rw [category, BitVec.toNat_shiftLeft, Word.toNat_ofNat_of_lt hword, Nat.shiftLeft_eq]
  exact Nat.mod_eq_of_lt hshifted

/-- The upper bits of a word. -/
theorem toNat_shiftRight_addressShift (w : Word) : (w >>> 96).toNat = w.toNat / tokenCount := by
  rw [BitVec.toNat_ushiftRight, Nat.shiftRight_eq_div_pow]
  rfl

/-- The lower bits of a word. -/
theorem toNat_and_tokenMask (w : Word) : (w &&& tokenMask).toNat = w.toNat % tokenCount := by
  rw [BitVec.toNat_and, toNat_tokenMask]
  exact Nat.and_two_pow_sub_one_eq_mod w.toNat 96

/-- The part below an address has room in the word. -/
theorem category_add_lt (hw : w.toNat < tokenCount) :
    (category contract).toNat + w.toNat < Word.size := by
  have hlimit : contract.toNat + 1 ≤ Address.size := contract.toNat_lt
  have hsizes : Address.size * tokenCount = Word.size := by decide
  calc (category contract).toNat + w.toNat
      < contract.toNat * tokenCount + tokenCount := by
        rw [toNat_category]
        exact Nat.add_lt_add_left hw _
    _ = (contract.toNat + 1) * tokenCount := by rw [Nat.succ_mul]
    _ ≤ Address.size * tokenCount := Nat.mul_le_mul_right _ hlimit
    _ = Word.size := hsizes

/-- A sum that fits a word is there. -/
theorem addWords?_of_lt (h : a.toNat + b.toNat < Word.size) : addWords? a b = some (a + b) :=
  if_pos h

/-- A word is put together from an address and a lower part when these are its two parts. -/
theorem category_add_eq_iff (ha : a.toNat < tokenCount) : category contract + a = w ↔
    (w >>> 96).toNat = contract.toNat ∧ w &&& tokenMask = a := by
  rw [← BitVec.toNat_inj, ← BitVec.toNat_inj (x := w &&& tokenMask),
    BitVec.toNat_add_of_lt (category_add_lt ha), toNat_category, toNat_shiftRight_addressShift,
    toNat_and_tokenMask]
  generalize w.toNat = n
  generalize a.toNat = m at ha
  have hpositive : 0 < tokenCount := by decide
  constructor
  · rintro rfl
    rw [Nat.mul_comm, Nat.mul_add_div hpositive, Nat.mul_add_mod, Nat.div_eq_of_lt ha,
      Nat.mod_eq_of_lt ha]
    exact ⟨rfl, rfl⟩
  · rintro ⟨hhigh, hlow⟩
    rw [← hhigh, ← hlow, Nat.div_add_mod']

/-! ## Numbers of metatokens -/

/-- What comes of an address and the number of a token. -/
inductive Packs (contract : Address) (token : BigNumber) : Except IdError Word → Prop
  | negative (below : token.toInt < 0) : Packs contract token (.error (.negative token))
  | tooLarge (beyond : tokenCount ≤ token.toInt) : Packs contract token (.error (.tooLarge token))
  | packed {part : Word} (token_eq : token = .ofWord part) (within : part.toNat < tokenCount) :
    Packs contract token (.ok (category contract + part))

/-- The number of a metatoken is packed, or refused for the number of the token alone. -/
theorem packs_id (contract : Address) (token : BigNumber) :
    Packs contract token (id contract token) := by
  unfold id
  cases hword : token.toWord? with
  | none => exact .negative (BigNumber.toWord?_eq_none_iff.mp hword)
  | some part =>
    have htoken : token = .ofWord part := BigNumber.toWord?_eq_some_iff.mp hword
    dsimp only
    by_cases hlarge : tokenMask < part
    · rw [if_pos hlarge]
      rw [BitVec.lt_def, toNat_tokenMask] at hlarge
      refine .tooLarge ?_
      rw [htoken, BigNumber.toInt_ofWord]
      omega
    · rw [if_neg hlarge]
      rw [BitVec.lt_def, toNat_tokenMask] at hlarge
      have hwithin : part.toNat < tokenCount := by
        have hpositive : 0 < tokenCount := by decide
        omega
      rw [addWords?_of_lt (category_add_lt hwithin)]
      exact .packed htoken hwithin

/-- Each of the outcomes has its range of numbers, and the sum is never too large. -/
theorem Packs.outcome {result : Except IdError Word} (h : Packs contract token result) :
    ((∃ w, result = .ok w) ↔ 0 ≤ token.toInt ∧ token.toInt ≤ tokenCount - 1) ∧
      (result = .error (.negative token) ↔ token.toInt < 0) ∧
      (result = .error (.tooLarge token) ↔ tokenCount - 1 < token.toInt) ∧
      result ≠ .error .overflow := by
  cases h with
  | negative below =>
    refine ⟨?_, iff_of_true rfl below, ?_, nofun⟩
    · exact iff_of_false nofun (by omega)
    · exact iff_of_false nofun (by omega)
  | tooLarge beyond =>
    refine ⟨?_, ?_, iff_of_true rfl (by omega), nofun⟩
    · exact iff_of_false nofun (by omega)
    · exact iff_of_false nofun (by omega)
  | packed token_eq within =>
    rw [token_eq, BigNumber.toInt_ofWord]
    refine ⟨iff_of_true ⟨_, rfl⟩ (by omega), ?_, ?_, nofun⟩
    · exact iff_of_false nofun (by omega)
    · exact iff_of_false nofun (by omega)

/-- A word is the number of a metatoken when its upper bits are the address and its lower bits the
number of the token. -/
theorem id_ok_iff : id contract token = .ok w ↔
    (w >>> 96).toNat = contract.toNat ∧ .ofWord (w &&& tokenMask) = token := by
  have hpart : (BigNumber.ofWord (w &&& tokenMask)).toInt < tokenCount := by
    rw [BigNumber.toInt_ofWord, toNat_and_tokenMask, Int.ofNat_lt]
    exact Nat.mod_lt _ (by decide)
  have hpacks := packs_id contract token
  generalize id contract token = result at hpacks
  cases hpacks with
  | negative below =>
    refine iff_of_false nofun ?_
    rintro ⟨-, rfl⟩
    rw [BigNumber.toInt_ofWord] at below
    omega
  | tooLarge beyond =>
    refine iff_of_false nofun ?_
    rintro ⟨-, rfl⟩
    omega
  | @packed part token_eq within =>
    rw [Except.ok.injEq, category_add_eq_iff within, token_eq, ← BigNumber.toInt_inj,
      BigNumber.toInt_ofWord, BigNumber.toInt_ofWord, Int.ofNat_inj, BitVec.toNat_inj]

/-- Two metatokens have the same number exactly when both of their parts are the same. -/
theorem id_eq_iff {other : Address} {otherToken : BigNumber} {v : Word}
    (hw : id contract token = .ok w) (hv : id other otherToken = .ok v) :
    w = v ↔ contract = other ∧ token = otherToken := by
  constructor
  · rintro rfl
    rw [id_ok_iff] at hw hv
    exact ⟨Address.toNat_inj.mp (hw.1.symm.trans hv.1), hw.2.symm.trans hv.2⟩
  · rintro ⟨rfl, rfl⟩
    exact Except.ok.inj (hw.symm.trans hv)

/-- A metatoken has a number exactly when that of the token is not negative and fits 96 bits, and
the sum of the parts never leaves the word. The number is the word that has the address above its
lower 96 bits and the number of the token in them, and no other metatoken has it. -/
theorem id_packs (contract : Address) (token : BigNumber) :
    ((∃ w, id contract token = .ok w) ↔ 0 ≤ token.toInt ∧ token.toInt ≤ Nat.pow 2 96 - 1) ∧
      (id contract token = .error (.negative token) ↔ token.toInt < 0) ∧
      (id contract token = .error (.tooLarge token) ↔ Nat.pow 2 96 - 1 < token.toInt) ∧
      id contract token ≠ .error .overflow ∧
      (∀ w, id contract token = .ok w ↔
        (w >>> 96).toNat = contract.toNat ∧ .ofWord (w &&& tokenMask) = token) ∧
      ∀ other otherToken w v, id contract token = .ok w → id other otherToken = .ok v →
        (w = v ↔ contract = other ∧ token = otherToken) := by
  obtain ⟨hok, hnegative, hlarge, hoverflow⟩ := (packs_id contract token).outcome
  exact ⟨hok, hnegative, hlarge, hoverflow, fun w => id_ok_iff, fun _ _ _ _ => id_eq_iff⟩

/-- The last token of the last address has the last number, and the first token another one. -/
theorem id_packs_last :
    id ⟨.allOnes 160⟩ (.ofNat 0xFFFFFFFFFFFFFFFFFFFFFFFF) = .ok (.allOnes 256) ∧
      ∃ v, id ⟨.allOnes 160⟩ .zero = .ok v ∧ BitVec.allOnes 256 ≠ v := by
  have hlast : id ⟨.allOnes 160⟩ (.ofNat 0xFFFFFFFFFFFFFFFFFFFFFFFF) = .ok (.allOnes 256) :=
    id_ok_iff.mpr (by decide)
  obtain ⟨hfirst, -⟩ := id_packs ⟨.allOnes 160⟩ .zero
  obtain ⟨v, hv⟩ := hfirst.mpr (by decide)
  obtain ⟨-, -, -, -, -, hsame⟩ := id_packs ⟨.allOnes 160⟩ (.ofNat 0xFFFFFFFFFFFFFFFFFFFFFFFF)
  refine ⟨hlast, v, hv, fun h => ?_⟩
  obtain ⟨-, htoken⟩ := (hsame _ _ _ _ hlast hv).mp h
  revert htoken
  decide

end ContractHarness.Metatoken
