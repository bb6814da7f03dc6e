import ContractHarness.Proofs.BigNumber.Forms

/-!
# The number in the text of an address

The capitals of an address are a check on its digits and no part of their value: the text in which
an address is shown is read as the number of the address, and no other address has the same text.
-/

set_option autoImplicit false

namespace ContractHarness

namespace Hex

/-- A digit has the same value in both letter cases. -/
theorem digitValue?_toUpper {c : Char} (h : isDigit c = true) :
    digitValue? c.toUpper = digitValue? c := by
  obtain ⟨d, hd⟩ := Option.isSome_iff_exists.mp h
  have hbound := (BigNumber.Mark.digitValue?_bounds hd).2.1
  -- Only the first 128 characters can be digits, so there is a last one to try.
  have hcases : ∀ n < 0x80, digitValue? (Char.ofNat n).toUpper = digitValue? (Char.ofNat n) := by
    decide
  have hc := hcases c.toNat hbound
  rwa [Char.ofNat_toNat] at hc

/-- A number is written in hexadecimal digits. -/
theorem isDigit_of_mem_toDigits {n : Nat} {c : Char} (h : c ∈ Nat.toDigits 16 n) :
    isDigit c = true :=
  Option.isSome_iff_exists.mpr (@BigNumber.Mark.exists_digit?_of_mem_toDigits .hex _ _ h)

/-- A number is written in hexadecimal digits, with zeros in front of it too. -/
theorem isDigit_of_mem_ofNat {width n : Nat} {c : Char} (h : c ∈ ofNat width n) :
    isDigit c = true := by
  rcases List.mem_append.mp h with h | h
  · rw [List.eq_of_mem_replicate h]
    rfl
  · exact isDigit_of_mem_toDigits h

/-- Characters of the values that digits have are digits. -/
theorem isDigit_of_map_eq {left right : List Char}
    (h : left.map digitValue? = right.map digitValue?) (hright : ∀ c ∈ right, isDigit c = true) :
    ∀ c ∈ left, isDigit c = true := by
  intro c hc
  have hmem := List.mem_map_of_mem (f := digitValue?) hc
  rw [h] at hmem
  obtain ⟨digit, hdigit, hsame⟩ := List.mem_map.mp hmem
  rw [isDigit, ← hsame]
  exact hright digit hdigit

/-- A number that is written in a width has that many digits at least. -/
theorem le_length_ofNat (width n : Nat) : width ≤ (ofNat width n).length := by
  rw [ofNat, List.length_append, List.length_replicate]
  omega

end Hex

namespace Address

/-- Every digit keeps its value when letters are capitalised. -/
theorem map_digitValue?_capitalise {digits hash : List Char}
    (hdigits : ∀ c ∈ digits, Hex.isDigit c = true) (hlength : digits.length ≤ hash.length) :
    (capitalise digits hash).map Hex.digitValue? = digits.map Hex.digitValue? := by
  induction digits generalizing hash with
  | nil => rfl
  | cons c digits ih =>
    rw [List.forall_mem_cons] at hdigits
    cases hash with
    | nil => cases hlength
    | cons h hash =>
      have hfirst : Hex.digitValue?
          (if (Hex.digitValue? h).any (8 ≤ ·) then c.toUpper else c) = Hex.digitValue? c := by
        split
        · exact Hex.digitValue?_toUpper hdigits.1
        · rfl
      have hrest := ih hdigits.2 (Nat.le_of_succ_le_succ hlength)
      rw [capitalise, List.zipWith_cons_cons, List.map_cons, hfirst, List.map_cons]
      exact congrArg _ hrest

/-- An address has forty digits. -/
theorem length_digits (a : Address) : a.digits.length = 40 := by
  have hshort : (Nat.toDigits 16 a.toNat).length ≤ 40 :=
    (Nat.length_toDigits_le_iff (by decide) (by decide)).mpr a.toNat_lt
  rw [digits, Hex.ofNat, List.length_append, List.length_replicate]
  omega

/-- An address is written in hexadecimal digits. -/
theorem isDigit_of_mem_digits {a : Address} {c : Char} (h : c ∈ a.digits) :
    Hex.isDigit c = true :=
  Hex.isDigit_of_mem_ofNat h

/-- An address is shown with its digits, some of them capitals. -/
theorem exists_checksummed_eq (a : Address) : ∃ digits, a.checksummed = Hex.prefixed digits ∧
    digits.map Hex.digitValue? = a.digits.map Hex.digitValue? := by
  refine ⟨_, rfl, map_digitValue?_capitalise (fun _ => isDigit_of_mem_digits) ?_⟩
  calc a.digits.length ≤ 64 := by rw [length_digits]; decide
    _ ≤ _ := Hex.le_length_ofNat 64 _

end Address

namespace BigNumber

/-- Digits of the same values denote the same number. -/
theorem Mark.value_congr (mark : Mark) {left right : List Char}
    (h : left.map mark.digit? = right.map mark.digit?) : mark.value left = mark.value right := by
  have hdigits (digits : List Char) :
      digits.filterMap mark.digit? = (digits.map mark.digit?).filterMap id := by
    rw [List.filterMap_map]
    rfl
  rw [value, value, hdigits left, hdigits right, h]

/-- The digits of an address denote its number. -/
theorem Mark.value_digits (a : Address) : Mark.hex.value a.digits = a.toNat := by
  rw [Address.digits, Hex.ofNat, value_replicate_append]
  exact value_toDigits .hex _

/-- Digits of the same values as those of an address are read as its number. -/
theorem read_prefixed {a : Address} {digits : List Char}
    (hmap : digits.map Hex.digitValue? = a.digits.map Hex.digitValue?) :
    read (Hex.prefixed digits) = .ok (ofAddress a) := by
  have hne : digits ≠ [] := by
    rintro rfl
    have hforty := a.length_digits
    rw [List.map_nil, eq_comm, List.map_eq_nil_iff] at hmap
    rw [hmap] at hforty
    cases hforty
  have htaken : ∀ c ∈ digits, Mark.hex.takes c = true := by
    intro c hc
    have hdigit := Hex.isDigit_of_map_eq hmap (fun _ => Address.isDigit_of_mem_digits) c hc
    obtain ⟨d, hd⟩ := Option.isSome_iff_exists.mp hdigit
    exact Mark.takes_of_digit? hd
  have hvalue : Mark.hex.value digits = (ofAddress a).magnitude.toNat := by
    have hsmall := Word.toNat_ofNat_of_lt (Nat.lt_trans a.toNat_lt (by decide))
    exact (Mark.value_congr .hex hmap).trans ((Mark.value_digits a).trans hsmall.symm)
  refine read_of_digits hne htaken hvalue ?_
  rw [Hex.prefixed, String.toList_ofList]
  rfl

/-- The text of an address is read as its number. -/
theorem read_checksummed (a : Address) : read a.checksummed = .ok (ofAddress a) := by
  obtain ⟨digits, htext, hmap⟩ := a.exists_checksummed_eq
  rw [htext, read_prefixed hmap]

end BigNumber

/-- Addresses with the same text are the same. -/
theorem Address.checksummed_inj {a b : Address} : a.checksummed = b.checksummed ↔ a = b := by
  constructor
  · intro h
    have hnumber := BigNumber.eq_of_read (BigNumber.read_checksummed a)
      (BigNumber.read_checksummed b) h
    rw [← BigNumber.toInt_inj, BigNumber.toInt_ofAddress, BigNumber.toInt_ofAddress,
      Int.ofNat_inj] at hnumber
    exact Address.toNat_inj.mp hnumber
  · rintro rfl
    rfl

end ContractHarness
