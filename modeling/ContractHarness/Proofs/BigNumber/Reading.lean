import ContractHarness.Proofs.BigNumber.Scanning
import ContractHarness.Proofs.Except

/-!
# Reading numerals

Reading takes the texts that are a numeral with blanks around it, as long as the value of the
numeral is below the number of words, and gives that value with the sign of the numeral. No other
text is read.
-/

set_option autoImplicit false

namespace ContractHarness.BigNumber

/-! ## Magnitudes -/

/-- Digits behind a mark are read as their value. -/
theorem readDigits_ok_iff (mark : Mark) {text : String} {digits : List Char} {w : Word} :
    (if digits.isEmpty then .error (.noDigits text)
      else match mark.scan (digits.flatMap String.utf8EncodeChar) with
        | .ok value => .ok (BitVec.ofNat 256 value)
        | .error reason => .error (.badDigits text reason) : Except ReadError Word) = .ok w ↔
      digits ≠ [] ∧ (∀ c ∈ digits, mark.takes c = true) ∧ mark.value digits < Word.size ∧
        w = BitVec.ofNat 256 (mark.value digits) := by
  have hscan (value : Nat) : mark.scan (digits.flatMap String.utf8EncodeChar) = .ok value ↔
      (∀ c ∈ digits, mark.takes c = true) ∧ value = mark.value digits ∧ value < Word.size :=
    Mark.scan_ok_iff
  cases digits with
  | nil => simp
  | cons c digits =>
    rw [List.isEmpty_cons, if_neg (by decide)]
    cases h : mark.scan ((c :: digits).flatMap String.utf8EncodeChar) with
    | error reason =>
      rw [h] at hscan
      constructor
      · intro h
        cases h
      · rintro ⟨-, htaken, hlimit, -⟩
        cases (hscan _).mpr ⟨htaken, rfl, hlimit⟩
    | ok value =>
      obtain ⟨htaken, rfl, hlimit⟩ := (hscan value).mp h
      constructor
      · intro h
        cases h
        exact ⟨List.cons_ne_nil c digits, htaken, hlimit, rfl⟩
      · rintro ⟨-, -, -, rfl⟩
        rfl

/-- The text behind the sign is read exactly when it is a mark with something behind it that may
stand there, of a value within the limit. -/
theorem readMagnitude_ok_iff {text : String} {unsigned : List Char} {w : Word} :
    readMagnitude text unsigned = .ok w ↔ ∃ mark digits, unsigned = Mark.chars mark ++ digits ∧
      digits ≠ [] ∧ (∀ c ∈ digits, mark.takes c = true) ∧ mark.value digits < Word.size ∧
        w = BitVec.ofNat 256 (mark.value digits) := by
  unfold readMagnitude
  dsimp only
  split
  · next digits =>
    refine Iff.trans (readDigits_ok_iff .hex) ?_
    constructor
    · exact fun h => ⟨.hex, digits, rfl, h⟩
    · rintro ⟨mark, digits', hchars, h⟩
      cases mark with
      | decimal =>
        -- The letter of a mark is no decimal digit.
        have hdigits : '0' :: 'x' :: digits = digits' := hchars
        subst hdigits
        cases h.2.1 'x' (by simp)
      | hex =>
        cases hchars
        exact h
      | capitalHex => cases hchars
  · next digits =>
    refine Iff.trans (readDigits_ok_iff .capitalHex) ?_
    constructor
    · exact fun h => ⟨.capitalHex, digits, rfl, h⟩
    · rintro ⟨mark, digits', hchars, h⟩
      cases mark with
      | decimal =>
        have hdigits : '0' :: 'X' :: digits = digits' := hchars
        subst hdigits
        cases h.2.1 'X' (by simp)
      | hex => cases hchars
      | capitalHex =>
        cases hchars
        exact h
  · next hhex hcapital =>
    refine Iff.trans (readDigits_ok_iff .decimal) ?_
    constructor
    · exact fun h => ⟨.decimal, unsigned, rfl, h⟩
    · rintro ⟨mark, digits', hchars, h⟩
      cases mark with
      | decimal =>
        cases hchars
        exact h
      | hex => exact absurd hchars (hhex digits')
      | capitalHex => exact absurd hchars (hcapital digits')

/-! ## Signs -/

namespace Numeral

/-- The number that the numeral denotes, when its value is within the limit. -/
def number (m : Numeral) : BigNumber :=
  ofSign m.negative (BitVec.ofNat 256 m.value)

/-- A minus sign may stand behind no mark. -/
theorem takes_minus (mark : Mark) : mark.takes '-' = false := by
  cases mark <;> rfl

/-- Nothing but the sign of a numeral is a minus sign. -/
theorem negative_eq_true_iff {m : Numeral} {unsigned : List Char} :
    m.chars = '-' :: unsigned ↔ m.negative = true ∧ unsigned = m.mark.chars ++ m.digits := by
  unfold chars
  cases hnegative : m.negative with
  | true => simp [eq_comm]
  | false =>
    simp only [Bool.false_eq_true, if_false, List.nil_append, false_and, iff_false]
    intro hchars
    cases hmark : m.mark with
    | decimal =>
      rw [hmark] at hchars
      have hminus : '-' ∈ m.digits := by
        rw [show m.digits = '-' :: unsigned from hchars]
        exact List.mem_cons_self
      have htaken := m.taken '-' hminus
      rw [takes_minus] at htaken
      cases htaken
    | hex =>
      rw [hmark] at hchars
      cases hchars
    | capitalHex =>
      rw [hmark] at hchars
      cases hchars

end Numeral

/-- What is read is the number of a numeral in the text. -/
theorem read_ok_iff_number {text : String} {n : BigNumber} :
    read text = .ok n ↔ ∃ m : Numeral, m.IsIn text ∧ m.value < Word.size ∧ n = m.number := by
  simp only [Numeral.isIn_iff_trim]
  unfold read
  split
  · next unsigned htrim =>
    rw [Except.map_ok_iff, htrim]
    constructor
    · rintro ⟨w, hread, rfl⟩
      obtain ⟨mark, digits, rfl, hne, htaken, hlimit, rfl⟩ := readMagnitude_ok_iff.mp hread
      exact ⟨⟨true, mark, digits, hne, htaken⟩, rfl, hlimit, rfl⟩
    · rintro ⟨m, hchars, hlimit, rfl⟩
      obtain ⟨hnegative, hunsigned⟩ := Numeral.negative_eq_true_iff.mp hchars.symm
      refine ⟨BitVec.ofNat 256 m.value, readMagnitude_ok_iff.mpr ⟨m.mark, m.digits, hunsigned,
        m.digits_ne_nil, m.taken, hlimit, rfl⟩, ?_⟩
      rw [Numeral.number, hnegative]
  · next hunsigned =>
    rw [Except.map_ok_iff]
    constructor
    · rintro ⟨w, hread, rfl⟩
      obtain ⟨mark, digits, htrim, hne, htaken, hlimit, rfl⟩ := readMagnitude_ok_iff.mp hread
      exact ⟨⟨false, mark, digits, hne, htaken⟩, htrim, hlimit, rfl⟩
    · rintro ⟨m, htrim, hlimit, rfl⟩
      have hnegative : m.negative = false := by
        cases h : m.negative with
        | false => rfl
        | true =>
          have hchars := Numeral.negative_eq_true_iff.mpr ⟨h, rfl⟩
          exact absurd (htrim.trans hchars) (hunsigned _)
      refine ⟨BitVec.ofNat 256 m.value, readMagnitude_ok_iff.mpr ⟨m.mark, m.digits, ?_,
        m.digits_ne_nil, m.taken, hlimit, rfl⟩, ?_⟩
      · rw [htrim, Numeral.chars, hnegative]
        rfl
      · rw [Numeral.number, hnegative]

/-- The number of a numeral is the one with its value, and with its sign unless that is zero. -/
theorem eq_number_iff {m : Numeral} {n : BigNumber} (h : m.value < Word.size) :
    n = m.number ↔ n.magnitude.toNat = m.value ∧
      (n.negative = true ↔ m.negative = true ∧ m.value ≠ 0) := by
  have hword := Word.toNat_ofNat_of_lt h
  have hzero : (BitVec.ofNat 256 m.value != 0) = true ↔ m.value ≠ 0 := by
    rw [bne_iff_ne, ne_eq, ← BitVec.toNat_inj, hword]
    rfl
  constructor
  · rintro rfl
    refine ⟨hword, ?_⟩
    rw [Numeral.number, ofSign, Bool.and_eq_true, hzero]
  · rintro ⟨hmagnitude, hnegative⟩
    obtain ⟨negative, magnitude, zero_unsigned⟩ := n
    have hmagnitude : magnitude = BitVec.ofNat 256 m.value := by
      apply BitVec.eq_of_toNat_eq
      rw [hword]
      exact hmagnitude
    subst hmagnitude
    have hnegative : negative = (m.negative && BitVec.ofNat 256 m.value != 0) := by
      rw [Bool.eq_iff_iff, Bool.and_eq_true, hzero]
      exact hnegative
    subst hnegative
    rfl

/-- A text is read exactly when it is a numeral with blanks around it, the value of which is below
the number of words. What is read has that value, and it is negative when the numeral is and the
value is not zero. -/
theorem read_ok_iff (text : String) :
    (∀ n, read text = .ok n ↔ ∃ m : Numeral, m.IsIn text ∧ m.value < Word.size ∧
      n.magnitude.toNat = m.value ∧ (n.negative = true ↔ m.negative = true ∧ m.value ≠ 0)) ∧
    ((∃ e, read text = .error e) ↔ ¬ ∃ m : Numeral, m.IsIn text ∧ m.value < Word.size) := by
  constructor
  · intro n
    rw [read_ok_iff_number]
    constructor
    · rintro ⟨m, hin, hlimit, hn⟩
      exact ⟨m, hin, hlimit, (eq_number_iff hlimit).mp hn⟩
    · rintro ⟨m, hin, hlimit, hn⟩
      exact ⟨m, hin, hlimit, (eq_number_iff hlimit).mpr hn⟩
  · cases hread : read text with
    | error e =>
      refine ⟨fun _ => ?_, fun _ => ⟨e, rfl⟩⟩
      rintro ⟨m, hin, hlimit⟩
      cases hread.symm.trans (read_ok_iff_number.mpr ⟨m, hin, hlimit, rfl⟩)
    | ok n =>
      obtain ⟨m, hin, hlimit, -⟩ := read_ok_iff_number.mp hread
      constructor
      · rintro ⟨e, h⟩
        cases h
      · exact fun h => absurd ⟨m, hin, hlimit⟩ h

end ContractHarness.BigNumber
