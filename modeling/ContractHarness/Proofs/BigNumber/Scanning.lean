import ContractHarness.Proofs.BigNumber.Numeral
import ContractHarness.Proofs.Text.Utf8

/-!
# Scanning digits

Decimal digits are scanned from the left and hexadecimal ones from the right, and both scans measure
the value against the limit on the way. A value never falls below the limit again, so that the scans
refuse exactly the values that are too large, wherever they notice it. They see the bytes of the
text. A character that may stand in a numeral is a byte of its own, and the bytes of any other
character stop a scan.
-/

set_option autoImplicit false

namespace ContractHarness.BigNumber

namespace Mark

variable {mark : Mark} {b : UInt8} {bytes : Bytes} {digits : List Char}

/-- The value of a byte as a digit behind the mark. -/
def byteDigit? (mark : Mark) (b : UInt8) : Option Nat :=
  mark.digit? (Char.ofNat b.toNat)

/-- The byte may stand behind the mark. -/
def takesByte (mark : Mark) (b : UInt8) : Bool :=
  b = underscore || (mark.byteDigit? b).isSome

/-! ## Bytes of characters -/

/-- The character with the number of a byte has this number. -/
theorem toNat_ofNat_byte (b : UInt8) : (Char.ofNat b.toNat).toNat = b.toNat := by
  have hb := b.toNat_lt
  unfold Char.ofNat
  rw [dif_pos (.inl (by omega))]
  rfl

/-- The character with the number of a byte is the underscore only for the byte of the underscore.
-/
theorem ofNat_byte_eq_iff (b : UInt8) : Char.ofNat b.toNat = '_' ↔ b = underscore := by
  rw [← Char.toNat_inj, toNat_ofNat_byte, ← UInt8.toNat_inj]
  rfl

/-- A byte may stand behind a mark when the character with its number may. -/
theorem takesByte_eq (mark : Mark) (b : UInt8) :
    mark.takesByte b = mark.takes (Char.ofNat b.toNat) := by
  unfold takesByte takes byteDigit?
  simp only [ofNat_byte_eq_iff]

/-- The bytes of a character may stand behind the mark when the character may. -/
theorem takesByte_encodeChar (mark : Mark) (c : Char) :
    (∀ b ∈ String.utf8EncodeChar c, mark.takesByte b = true) ↔ mark.takes c = true := by
  by_cases h : c.toNat < 0x80
  · have hbyte : (UInt8.ofNat c.toNat).toNat = c.toNat := Utf8.toNat_byte (by omega)
    rw [Utf8.encodeChar_of_lt h, List.forall_mem_singleton, takesByte_eq, hbyte, Char.ofNat_toNat]
  · constructor
    · intro hbytes
      obtain ⟨b, hb⟩ := List.exists_mem_of_ne_nil _ (String.utf8EncodeChar_ne_nil (c := c))
      have hlow := Utf8.le_of_mem_encodeChar (Nat.le_of_not_lt h) hb
      have htakes := hbytes b hb
      rw [takesByte_eq] at htakes
      have hhigh := (takes_bounds htakes).2
      rw [toNat_ofNat_byte] at hhigh
      omega
    · intro htakes
      exact absurd (takes_bounds htakes).2 h

/-- The bytes of characters may stand behind a mark exactly when the characters may, because all of
these are of one byte. -/
theorem takesByte_flatMap (mark : Mark) (digits : List Char) :
    (∀ b ∈ digits.flatMap String.utf8EncodeChar, mark.takesByte b = true) ↔
      ∀ c ∈ digits, mark.takes c = true := by
  rw [List.forall_mem_flatMap]
  simp only [takesByte_encodeChar]

/-- Among characters that may stand behind a mark the bytes give the same digits as the characters.
-/
theorem filterMap_flatMap (h : ∀ c ∈ digits, mark.takes c = true) :
    (digits.flatMap String.utf8EncodeChar).filterMap mark.byteDigit? =
      digits.filterMap mark.digit? := by
  induction digits with
  | nil => rfl
  | cons c digits ih =>
    rw [List.forall_mem_cons] at h
    have hc := (takes_bounds h.1).2
    have hbyte : (UInt8.ofNat c.toNat).toNat = c.toNat := Utf8.toNat_byte (by omega)
    have hdigit : mark.byteDigit? (UInt8.ofNat c.toNat) = mark.digit? c := by
      unfold byteDigit?
      rw [hbyte, Char.ofNat_toNat]
    rw [List.flatMap_cons, Utf8.encodeChar_of_lt hc, List.singleton_append, List.filterMap_cons,
      List.filterMap_cons, hdigit, ih h.2]

/-- An underscore is no digit. -/
theorem byteDigit?_underscore (mark : Mark) : mark.byteDigit? underscore = none := by
  cases mark <;> rfl

/-- A byte that is a digit may stand behind its mark. -/
theorem takesByte_of_digit {d : Nat} (h : mark.byteDigit? b = some d) :
    mark.takesByte b = true := by
  unfold takesByte
  rw [h, Option.isSome_some, Bool.or_true]

/-- A byte that is neither a digit nor an underscore may not stand behind a mark. -/
theorem takesByte_of_none (hb : b ≠ underscore) (h : mark.byteDigit? b = none) :
    mark.takesByte b = false := by
  simp [takesByte, hb, h]

end Mark

/-! ## Decimal digits -/

/-- The reader of decimal digits takes the digits without a mark. -/
theorem decimalDigit?_eq (b : UInt8) : decimalDigit? b = Mark.decimal.byteDigit? b := by
  have hdigit : (Char.ofNat b.toNat).isDigit = (0x30 ≤ b && b ≤ 0x39) := by
    rw [Bool.eq_iff_iff]
    simp only [Char.isDigit, Bool.and_eq_true, decide_eq_true_eq, ge_iff_le,
      UInt32.le_iff_toNat_le, UInt8.le_iff_toNat_le, Char.toNat_val, Mark.toNat_ofNat_byte]
    rfl
  unfold decimalDigit? Mark.byteDigit? Mark.digit?
  dsimp only
  rw [hdigit, Mark.toNat_ofNat_byte]
  rfl

/-- More digits never make a number smaller. -/
theorem le_foldl_decimal (value : Nat) (digits : List Nat) :
    value ≤ digits.foldl (fun value d => 10 * value + d) value := by
  induction digits generalizing value with
  | nil => exact Nat.le_refl value
  | cons d digits ih =>
    have hrest := ih (10 * value + d)
    rw [List.foldl_cons]
    omega

/-- The scan from the left reads digits whose value is within the limit, and no others. -/
theorem scanDecimal_ok_iff {value pending result : Nat} {bytes : Bytes} :
    scanDecimal value pending bytes = .ok result ↔
      (∀ b ∈ bytes, Mark.decimal.takesByte b = true) ∧
        result = (bytes.filterMap Mark.decimal.byteDigit?).foldl (fun value d => 10 * value + d)
          value ∧ result < Word.size := by
  induction bytes generalizing value pending with
  | nil =>
    rw [scanDecimal, List.filterMap_nil, List.foldl_nil]
    split
    · next hwithin =>
      constructor
      · intro h
        cases h
        exact ⟨List.forall_mem_nil _, rfl, hwithin⟩
      · rintro ⟨-, rfl, -⟩
        rfl
    · next hlarge =>
      constructor
      · intro h
        cases h
      · rintro ⟨-, rfl, hwithin⟩
        exact absurd hwithin hlarge
  | cons b bytes ih =>
    rw [scanDecimal, List.forall_mem_cons]
    by_cases hb : b = underscore
    · subst hb
      rw [if_pos rfl, ih, List.filterMap_cons_none Mark.decimal.byteDigit?_underscore]
      simp [Mark.takesByte]
    · rw [if_neg hb, decimalDigit?_eq]
      cases hd : Mark.decimal.byteDigit? b with
      | none => simp [Mark.takesByte_of_none hb hd]
      | some d =>
        dsimp only
        rw [Mark.takesByte_of_digit hd, List.filterMap_cons_some hd, List.foldl_cons]
        split
        · rw [ih]
          simp
        · split
          · rw [ih]
            simp
          · next hlarge =>
            -- The scan has stopped early, and the digits that it has not seen add to the value.
            have hle := le_foldl_decimal (10 * value + d) (bytes.filterMap Mark.decimal.byteDigit?)
            constructor
            · intro h
              cases h
            · rintro ⟨-, rfl, hwithin⟩
              exact absurd (Nat.lt_of_le_of_lt hle hwithin) hlarge

/-! ## Hexadecimal digits -/

/-- The number that digits denote, the first digit the least significant. -/
def fromRight (digits : List Nat) : Nat :=
  digits.foldr (fun d value => 16 * value + d) 0

/-- The first digit of a number that is read from the right is the least one. -/
theorem fromRight_cons (d : Nat) (digits : List Nat) :
    fromRight (d :: digits) = 16 * fromRight digits + d :=
  rfl

/-- Words have 64 hexadecimal digits. -/
theorem size_eq : Nat.pow 16 64 = Word.size := by
  decide

/-- The scan from the right reads digits whose value is within the limit, and no others. -/
theorem scanHex_ok_iff {value place result : Nat} {bytes : Bytes}
    (hplace : value < Nat.pow 16 place) (hvalue : value < Word.size) :
    scanHex value place bytes = .ok result ↔
      (∀ b ∈ bytes, Mark.hex.takesByte b = true) ∧
        result = value + Nat.pow 16 place * fromRight (bytes.filterMap Mark.hex.byteDigit?) ∧
          result < Word.size := by
  induction bytes generalizing value place with
  | nil =>
    have hsum : value + Nat.pow 16 place * fromRight [] = value := rfl
    rw [scanHex, List.filterMap_nil, hsum]
    constructor
    · intro h
      cases h
      exact ⟨List.forall_mem_nil _, rfl, hvalue⟩
    · rintro ⟨-, rfl, -⟩
      rfl
  | cons b bytes ih =>
    rw [scanHex, List.forall_mem_cons]
    by_cases hb : b = underscore
    · subst hb
      rw [if_pos rfl, ih hplace hvalue, List.filterMap_cons_none Mark.hex.byteDigit?_underscore]
      simp [Mark.takesByte]
    · have hdigit : hexDigit? b = Mark.hex.byteDigit? b := rfl
      rw [if_neg hb, hdigit]
      cases hd : Mark.hex.byteDigit? b with
      | none => simp [Mark.takesByte_of_none hb hd]
      | some d =>
        have hradix : d < 16 := (Mark.digit?_bounds hd).2.2
        have hnext : Nat.pow 16 (place + 1) = 16 * Nat.pow 16 place := Nat.pow_succ'
        dsimp only
        rw [Mark.takesByte_of_digit hd, List.filterMap_cons_some hd, fromRight_cons]
        split
        · next hlarge =>
          -- The digit alone is beyond the limit, whatever stands further to the left.
          have hpower : Nat.pow 16 64 ≤ Nat.pow 16 place :=
            Nat.pow_le_pow_right (by decide) hlarge.2
          have hterm : Nat.pow 16 place ≤ Nat.pow 16 place *
              (16 * fromRight (bytes.filterMap Mark.hex.byteDigit?) + d) :=
            Nat.le_mul_of_pos_right _ (by omega)
          rw [size_eq] at hpower
          constructor
          · intro h
            cases h
          · rintro ⟨-, hresult, hlimit⟩
            omega
        · next hsmall =>
          -- The digit is zero or one of the 64 that fit.
          have hdigits : d * Nat.pow 16 place ≤ 15 * Nat.pow 16 place :=
            Nat.mul_le_mul_right _ (by omega)
          have hwithin : value + d * Nat.pow 16 place < Word.size := by
            by_cases hzero : d = 0
            · rw [hzero, Nat.zero_mul]
              exact hvalue
            · have hpower : Nat.pow 16 (place + 1) ≤ Nat.pow 16 64 :=
                Nat.pow_le_pow_right (by decide) (by omega)
              rw [size_eq] at hpower
              omega
          have hsum (rest : Nat) : value + d * Nat.pow 16 place + Nat.pow 16 (place + 1) * rest =
              value + Nat.pow 16 place * (16 * rest + d) := by
            rw [hnext, Nat.mul_add, Nat.mul_left_comm, Nat.mul_assoc, Nat.mul_comm _ d]
            omega
          rw [ih (by omega) hwithin, hsum]
          simp

/-! ## Digits behind a mark -/

/-- The scan of the digits behind a mark. -/
def Mark.scan : Mark → Bytes → Except DigitError Nat
  | .decimal, bytes => scanDecimal 0 0 bytes
  | _, bytes => scanHex 0 0 bytes.reverse

/-- The hexadecimal scan, which starts at the last digit, reads exactly what may stand behind the
mark, of a value within the limit. -/
theorem scanHex_reverse_ok_iff {result : Nat} {bytes : Bytes} :
    scanHex 0 0 bytes.reverse = .ok result ↔
      (∀ b ∈ bytes, Mark.hex.takesByte b = true) ∧
        result = (bytes.filterMap Mark.hex.byteDigit?).foldl (fun value d => 16 * value + d) 0 ∧
          result < Word.size := by
  have hdigits : fromRight (bytes.reverse.filterMap Mark.hex.byteDigit?) =
      (bytes.filterMap Mark.hex.byteDigit?).foldl (fun value d => 16 * value + d) 0 := by
    unfold fromRight
    rw [List.filterMap_reverse, List.foldr_reverse]
  rw [scanHex_ok_iff (by decide) (by decide), hdigits]
  simp

/-- A scan takes the digits that may stand behind the mark when their value is within the limit. -/
theorem Mark.scan_ok_iff {mark : Mark} {digits : List Char} {result : Nat} :
    mark.scan (digits.flatMap String.utf8EncodeChar) = .ok result ↔
      (∀ c ∈ digits, mark.takes c = true) ∧ result = mark.value digits ∧ result < Word.size := by
  rw [← takesByte_flatMap]
  have hscan : mark.scan (digits.flatMap String.utf8EncodeChar) = .ok result ↔
      (∀ b ∈ digits.flatMap String.utf8EncodeChar, mark.takesByte b = true) ∧
        result = ((digits.flatMap String.utf8EncodeChar).filterMap mark.byteDigit?).foldl
          (fun value d => mark.radix * value + d) 0 ∧ result < Word.size := by
    cases mark with
    | decimal => exact scanDecimal_ok_iff
    | hex => exact scanHex_reverse_ok_iff
    | capitalHex => exact scanHex_reverse_ok_iff
  rw [hscan]
  apply and_congr_right
  intro htaken
  rw [filterMap_flatMap ((takesByte_flatMap mark digits).mp htaken)]
  rfl

end ContractHarness.BigNumber
