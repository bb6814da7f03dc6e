import ContractHarness.BigNumber.Reader
import ContractHarness.Proofs.Text.Blank

/-!
# Numerals

How a big number is written: a minus sign or none, a mark that says what the radix is, and digits of
that radix with underscores anywhere among them. The number is that of the digits alone, with the
first of them the most significant.
-/

set_option autoImplicit false

namespace ContractHarness.BigNumber

/-- What stands in front of the digits of a number and says what their radix is. -/
inductive Mark where
  | decimal
  | hex
  | capitalHex
deriving DecidableEq

namespace Mark

/-- The characters of the mark. Decimal digits have none in front of them. -/
def chars : Mark → List Char
  | .decimal => []
  | .hex => ['0', 'x']
  | .capitalHex => ['0', 'X']

/-- How many digits there are behind the mark. -/
def radix : Mark → Nat
  | .decimal => 10
  | _ => 16

/-- The value of a digit behind the mark. A hexadecimal digit may be of either case. -/
def digit? : Mark → Char → Option Nat
  | .decimal, c => if c.isDigit then some (c.toNat - '0'.toNat) else none
  | _, c => Hex.digitValue? c

/-- The character may stand behind the mark. -/
def takes (mark : Mark) (c : Char) : Bool :=
  c = '_' || (mark.digit? c).isSome

/-- The number that digits denote; the other characters do not count. -/
def value (mark : Mark) (digits : List Char) : Nat :=
  (digits.filterMap mark.digit?).foldl (fun value d => mark.radix * value + d) 0

end Mark

/-- A number as it is written. -/
structure Numeral where
  negative : Bool
  mark : Mark
  digits : List Char
  digits_ne_nil : digits ≠ []
  taken : ∀ c ∈ digits, mark.takes c = true

namespace Numeral

/-- The characters of the numeral. -/
def chars (m : Numeral) : List Char :=
  (if m.negative then ['-'] else []) ++ (m.mark.chars ++ m.digits)

/-- The number without its sign. -/
def value (m : Numeral) : Nat :=
  m.mark.value m.digits

/-- The text is the numeral with blanks around it. -/
def IsIn (m : Numeral) (text : String) : Prop :=
  ∃ before after, text.toList = before ++ m.chars ++ after ∧
    (∀ c ∈ before, Text.isBlank c = true) ∧ ∀ c ∈ after, Text.isBlank c = true

end Numeral

namespace Mark

variable {mark : Mark} {c : Char} {d : Nat} {digits : List Char}

/-! ## Characters -/

/-- A hexadecimal digit is one of the first 128 characters, behind the blanks, and below 16. -/
theorem digitValue?_bounds (h : Hex.digitValue? c = some d) :
    0x30 ≤ c.toNat ∧ c.toNat < 0x80 ∧ d < 16 := by
  have le_iff (a b : Char) : a ≤ b ↔ a.toNat ≤ b.toNat := UInt32.le_iff_toNat_le
  simp only [Hex.digitValue?, le_iff, Char.reduceToNat] at h
  split at h
  · cases h
    omega
  · split at h
    · cases h
      omega
    · split at h
      · cases h
        omega
      · cases h

/-- The decimal digits stand together among the characters. -/
theorem isDigit_bounds (h : c.isDigit = true) : 0x30 ≤ c.toNat ∧ c.toNat ≤ 0x39 := by
  simp only [Char.isDigit, Bool.and_eq_true, decide_eq_true_eq, ge_iff_le,
    UInt32.le_iff_toNat_le] at h
  exact h

/-- A digit is one of the first 128 characters, behind the blanks, and below the radix. -/
theorem digit?_bounds (h : mark.digit? c = some d) :
    0x30 ≤ c.toNat ∧ c.toNat < 0x80 ∧ d < mark.radix := by
  cases mark with
  | decimal =>
    simp only [digit?, Option.ite_none_right_eq_some, Option.some.injEq] at h
    obtain ⟨hdigit, rfl⟩ := h
    have hbounds := isDigit_bounds hdigit
    have hzero : '0'.toNat = 0x30 := rfl
    simp only [radix]
    omega
  | hex => exact digitValue?_bounds h
  | capitalHex => exact digitValue?_bounds h

/-- What may stand behind a mark is one of the first 128 characters and no blank. -/
theorem takes_bounds (h : mark.takes c = true) : 0x30 ≤ c.toNat ∧ c.toNat < 0x80 := by
  simp only [takes, Bool.or_eq_true, decide_eq_true_eq] at h
  rcases h with rfl | h
  · decide
  · obtain ⟨d, hd⟩ := Option.isSome_iff_exists.mp h
    have hbounds := digit?_bounds hd
    omega

/-- A digit may stand behind its mark. -/
theorem takes_of_digit? (h : mark.digit? c = some d) : mark.takes c = true := by
  unfold takes
  rw [h, Option.isSome_some, Bool.or_true]

/-! ## Values -/

/-- A digit at the end makes the number of the digits before it as many times as large as the radix
and is added to it. -/
theorem value_append (mark : Mark) (digits : List Char) (h : mark.digit? c = some d) :
    mark.value (digits ++ [c]) = mark.radix * mark.value digits + d := by
  unfold value
  rw [List.filterMap_append, List.filterMap_cons_some h, List.filterMap_nil, List.foldl_append,
    List.foldl_cons, List.foldl_nil]

/-- Zero is a digit behind every mark. -/
theorem digit?_zero (mark : Mark) : mark.digit? '0' = some 0 := by
  cases mark <;> rfl

/-- Zeros in front of digits do not count. -/
theorem value_replicate_append (mark : Mark) (count : Nat) (digits : List Char) :
    mark.value (List.replicate count '0' ++ digits) = mark.value digits := by
  induction count with
  | zero => rfl
  | succ count ih =>
    rw [← ih, List.replicate_succ, List.cons_append]
    unfold value
    rw [List.filterMap_cons_some mark.digit?_zero, List.foldl_cons, Nat.mul_zero]

/-- The character of a digit is this digit behind every mark with a radix above it. -/
theorem digit?_digitChar : (mark : Mark) → d < mark.radix →
    mark.digit? (Nat.digitChar d) = some d
  | .decimal, h => by
    have hdigits : ∀ d < 10, Mark.decimal.digit? (Nat.digitChar d) = some d := by decide
    exact hdigits d h
  | .hex, h | .capitalHex, h => by
    have hdigits : ∀ d < 16, Hex.digitValue? (Nat.digitChar d) = some d := by decide
    exact hdigits d h

/-- There is more than one digit behind every mark. -/
theorem radix_gt_one (mark : Mark) : 1 < mark.radix := by
  cases mark <;> decide

/-- The digits of a number denote it. -/
theorem value_toDigits (mark : Mark) (n : Nat) : mark.value (Nat.toDigits mark.radix n) = n := by
  induction n using Nat.strongRecOn with
  | _ n ih =>
    by_cases h : n < mark.radix
    · have hvalue := value_append mark [] (digit?_digitChar mark h)
      rw [Nat.toDigits_of_lt_base h, ← List.nil_append [Nat.digitChar n], hvalue]
      exact Nat.zero_add n
    · have hbase := mark.radix_gt_one
      have hrest : n / mark.radix < n := Nat.div_lt_self (by omega) hbase
      have hlast : n % mark.radix < mark.radix := Nat.mod_lt n (by omega)
      rw [Nat.toDigits_of_base_le hbase (Nat.le_of_not_lt h),
        value_append mark _ (digit?_digitChar mark hlast), ih _ hrest, Nat.div_add_mod]

/-- A number is written in digits that have a value. -/
theorem exists_digit?_of_mem_toDigits {n : Nat} (h : c ∈ Nat.toDigits mark.radix n) :
    ∃ d, mark.digit? c = some d := by
  induction n using Nat.strongRecOn with
  | _ n ih =>
    by_cases hn : n < mark.radix
    · rw [Nat.toDigits_of_lt_base hn, List.mem_singleton] at h
      rw [h]
      exact ⟨n, digit?_digitChar mark hn⟩
    · have hbase := mark.radix_gt_one
      rw [Nat.toDigits_of_base_le hbase (Nat.le_of_not_lt hn), List.mem_append,
        List.mem_singleton] at h
      rcases h with h | rfl
      · exact ih _ (Nat.div_lt_self (by omega) hbase) h
      · exact ⟨_, digit?_digitChar mark (Nat.mod_lt n (by omega))⟩

/-- The digits of a number may stand behind the mark of their radix. -/
theorem takes_of_mem_toDigits {n : Nat} (h : c ∈ Nat.toDigits mark.radix n) :
    mark.takes c = true := by
  obtain ⟨d, hd⟩ := exists_digit?_of_mem_toDigits h
  exact takes_of_digit? hd

end Mark

namespace Numeral

/-- Characters from the first visible one to the last of ASCII are no blanks. -/
theorem isBlank_of_bounds {c : Char} (hlow : 0x20 < c.toNat) (hhigh : c.toNat < 0x80) :
    Text.isBlank c = false := by
  cases h : Text.isBlank c with
  | false => rfl
  | true =>
    obtain ⟨range, hrange, hbounds⟩ := (Text.Ranges.covers_iff Text.blankRanges c).mp h
    have hranges : ∀ range ∈ Text.blankRanges, range.2 ≤ 0x20 ∨ 0x80 ≤ range.1 := by decide
    have hapart := hranges range hrange
    omega

/-- No blank stands in a numeral. -/
theorem isBlank_of_mem_chars {m : Numeral} {c : Char} (h : c ∈ m.chars) :
    Text.isBlank c = false := by
  have hbounds : 0x20 < c.toNat ∧ c.toNat < 0x80 := by
    simp only [chars, List.mem_append] at h
    rcases h with h | h | h
    · cases hnegative : m.negative with
      | false =>
        rw [hnegative] at h
        cases h
      | true =>
        rw [hnegative, if_pos rfl, List.mem_singleton] at h
        rw [h]
        decide
    · cases hmark : m.mark with
      | decimal =>
        rw [hmark] at h
        cases h
      | hex | capitalHex =>
        rw [hmark, Mark.chars, List.mem_cons, List.mem_singleton] at h
        rcases h with rfl | rfl <;> decide
    · have htaken := Mark.takes_bounds (m.taken c h)
      omega
  exact isBlank_of_bounds hbounds.1 hbounds.2

/-- A numeral has a character. -/
theorem chars_ne_nil (m : Numeral) : m.chars ≠ [] := by
  simp [chars, m.digits_ne_nil]

/-- A text is a numeral with blanks around it when trimming leaves the numeral of it. -/
theorem isIn_iff_trim {m : Numeral} {text : String} :
    m.IsIn text ↔ Text.trim text.toList = m.chars :=
  (Text.trim_eq_iff m.chars_ne_nil fun _ => isBlank_of_mem_chars).symm

end Numeral

end ContractHarness.BigNumber
