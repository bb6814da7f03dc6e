import ContractHarness.Assertion
import ContractHarness.Contract
import ContractHarness.Proofs.BigNumber.Checksum
import ContractHarness.Proofs.Text.Hex
import ContractHarness.Proofs.Text.Lowercase

/-!
# What an address is compared as

The normal form of anything that stands for an address is the text of the number that it denotes:
behind `0x` stand the digits, filled up to forty, and a negative number keeps its sign and its own
mark behind the filling. No two numbers have the same text, so values are equal as addresses exactly
when they denote the same number.
-/

set_option autoImplicit false

namespace ContractHarness

open BigNumber (Mark evenDigits evenDigits_eq)

namespace Hex

variable {digits : List Char} {c : Char} {d n : Nat}

/-- Reading goes on from the number that the digits before denote. -/
theorem foldlM_eq_some_iff {value : Nat} :
    digits.foldlM (fun value c => (digitValue? c).map (16 * value + ·)) value = some n ↔
      (∀ c ∈ digits, isDigit c = true) ∧
        (digits.filterMap digitValue?).foldl (fun value d => 16 * value + d) value = n := by
  induction digits generalizing value with
  | nil => simp
  | cons c digits ih =>
    rw [List.foldlM_cons, List.forall_mem_cons]
    cases hc : digitValue? c with
    | none => simp [isDigit, hc]
    | some d =>
      have hdigit : isDigit c = true := by
        rw [isDigit, hc]
        rfl
      rw [List.filterMap_cons_some hc, List.foldl_cons]
      simp only [hdigit, true_and]
      exact ih

/-- Digits are read as the number that they denote. -/
theorem toNat?_eq_some_iff : toNat? digits = some n ↔
    (∀ c ∈ digits, isDigit c = true) ∧ Mark.hex.value digits = n :=
  foldlM_eq_some_iff

/-- A hexadecimal digit is one of the first 128 characters. -/
theorem toNat_lt_of_isDigit (h : isDigit c = true) : c.toNat < 0x80 := by
  obtain ⟨d, hd⟩ := Option.isSome_iff_exists.mp h
  exact (Mark.digitValue?_bounds hd).2.1

/-- A hexadecimal digit in lower case is the digit of its value. -/
theorem toLower_of_digitValue? (h : digitValue? c = some d) : c.toLower = Nat.digitChar d := by
  have hcases : ∀ n < 0x80, (digitValue? (Char.ofNat n)).all
      fun d => (Char.ofNat n).toLower = Nat.digitChar d := by decide
  have hc := hcases c.toNat (Mark.digitValue?_bounds h).2.1
  rw [Char.ofNat_toNat, h] at hc
  simpa using hc

/-- Digits in any letter case are lowercased to those that their number is written with. -/
theorem map_toLower (hne : digits ≠ []) (h : ∀ c ∈ digits, isDigit c = true) :
    digits.map Char.toLower = ofNat digits.length (Mark.hex.value digits) := by
  -- the digits are taken off from the end, as those of a number are
  induction hlength : digits.length generalizing digits with
  | zero => exact absurd (List.length_eq_zero_iff.mp hlength) hne
  | succ width ih =>
    obtain rfl | ⟨digits, c, rfl⟩ := digits.eq_nil_or_concat
    · exact absurd rfl hne
    rw [List.concat_eq_append] at h hlength ⊢
    rw [List.forall_mem_append, List.forall_mem_singleton] at h
    obtain ⟨hdigits, hc⟩ := h
    obtain ⟨d, hd⟩ := Option.isSome_iff_exists.mp hc
    have hvalue : Mark.hex.value (digits ++ [c]) = 16 * Mark.hex.value digits + d :=
      Mark.value_append .hex digits hd
    have hbound := (Mark.digitValue?_bounds hd).2.2
    rw [List.length_append, List.length_singleton, Nat.add_right_cancel_iff] at hlength
    rw [List.map_append, List.map_singleton, toLower_of_digitValue? hd, hvalue]
    cases width with
    | zero =>
      have hnone : 16 * Mark.hex.value [] + d = d := Nat.zero_add d
      rw [List.length_eq_zero_iff.mp hlength, hnone, ofNat_of_lt hbound]
      rfl
    | succ width =>
      have hrest : digits ≠ [] := by
        rintro rfl
        cases hlength
      have hhigh : (16 * Mark.hex.value digits + d) / 16 = Mark.hex.value digits := by omega
      have hlow : (16 * Mark.hex.value digits + d) % 16 = d := by omega
      rw [ih hrest hdigits hlength, ofNat_succ, hhigh, hlow]

/-- The digits of a number are in lower case. -/
theorem map_toLower_toDigits (n : Nat) :
    (Nat.toDigits 16 n).map Char.toLower = Nat.toDigits 16 n := by
  have hvalue : Mark.hex.value (Nat.toDigits 16 n) = n := Mark.value_toDigits .hex n
  rw [map_toLower Nat.toDigits_ne_nil fun c => isDigit_of_mem_toDigits, hvalue, ofNat, Nat.sub_self]
  rfl

end Hex

namespace AddressLike

variable {digits text : List Char} {x y : AddressLike} {m n : Nat} {z : Int}

/-! ## The text of a number -/

/-- The digits of an integer. A negative one has its sign and a mark in front of whole bytes. -/
def numberText (z : Int) : List Char :=
  if z < 0 then '-' :: '0' :: 'x' :: evenDigits (Nat.toDigits 16 z.natAbs)
  else Nat.toDigits 16 z.natAbs

/-- The text in front of which there is no mark, filled up behind one. -/
def filled (text : List Char) : List Char :=
  '0' :: 'x' :: (List.replicate (40 - text.length) '0' ++ text)

/-- The digits of a number are still digits when they are filled up to whole bytes. -/
theorem isDigit_of_mem_evenDigits {c : Char} (h : c ∈ evenDigits (Nat.toDigits 16 m)) :
    Hex.isDigit c = true := by
  obtain ⟨count, hdigits⟩ := evenDigits_eq (Nat.toDigits 16 m)
  rw [hdigits, List.mem_append] at h
  rcases h with h | h
  · rw [List.eq_of_mem_replicate h]
    rfl
  · exact Hex.isDigit_of_mem_toDigits h

/-- The text of an integer has its absolute value. -/
theorem value_numberText (z : Int) : Mark.hex.value (numberText z) = z.natAbs := by
  unfold numberText
  split
  · obtain ⟨count, hdigits⟩ := evenDigits_eq (Nat.toDigits 16 z.natAbs)
    -- neither the sign nor the mark counts as a digit
    have hsign : Mark.hex.value ('-' :: '0' :: 'x' :: evenDigits (Nat.toDigits 16 z.natAbs)) =
        Mark.hex.value (evenDigits (Nat.toDigits 16 z.natAbs)) := rfl
    rw [hsign, hdigits, Mark.value_replicate_append]
    exact Mark.value_toDigits .hex _
  · exact Mark.value_toDigits .hex _

/-- The text of an integer has a minus sign exactly when the integer is negative. -/
theorem minus_mem_numberText (z : Int) : '-' ∈ numberText z ↔ z < 0 := by
  unfold numberText
  split
  · next h => simp [h]
  · next h =>
    constructor
    · intro hmem
      have hdigit := Hex.isDigit_of_mem_toDigits hmem
      exact absurd hdigit (by decide)
    · intro hneg
      exact absurd hneg h

/-- Different integers have different texts. -/
theorem filled_numberText_inj {m n : Int} :
    filled (numberText m) = filled (numberText n) ↔ m = n := by
  constructor
  · intro h
    have hvalue (z : Int) : Mark.hex.value (filled (numberText z)) = z.natAbs := by
      have hmark : Mark.hex.value (filled (numberText z)) = Mark.hex.value
          (List.replicate (40 - (numberText z).length) '0' ++ numberText z) := rfl
      rw [hmark, Mark.value_replicate_append, value_numberText]
    have hsign (z : Int) : '-' ∈ filled (numberText z) ↔ z < 0 := by
      rw [← minus_mem_numberText]
      simp [filled]
    have hmagnitudes : m.natAbs = n.natAbs := by rw [← hvalue m, ← hvalue n, h]
    have hsigns : m < 0 ↔ n < 0 := by rw [← hsign m, ← hsign n, h]
    omega
  · intro h
    rw [h]

/-! ## Normal forms -/

/-- A filled text of plain characters is put into lower case character by character. -/
theorem lowercase_filled (h : ∀ c ∈ text, c.toNat < 0x80) :
    Text.lowercase (filled text) = filled (text.map Char.toLower) := by
  have hall : ∀ c ∈ filled text, c.toNat < 0x80 := by
    intro c hc
    simp only [filled, List.mem_cons, List.mem_append, List.mem_replicate] at hc
    rcases hc with rfl | rfl | ⟨-, rfl⟩ | hc
    · decide
    · decide
    · decide
    · exact h c hc
  rw [Text.lowercase_of_ascii hall]
  unfold filled
  rw [List.map_cons, List.map_cons, List.map_append, List.map_replicate, List.length_map]
  rfl

/-- Zeros in front of a text that is still short enough make no difference once it is filled. -/
theorem filled_replicate_append {count : Nat} (h : count + text.length ≤ 40) :
    filled (List.replicate count '0' ++ text) = filled text := by
  have hcount : 40 - (count + text.length) + count = 40 - text.length := by omega
  unfold filled
  rw [List.length_append, List.length_replicate, ← List.append_assoc,
    List.replicate_append_replicate, hcount]

/-- Digits in any letter case have the normal form of their number. -/
theorem lowercase_filled_digits (hne : digits ≠ []) (hlength : digits.length ≤ 40)
    (hdigits : ∀ c ∈ digits, Hex.isDigit c = true) :
    Text.lowercase (filled digits) = filled (numberText (Mark.hex.value digits)) := by
  have hlower := Hex.map_toLower hne hdigits
  have hwidth := congrArg List.length hlower
  have hnumber : numberText (Mark.hex.value digits) = Nat.toDigits 16 (Mark.hex.value digits) := rfl
  rw [List.length_map, Hex.ofNat, List.length_append, List.length_replicate] at hwidth
  rw [lowercase_filled fun c hc => Hex.toNat_lt_of_isDigit (hdigits c hc), hlower, Hex.ofNat,
    filled_replicate_append (by omega), hnumber]

/-- The text of an integer is in lower case. -/
theorem map_toLower_numberText (z : Int) : (numberText z).map Char.toLower = numberText z := by
  unfold numberText
  split
  · obtain ⟨count, hdigits⟩ := evenDigits_eq (Nat.toDigits 16 z.natAbs)
    rw [hdigits, List.map_cons, List.map_cons, List.map_cons, List.map_append, List.map_replicate,
      Hex.map_toLower_toDigits]
    rfl
  · exact Hex.map_toLower_toDigits _

/-- The text of a number is its own normal form. -/
theorem lowercase_filled_numberText (z : Int) :
    Text.lowercase (filled (numberText z)) = filled (numberText z) := by
  have hascii : ∀ c ∈ numberText z, c.toNat < 0x80 := by
    intro c hc
    unfold numberText at hc
    split at hc
    · simp only [List.mem_cons] at hc
      rcases hc with rfl | rfl | rfl | hc
      · decide
      · decide
      · decide
      · exact Hex.toNat_lt_of_isDigit (isDigit_of_mem_evenDigits hc)
    · exact Hex.toNat_lt_of_isDigit (Hex.isDigit_of_mem_toDigits hc)
  rw [lowercase_filled hascii, map_toLower_numberText]

/-- Digits alone have no mark, because the mark has a letter that is no digit. -/
theorem isMarked_of_digits (h : ∀ c ∈ digits, Hex.isDigit c = true) : isMarked digits = false := by
  unfold isMarked
  split
  · next rest =>
    have hmark := h 'x' (by simp)
    exact absurd hmark (by decide)
  · rfl

/-- A text without a mark is filled up behind one. -/
theorem mark_of_not_isMarked (h : isMarked text = false) : mark text = filled text := by
  unfold mark
  rw [h]
  rfl

/-- A number is written as the text of its integer. -/
theorem digits_number (n : BigNumber) : (AddressLike.number n).digits = numberText n.toInt := by
  have hmagnitude := n.natAbs_toInt
  rw [AddressLike.digits, numberText, hmagnitude]
  cases hnegative : n.negative with
  | false =>
    have hsign : ¬ n.toInt < 0 := by
      rw [BigNumber.toInt_neg_iff, hnegative]
      decide
    rw [if_neg (by decide), if_neg hsign]
  | true =>
    have hsign : n.toInt < 0 := BigNumber.toInt_neg_iff.mpr hnegative
    rw [if_pos rfl, if_pos hsign, BigNumber.hex, String.toList_append, BigNumber.toList_sign,
      hnegative, Hex.prefixed, String.toList_ofList]
    rfl

/-- The normal form of a number is the filled text of its integer. -/
theorem normalChars_number (n : BigNumber) :
    (AddressLike.number n).normalChars = filled (numberText n.toInt) := by
  have hunmarked : isMarked (numberText n.toInt) = false := by
    unfold numberText
    split
    · rfl
    · exact isMarked_of_digits fun _ => Hex.isDigit_of_mem_toDigits
  unfold normalChars
  rw [digits_number, mark_of_not_isMarked hunmarked, lowercase_filled_numberText]

/-- The normal form of digits without a mark is the filled text of their number. -/
theorem normalChars_bare (hne : digits ≠ []) (hlength : digits.length ≤ 40)
    (hvalue : Hex.toNat? digits = some n) :
    (AddressLike.text (String.ofList digits)).normalChars = filled (numberText n) := by
  obtain ⟨hdigits, rfl⟩ := Hex.toNat?_eq_some_iff.mp hvalue
  have htext : (AddressLike.text (String.ofList digits)).digits = digits := String.toList_ofList
  unfold normalChars
  rw [htext, mark_of_not_isMarked (isMarked_of_digits hdigits),
    lowercase_filled_digits hne hlength hdigits]

/-- The normal form of forty digits behind a mark is the filled text of their number. -/
theorem normalChars_marked (hlength : digits.length = 40)
    (hvalue : Hex.toNat? digits = some n) :
    (AddressLike.text (Hex.prefixed digits)).normalChars = filled (numberText n) := by
  obtain ⟨hdigits, rfl⟩ := Hex.toNat?_eq_some_iff.mp hvalue
  have hne : digits ≠ [] := by
    rintro rfl
    cases hlength
  -- nothing is left to be filled up
  have htext : mark (AddressLike.text (Hex.prefixed digits)).digits = filled digits := by
    rw [AddressLike.digits, Hex.prefixed, String.toList_ofList, filled, hlength]
    rfl
  unfold normalChars
  rw [htext, lowercase_filled_digits hne (Nat.le_of_eq hlength) hdigits]

/-- The normal form of an address is the filled text of its number. -/
theorem normalChars_address (a : Address) :
    (AddressLike.address a).normalChars = filled (numberText a.toNat) := by
  obtain ⟨digits, htext, hmap⟩ := a.exists_checksummed_eq
  have hlength : digits.length = 40 := by
    rw [← List.length_map (f := Hex.digitValue?), hmap, List.length_map, a.length_digits]
  have hvalue : Hex.toNat? digits = some a.toNat := by
    rw [Hex.toNat?_eq_some_iff]
    constructor
    · exact Hex.isDigit_of_map_eq hmap fun _ => Address.isDigit_of_mem_digits
    · exact (Mark.value_congr .hex hmap).trans (Mark.value_digits a)
  have hshown : (AddressLike.address a).normalChars =
      (AddressLike.text (Hex.prefixed digits)).normalChars := by
    rw [normalChars, AddressLike.digits, htext]
    rfl
  rw [hshown, normalChars_marked hlength hvalue]

/-! ## Equal addresses -/

/-- The value denotes the integer: an address and a contract that of their 160 bits, a number
itself, and a text that of its digits. -/
inductive Denotes : AddressLike → Int → Prop
  | address (a : Address) : Denotes (.address a) a.toNat
  | contract (c : Contract) : Denotes c.toAddressLike c.address.toNat
  | number (n : BigNumber) : Denotes (.number n) n.toInt
  | word (w : Word) : Denotes (.number (.ofWord w)) w.toNat
  /-- Forty digits behind the mark. -/
  | marked {digits : List Char} {n : Nat} (length : digits.length = 40)
      (value : Hex.toNat? digits = some n) : Denotes (.text (Hex.prefixed digits)) n
  /-- Up to forty digits without the mark. -/
  | bare {digits : List Char} {n : Nat} (ne_nil : digits ≠ []) (length : digits.length ≤ 40)
      (value : Hex.toNat? digits = some n) : Denotes (.text (String.ofList digits)) n

/-- Whatever denotes an integer has the filled text of the integer as its normal form. -/
theorem Denotes.normalChars_eq (h : x.Denotes z) : x.normalChars = filled (numberText z) := by
  cases h with
  | address a => exact normalChars_address a
  | contract c => exact normalChars_address c.address
  | number n => exact normalChars_number n
  | word w =>
    rw [normalChars_number, BigNumber.toInt_ofWord]
  | marked length value => exact normalChars_marked length value
  | bare ne_nil length value => exact normalChars_bare ne_nil length value

/-- Values have the same normal form when they denote the same integer. -/
theorem normalize_eq_iff {m n : Int} (hx : x.Denotes m) (hy : y.Denotes n) :
    x.normalize = y.normalize ↔ m = n := by
  unfold normalize
  rw [String.ofList_inj, hx.normalChars_eq, hy.normalChars_eq, filled_numberText_inj]

end AddressLike

/-- Two values stand for the same address exactly when they denote the same integer, and otherwise
the assertion tells their normal forms. -/
theorem addressIs_iff_denotes {x y : AddressLike} {m n : Int} (hx : x.Denotes m) (hy : y.Denotes n)
    (message : Option String) :
    (addressIs x y message = .ok () ↔ m = n) ∧
      (m ≠ n → addressIs x y message =
        .error (.assertion (inequality message x.normalize y.normalize))) := by
  have hnormal := AddressLike.normalize_eq_iff hx hy
  unfold addressIs
  by_cases heq : m = n
  · rw [if_pos (hnormal.mpr heq)]
    simp [heq]
  · rw [if_neg (mt hnormal.mp heq)]
    simp [heq]

/-- A short text in mixed case is the number of its digits, and not the opposite number. -/
theorem addressIs_shortText : addressIs (.text "fF") (.number (.ofWord 255)) none = .ok () ∧
    addressIs (.text "fF") (.number (.ofSign true 255)) none =
      .error (.assertion (inequality none (AddressLike.text "fF").normalize
        (AddressLike.number (.ofSign true 255)).normalize)) := by
  have hdigits : Hex.toNat? ['f', 'F'] = some 255 := rfl
  have htext : AddressLike.Denotes (.text "fF") (255 : Nat) := .bare (by decide) (by decide) hdigits
  have hnumber : AddressLike.Denotes (.number (.ofWord 255)) (255 : Nat) := .word 255
  have hopposite : AddressLike.Denotes (.number (.ofSign true 255)) (-255) := .number _
  exact ⟨(addressIs_iff_denotes htext hnumber none).1.mpr rfl,
    (addressIs_iff_denotes htext hopposite none).2 (by decide)⟩

end ContractHarness
