import ContractHarness.BigNumber.Document
import ContractHarness.Proofs.BigNumber.Integers
import ContractHarness.Proofs.BigNumber.Reading
import ContractHarness.Proofs.Json.Strings

/-!
# The forms of a big number

A big number is written in decimal digits, in whole hexadecimal bytes, and as a document that holds
the latter. Each form is read as the number that it was made from, so it is the form of one number
only. Since no number is made with a sign in front of zero, numbers are also the same when they
denote the same integer, however each of them was made.
-/

set_option autoImplicit false

namespace ContractHarness.BigNumber

/-! ## Reading what was written -/

/-- A number is read from digits that denote its magnitude behind its sign. -/
theorem read_of_digits {n : BigNumber} {mark : Mark} {digits : List Char} {text : String}
    (hne : digits ≠ []) (htaken : ∀ c ∈ digits, mark.takes c = true)
    (hvalue : mark.value digits = n.magnitude.toNat)
    (htext : text.toList = (if n.negative then ['-'] else []) ++ (mark.chars ++ digits)) :
    read text = .ok n := by
  have hin : Numeral.IsIn ⟨n.negative, mark, digits, hne, htaken⟩ text := by
    refine ⟨[], [], ?_, List.forall_mem_nil _, List.forall_mem_nil _⟩
    rw [htext, List.nil_append, List.append_nil]
    rfl
  have hlimit : Numeral.value ⟨n.negative, mark, digits, hne, htaken⟩ < Word.size := by
    rw [Numeral.value, hvalue]
    exact n.magnitude.toNat_lt_size
  refine read_ok_iff_number.mpr ⟨_, hin, hlimit, (eq_number_iff hlimit).mpr ⟨hvalue.symm, ?_⟩⟩
  constructor
  · intro hnegative
    exact ⟨hnegative, fun hzero => magnitude_ne_zero hnegative (hvalue.symm.trans hzero)⟩
  · exact And.left

/-- The sign of a number is one character or none. -/
theorem toList_sign (n : BigNumber) :
    (if n.negative then "-" else "").toList = if n.negative then ['-'] else [] := by
  cases n.negative <;> rfl

/-- A number is read from its decimal form. -/
theorem read_decimal (n : BigNumber) : read n.decimal = .ok n := by
  have htext : n.decimal.toList = (if n.negative then ['-'] else []) ++
      (Mark.decimal.chars ++ Nat.toDigits 10 n.magnitude.toNat) := by
    rw [decimal, String.toList_append, toList_sign, Nat.toList_repr]
    rfl
  exact read_of_digits Nat.toDigits_ne_nil (fun _ => Mark.takes_of_mem_toDigits)
    (Mark.value_toDigits .decimal _) htext

/-- Digits are filled up with at most one zero. -/
theorem evenDigits_eq (digits : List Char) :
    ∃ count, evenDigits digits = List.replicate count '0' ++ digits := by
  unfold evenDigits
  split
  · exact ⟨1, rfl⟩
  · exact ⟨0, rfl⟩

/-- A number is read from its hexadecimal form. -/
theorem read_hex (n : BigNumber) : read n.hex = .ok n := by
  obtain ⟨count, hdigits⟩ := evenDigits_eq (Nat.toDigits 16 n.magnitude.toNat)
  have htext : n.hex.toList = (if n.negative then ['-'] else []) ++ (Mark.hex.chars ++
      (List.replicate count '0' ++ Nat.toDigits 16 n.magnitude.toNat)) := by
    rw [hex, String.toList_append, toList_sign, Hex.prefixed, String.toList_ofList, hdigits]
    rfl
  have hvalue := Mark.value_replicate_append .hex count (Nat.toDigits 16 n.magnitude.toNat)
  refine read_of_digits ?_ ?_ (hvalue.trans (Mark.value_toDigits .hex _)) htext
  · simp [Nat.toDigits_ne_nil]
  · intro c hc
    rcases List.mem_append.mp hc with hc | hc
    · rw [List.eq_of_mem_replicate hc]
      rfl
    · exact Mark.takes_of_mem_toDigits hc

/-- A number is read from its document. -/
theorem ofDocument?_document (n : BigNumber) : ofDocument? n.document = some n := by
  unfold ofDocument? document toJson
  rw [Json.read?_compact_string, Option.bind_some, ofJson?, Json.string?, Option.bind_some,
    read_hex]
  rfl

/-- A text is not read as two numbers. -/
theorem eq_of_read {a b : BigNumber} {left right : String} (ha : read left = .ok a)
    (hb : read right = .ok b) (h : left = right) : a = b := by
  subst h
  exact Except.ok.inj (ha.symm.trans hb)

/-- Numbers are told apart by their decimal forms. -/
theorem decimal_inj {a b : BigNumber} : a.decimal = b.decimal ↔ a = b :=
  ⟨eq_of_read (read_decimal a) (read_decimal b), congrArg decimal⟩

/-- Numbers are told apart by their hexadecimal forms. -/
theorem hex_inj {a b : BigNumber} : a.hex = b.hex ↔ a = b :=
  ⟨eq_of_read (read_hex a) (read_hex b), congrArg hex⟩

/-! ## Numbers and integers -/

/-- The ways to make a number, and the integer that is meant in each of them. What a text or a
document means is the integer that the number denotes. -/
inductive Made : BigNumber → Int → Prop where
  | ofSign (negative : Bool) (magnitude : Word) : Made (ofSign negative magnitude)
    (if negative then -(magnitude.toNat : Int) else magnitude.toNat)
  | read {text : String} {n : BigNumber} (h : read text = .ok n) : Made n n.toInt
  | ofDocument {document : String} {n : BigNumber} (h : ofDocument? document = some n) :
    Made n n.toInt
  | ofInt32 (value : Int32) : Made (ofInt64 value.toInt64) value.toInt
  | ofInt64 (value : Int64) : Made (ofInt64 value) value.toInt
  | ofUInt32 (value : UInt32) : Made (ofNat value.toNat) value.toNat
  | ofUInt64 (value : UInt64) : Made (ofNat value.toNat) value.toNat
  | ofUInt128 (value : BitVec 128) : Made (ofNat value.toNat) value.toNat
  | ofWord (value : Word) : Made (ofWord value) value.toNat
  | ofSignedWord (value : Word) : Made (ofSignedWord value) value.toInt
  | ofAddress (value : Address) : Made (ofAddress value) value.toNat

/-- A number denotes the integer that is meant by it. -/
theorem Made.toInt_eq {n : BigNumber} {z : Int} (h : Made n z) : n.toInt = z := by
  cases h with
  | ofSign negative magnitude => exact toInt_ofSign negative magnitude
  | read h => rfl
  | ofDocument h => rfl
  | ofInt32 value => rw [toInt_ofInt64, Int32.toInt_toInt64]
  | ofInt64 value => exact toInt_ofInt64 value
  | ofUInt32 value => exact toInt_ofNat (Nat.lt_trans value.toNat_lt (by decide))
  | ofUInt64 value => exact toInt_ofNat (Nat.lt_trans value.toNat_lt (by decide))
  | ofUInt128 value => exact toInt_ofNat (Nat.lt_trans value.isLt (by decide))
  | ofWord value => exact toInt_ofWord value
  | ofSignedWord value => exact toInt_ofSignedWord value
  | ofAddress value => exact toInt_ofAddress value

/-- The absolute value of the integer of a number is its magnitude. -/
theorem natAbs_toInt (n : BigNumber) : n.toInt.natAbs = n.magnitude.toNat := by
  unfold toInt
  cases n.negative <;> simp

/-- There is a number for every integer with a magnitude below the number of words. -/
theorem exists_made_iff {z : Int} : (∃ n, Made n z) ↔ z.natAbs < Word.size := by
  constructor
  · rintro ⟨n, h⟩
    rw [← h.toInt_eq, natAbs_toInt]
    exact n.magnitude.toNat_lt_size
  · intro hz
    have hmade := Made.ofSign (z < 0) (BitVec.ofNat 256 z.natAbs)
    have hinteger : (if decide (z < 0) = true then -((BitVec.ofNat 256 z.natAbs).toNat : Int)
        else (BitVec.ofNat 256 z.natAbs).toNat) = z := by
      rw [Word.toNat_ofNat_of_lt hz]
      by_cases hnegative : z < 0
      · rw [decide_eq_true hnegative, if_pos rfl]
        omega
      · rw [decide_eq_false hnegative, if_neg (by decide)]
        omega
    rw [hinteger] at hmade
    exact ⟨_, hmade⟩

/-- Every integer with a magnitude below the number of words has a number. Numbers are the same when
the integers that they are made from are, and when any of their forms are, and each form of a number
is read as the number. -/
theorem canonical_of_made {a b : BigNumber} {x y : Int} (ha : Made a x) (hb : Made b y) :
    (∀ z, (∃ n, Made n z) ↔ z.natAbs < Word.size) ∧
      ((a == b) = true ↔ x = y) ∧ (x = y ↔ a.decimal = b.decimal) ∧
      (a.decimal = b.decimal ↔ a.hex = b.hex) ∧
      read a.decimal = .ok a ∧ read a.hex = .ok a ∧ ofDocument? a.document = some a := by
  have hinteger : x = y ↔ a = b := by
    rw [← ha.toInt_eq, ← hb.toInt_eq, toInt_inj]
  refine ⟨fun _ => exists_made_iff, ?_, ?_, ?_, read_decimal a, read_hex a,
    ofDocument?_document a⟩
  · rw [beq_iff_eq, hinteger]
  · rw [decimal_inj, hinteger]
  · rw [decimal_inj, hex_inj]

/-! ## The least signed word -/

section Least

/-- Only the highest bit of the word is set. -/
def highestBit : Word :=
  0x8000000000000000000000000000000000000000000000000000000000000000

/-- The least signed word is the number with a minus sign and the same bits, in every form. -/
theorem canonical_highestBit : (ofSignedWord highestBit == ofSign true highestBit) = true ∧
    (ofSignedWord highestBit).decimal = (ofSign true highestBit).decimal ∧
    read (ofSignedWord highestBit).hex = .ok (ofSignedWord highestBit) := by
  have hinteger : highestBit.toInt =
      if true then -(highestBit.toNat : Int) else highestBit.toNat := by decide
  obtain ⟨-, heq, hdecimal, -, -, hhex, -⟩ :=
    canonical_of_made (.ofSignedWord highestBit) (.ofSign true highestBit)
  exact ⟨heq.mpr hinteger, hdecimal.mp hinteger, hhex⟩

end Least

end ContractHarness.BigNumber
