import ContractHarness.Abi.Literal
import ContractHarness.Proofs.Abi.OfType

/-!
# Literals fit their types

A text is read by the grammar of the type that is expected, and whether a value may be encoded is
decided by a comparison of types. The two agree: whatever is read as a literal of a type is a value
of that type. More than that holds. A number is within its width, and the bytes of a fixed size are
followed by zeros, which the comparison does not look at.

The induction is on the type, because the grammar follows it. The readers of lists know nothing
about types; of them it is enough that each item was read by the reader of items.
-/

set_option autoImplicit false

namespace ContractHarness

/-- The value is of the type and within it. -/
inductive FitsType : AbiType → AbiValue → Prop where
  | bool (b : Bool) : FitsType .bool (.bool b)
  | int (bits : Nat) (w : Word) (lower : -(Nat.pow 2 (bits - 1) : Int) ≤ w.toInt)
    (upper : w.toInt < Nat.pow 2 (bits - 1)) : FitsType (.int bits) (.int bits w)
  | uint (bits : Nat) (w : Word) (bound : w.toNat < Nat.pow 2 bits) :
    FitsType (.uint bits) (.uint bits w)
  | fixedBytes (size : Nat) (w : Word) (padded : w.toNat % Nat.pow 256 (32 - size) = 0) :
    FitsType (.fixedBytes size) (.fixedBytes size w)
  | address (a : Address) : FitsType .address (.address a)
  | function (f : BitVec 192) : FitsType .function (.function f)
  | bytes (content : Bytes) : FitsType .bytes (.bytes content)
  | string (text : String) : FitsType .string (.string text)
  | array (item : AbiType) (items : List AbiValue) (each : ∀ value ∈ items, FitsType item value) :
    FitsType (.array item) (.array items)
  | fixedArray (item : AbiType) (items : List AbiValue)
    (each : ∀ value ∈ items, FitsType item value) :
    FitsType (.fixedArray item items.length) (.fixedArray items)
  | tuple (types : List AbiType) (values : List AbiValue) (length : types.length = values.length)
    (each : ∀ p ∈ types.zip values, FitsType p.1 p.2) : FitsType (.tuple types) (.tuple values)

/-- A value within its type is of its type. -/
theorem FitsType.ofType {type : AbiType} {value : AbiValue} (h : FitsType type value) :
    OfType type value := by
  induction h with
  | bool b => exact .bool b
  | int bits w lower upper => exact .int bits w
  | uint bits w bound => exact .uint bits w
  | fixedBytes size w padded => exact .fixedBytes size w
  | address a => exact .address a
  | function f => exact .function f
  | bytes content => exact .bytes content
  | string text => exact .string text
  | array item items each ih => exact .array item items ih
  | fixedArray item items each ih => exact .fixedArray item items ih
  | tuple types values length each ih => exact .tuple types values length ih

/-! ## Items of lists -/

namespace Listed

variable {α : Type} {readItem : List Char → Option (α × List Char)} {close : Char}
  {text rest : List Char} {items : List α}

/-- Every item of a list was read as an item somewhere in the text. -/
theorem exists_of_readItems {fuel : Nat}
    (h : readItems readItem close fuel text = some (items, rest)) :
    ∀ item ∈ items, ∃ text rest, readItem text = some (item, rest) := by
  induction fuel generalizing text items with
  | zero => cases h
  | succ fuel ih =>
    rw [readItems, Option.bind_eq_bind, Option.bind_eq_some_iff] at h
    obtain ⟨⟨first, after⟩, hfirst, h⟩ := h
    dsimp only at h
    split at h
    · split at h
      · -- the comma stands behind the last item
        cases h
        rw [List.forall_mem_singleton]
        exact ⟨_, _, hfirst⟩
      · obtain ⟨⟨others, behind⟩, hothers, h⟩ := Option.bind_eq_some_iff.mp h
        cases h
        rw [List.forall_mem_cons]
        exact ⟨⟨_, _, hfirst⟩, ih hothers⟩
    · obtain ⟨behind, -, h⟩ := Option.map_eq_some_iff.mp h
      cases h
      rw [List.forall_mem_singleton]
      exact ⟨_, _, hfirst⟩

/-- Every item between brackets was read as an item somewhere in the text. -/
theorem exists_of_readList (h : readList readItem close text = some (items, rest)) :
    ∀ item ∈ items, ∃ text rest, readItem text = some (item, rest) := by
  unfold readList at h
  split at h
  · cases h
    exact fun item hitem => absurd hitem List.not_mem_nil
  · exact exists_of_readItems h

end Listed

namespace Literal

variable {text rest : List Char}

/-- Every item of an array was read as an item somewhere in the text, at some depth. -/
theorem exists_of_readArray
    {readItem : (depth : Nat) → List Char → Option (AbiValue × List Char)} {depth : Nat}
    {items : List AbiValue} (h : readArray readItem depth text = some (items, rest)) :
    ∀ item ∈ items, ∃ depth text rest, readItem depth text = some (item, rest) := by
  intro item hitem
  unfold readArray at h
  split at h
  · obtain ⟨_, _, hread⟩ := Listed.exists_of_readList h item hitem
    cases hread
  · exact ⟨_, Listed.exists_of_readList h item hitem⟩
  · cases h

/-! ## Numbers -/

/-- A number that was checked against the size of a word is below it. -/
theorem lt_of_inWord {n m : Nat} (h : inWord n = some m) : m < Word.size := by
  unfold inWord at h
  split at h
  · next hlt =>
    cases h
    exact hlt
  · cases h

/-- A number with decimal places is below the size of a word once it is scaled. -/
theorem lt_of_scale {whole places n : Nat} {fraction : List Char}
    (h : scale whole fraction places = some n) : n < Word.size := by
  unfold scale at h
  simp only [Option.bind_eq_bind] at h
  split at h
  · obtain ⟨power, -, h⟩ := Option.bind_eq_some_iff.mp h
    exact lt_of_inWord h
  · obtain ⟨part, -, h⟩ := Option.bind_eq_some_iff.mp h
    split at h
    · cases h
    · obtain ⟨power, -, h⟩ := Option.bind_eq_some_iff.mp h
      obtain ⟨shifted, -, h⟩ := Option.bind_eq_some_iff.mp h
      obtain ⟨sum, -, h⟩ := Option.bind_eq_some_iff.mp h
      obtain ⟨power, -, h⟩ := Option.bind_eq_some_iff.mp h
      exact lt_of_inWord h

/-- A number that is read for an unsigned type has no more bits than the type. -/
theorem lt_of_readUnsigned {bits n : Nat} (h : readUnsigned bits text = some (n, rest)) :
    n < Nat.pow 2 bits ∧ n < Word.size := by
  unfold readUnsigned at h
  simp only [Option.bind_eq_bind, Option.bind_eq_some_iff] at h
  obtain ⟨⟨whole, afterWhole⟩, -, ⟨fraction, afterFraction⟩, -, unit, -, h⟩ := h
  split at h
  · cases h
  · obtain ⟨value, hvalue, h⟩ := Option.bind_eq_some_iff.mp h
    split at h
    · next hlt =>
      cases h
      exact ⟨hlt, lt_of_scale hvalue⟩
    · cases h

/-- A number that is read for a signed type lies between its ends. -/
theorem bounds_of_readSigned {bits : Nat} {n : Int} (h : readSigned bits text = some (n, rest)) :
    -(Nat.pow 2 (bits - 1) : Int) ≤ n ∧ n < Nat.pow 2 (bits - 1) := by
  unfold readSigned at h
  obtain ⟨⟨magnitude, after⟩, -, h⟩ := Option.bind_eq_some_iff.mp h
  obtain ⟨hbounds, h⟩ := Option.ite_none_right_eq_some.mp h
  cases h
  exact hbounds

/-- A number that is read for an unsigned type is a value within it. -/
theorem fitsType_uint {bits n : Nat} (h : readUnsigned bits text = some (n, rest)) :
    FitsType (.uint bits) (.uint bits (BitVec.ofNat 256 n)) := by
  obtain ⟨hwidth, hword⟩ := lt_of_readUnsigned h
  have hvalue : (BitVec.ofNat 256 n).toNat = n := Word.toNat_ofNat_of_lt hword
  exact .uint bits _ (by rw [hvalue]; exact hwidth)

/-- A number that is within bounds is within them as a word, also when the word is too small to hold
all numbers within them. -/
theorem bounds_toInt_ofInt {n bound : Int} (hlower : -bound ≤ n) (hupper : n < bound) :
    -bound ≤ (BitVec.ofInt 256 n).toInt ∧ (BitVec.ofInt 256 n).toInt < bound := by
  rw [BitVec.toInt_ofInt, Int.bmod_def]
  omega

/-- A number that is read for a signed type is a value within it. -/
theorem fitsType_int {bits : Nat} {n : Int} (h : readSigned bits text = some (n, rest)) :
    FitsType (.int bits) (.int bits (BitVec.ofInt 256 n)) := by
  obtain ⟨hlower, hupper⟩ := bounds_of_readSigned h
  obtain ⟨hleast, hgreatest⟩ := bounds_toInt_ofInt hlower hupper
  exact .int bits _ hleast hgreatest

/-! ## Fixed bytes -/

/-- Bytes that are read for a fixed size are as many as the size says. -/
theorem length_of_readFixedBytes {size : Nat} {bytes : Bytes}
    (h : readFixedBytes size text = some (bytes, rest)) : bytes.length = size := by
  unfold readFixedBytes at h
  obtain ⟨⟨content, after⟩, -, h⟩ := Option.bind_eq_some_iff.mp h
  dsimp only at h
  split at h
  · next hlength =>
    cases h
    exact hlength
  · cases h

/-- Zeros behind bytes multiply their number by a power of 256. -/
theorem toNat_append_zeros (bytes : Bytes) (count : Nat) :
    Bytes.toNat (bytes ++ List.replicate count 0) = Bytes.toNat bytes * Nat.pow 256 count := by
  induction count with
  | zero => simp
  | succ count ih =>
    have hpow : Nat.pow 256 (count + 1) = 256 * Nat.pow 256 count := Nat.pow_succ'
    rw [List.replicate_succ', ← List.append_assoc, Bytes.toNat_append_singleton, ih, hpow]
    simp only [UInt8.toNat_zero]
    rw [Nat.add_zero, Nat.mul_left_comm]

/-- Bytes that are filled up to a word leave the end of the word empty. -/
theorem mod_ofBytes_padded (bytes : Bytes) :
    (Word.ofBytes (Bytes.padded bytes)).toNat % Nat.pow 256 (32 - bytes.length) = 0 := by
  apply Nat.mod_eq_zero_of_dvd
  by_cases hempty : bytes = []
  · subst hempty
    exact Nat.dvd_zero _
  · have hpos : 0 < bytes.length := List.length_pos_iff.mpr hempty
    have hzeros : 32 - bytes.length ≤ (32 - bytes.length % 32) % 32 := by omega
    unfold Word.ofBytes Bytes.padded
    rw [BitVec.toNat_ofNat, toNat_append_zeros]
    apply (Nat.dvd_mod_iff (Nat.pow_dvd_pow 256 (Nat.sub_le 32 bytes.length))).mpr
    exact Nat.dvd_mul_left_of_dvd (Nat.pow_dvd_pow 256 hzeros) _

/-- Bytes that are read for a fixed size leave the rest of their word empty. -/
theorem fitsType_fixedBytes {size : Nat} {bytes : Bytes}
    (h : readFixedBytes size text = some (bytes, rest)) :
    FitsType (.fixedBytes size) (.fixedBytes size (Word.ofBytes (Bytes.padded bytes))) := by
  have hlength := length_of_readFixedBytes h
  subst hlength
  exact .fixedBytes _ _ (mod_ofBytes_padded bytes)

/-! ## Values -/

mutual
/-- Whatever is read as a value of a type fits the type. -/
theorem fitsType_of_readValue : (type : AbiType) → (closing : Option Char) → (depth : Nat) →
    (text : List Char) → (value : AbiValue) → (rest : List Char) →
      readValue type closing depth text = some (value, rest) → FitsType type value
  | .bool, closing, depth, text, value, rest, h => by
    rw [readValue] at h
    obtain ⟨⟨b, after⟩, -, h⟩ := Option.map_eq_some_iff.mp h
    cases h
    exact .bool b
  | .uint bits, closing, depth, text, value, rest, h => by
    rw [readValue] at h
    obtain ⟨⟨n, after⟩, hread, h⟩ := Option.map_eq_some_iff.mp h
    cases h
    exact fitsType_uint hread
  | .int bits, closing, depth, text, value, rest, h => by
    rw [readValue] at h
    obtain ⟨⟨n, after⟩, hread, h⟩ := Option.map_eq_some_iff.mp h
    cases h
    exact fitsType_int hread
  | .fixedBytes size, closing, depth, text, value, rest, h => by
    rw [readValue] at h
    obtain ⟨⟨bytes, after⟩, hread, h⟩ := Option.map_eq_some_iff.mp h
    cases h
    exact fitsType_fixedBytes hread
  | .address, closing, depth, text, value, rest, h => by
    rw [readValue] at h
    obtain ⟨⟨bytes, after⟩, -, h⟩ := Option.map_eq_some_iff.mp h
    cases h
    exact .address _
  | .function, closing, depth, text, value, rest, h => by
    rw [readValue] at h
    obtain ⟨⟨bytes, after⟩, -, h⟩ := Option.map_eq_some_iff.mp h
    cases h
    exact .function _
  | .bytes, closing, depth, text, value, rest, h => by
    rw [readValue] at h
    obtain ⟨⟨bytes, after⟩, -, h⟩ := Option.map_eq_some_iff.mp h
    cases h
    exact .bytes bytes
  | .string, closing, depth, text, value, rest, h => by
    rw [readValue] at h
    obtain ⟨⟨content, after⟩, -, h⟩ := Option.map_eq_some_iff.mp h
    cases h
    exact .string _
  | .array item, closing, depth, text, value, rest, h => by
    rw [readValue] at h
    obtain ⟨⟨items, after⟩, hread, h⟩ := Option.map_eq_some_iff.mp h
    cases h
    refine .array item items fun value hvalue => ?_
    obtain ⟨depth, text, rest, hitem⟩ := exists_of_readArray hread value hvalue
    exact fitsType_of_readValue item _ depth text value rest hitem
  | .fixedArray item count, closing, depth, text, value, rest, h => by
    rw [readValue] at h
    obtain ⟨⟨items, after⟩, hread, h⟩ := Option.bind_eq_some_iff.mp h
    dsimp only at h
    split at h
    · next hcount =>
      cases h
      subst hcount
      refine .fixedArray item items fun value hvalue => ?_
      obtain ⟨depth, text, rest, hitem⟩ := exists_of_readArray hread value hvalue
      exact fitsType_of_readValue item _ depth text value rest hitem
    · cases h
  | .tuple types, closing, depth, text, value, rest, h => by
    rw [readValue] at h
    split at h
    · obtain ⟨⟨values, after⟩, hread, h⟩ := Option.map_eq_some_iff.mp h
      cases h
      obtain ⟨hlength, heach⟩ := fitEach_of_readMembers types _ _ _ _ hread
      exact .tuple types values hlength heach
    · cases h

/-- The members of a tuple are as many as its types, and each is within its type. -/
theorem fitEach_of_readMembers : (types : List AbiType) → (depth : Nat) → (text : List Char) →
    (values : List AbiValue) → (rest : List Char) →
      readMembers types depth text = some (values, rest) →
        types.length = values.length ∧ ∀ p ∈ types.zip values, FitsType p.1 p.2
  | [], depth, text, values, rest, h => by
    rw [readMembers] at h
    split at h
    · cases h
      exact ⟨rfl, fun p hp => absurd hp List.not_mem_nil⟩
    · cases h
  | type :: types, depth, text, values, rest, h => by
    rw [readMembers] at h
    split at h
    · cases h
    · next value after hvalue =>
      obtain ⟨⟨others, behind⟩, hothers, h⟩ := Option.map_eq_some_iff.mp h
      cases h
      obtain ⟨hlength, heach⟩ := fitEach_of_readFurtherMembers types _ _ _ _ hothers
      refine ⟨congrArg (· + 1) hlength, ?_⟩
      rw [List.zip_cons_cons, List.forall_mem_cons]
      exact ⟨fitsType_of_readValue type _ _ _ _ _ hvalue, heach⟩

/-- The members of a tuple behind the first are as many as the types that are left, and each is
within its type. -/
theorem fitEach_of_readFurtherMembers : (types : List AbiType) → (depth : Nat) →
    (text : List Char) → (values : List AbiValue) → (rest : List Char) →
      readFurtherMembers types depth text = some (values, rest) →
        types.length = values.length ∧ ∀ p ∈ types.zip values, FitsType p.1 p.2
  | [], depth, text, values, rest, h => by
    rw [readFurtherMembers] at h
    split at h
    · cases h
      exact ⟨rfl, fun p hp => absurd hp List.not_mem_nil⟩
    · cases h
  | type :: types, depth, text, values, rest, h => by
    rw [readFurtherMembers] at h
    split at h
    · split at h
      · cases h
      · next value after hvalue =>
        obtain ⟨⟨others, behind⟩, hothers, h⟩ := Option.map_eq_some_iff.mp h
        cases h
        obtain ⟨hlength, heach⟩ := fitEach_of_readFurtherMembers types _ _ _ _ hothers
        refine ⟨congrArg (· + 1) hlength, ?_⟩
        rw [List.zip_cons_cons, List.forall_mem_cons]
        exact ⟨fitsType_of_readValue type _ _ _ _ _ hvalue, heach⟩
    · cases h
end

/-- What a whole text is read as is within the type that it was read for. -/
theorem fitsType_of_read? {type : AbiType} {text : String} {value : AbiValue}
    (h : read? type text = some value) : FitsType type value := by
  unfold read? at h
  split at h
  · next hread =>
    cases h
    exact fitsType_of_readValue type _ _ _ _ _ hread
  · cases h

end Literal

end ContractHarness
