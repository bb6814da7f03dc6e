import ContractHarness.Abi.Decoding

/-!
# Values of a type

The check `AbiType.accepts` as a relation, with one rule for each kind of type, so that what holds
of all accepted values can be proved by induction on the rules.

Two measures say when a value survives encoding and decoding: no array in its type has items
without anything to encode, and it is nested no deeper than the decoder steps. A decoder takes one
step into a group or a piece of text, and two into the items of an array, but only one into an empty
array.
-/

set_option autoImplicit false

namespace ContractHarness

/-- The value is of the type. -/
inductive OfType : AbiType → AbiValue → Prop where
  | bool (b : Bool) : OfType .bool (.bool b)
  | int (bits : Nat) (w : Word) : OfType (.int bits) (.int bits w)
  | uint (bits : Nat) (w : Word) : OfType (.uint bits) (.uint bits w)
  | fixedBytes (size : Nat) (w : Word) : OfType (.fixedBytes size) (.fixedBytes size w)
  | address (a : Address) : OfType .address (.address a)
  | function (f : BitVec 192) : OfType .function (.function f)
  | bytes (content : Bytes) : OfType .bytes (.bytes content)
  | string (text : String) : OfType .string (.string text)
  | array (item : AbiType) (items : List AbiValue) (each : ∀ value ∈ items, OfType item value) :
    OfType (.array item) (.array items)
  | fixedArray (item : AbiType) (items : List AbiValue)
    (each : ∀ value ∈ items, OfType item value) :
    OfType (.fixedArray item items.length) (.fixedArray items)
  | tuple (types : List AbiType) (values : List AbiValue) (length : types.length = values.length)
    (each : ∀ p ∈ types.zip values, OfType p.1 p.2) : OfType (.tuple types) (.tuple values)

namespace AbiType

mutual
/-- What is accepted is of the type. -/
theorem ofType_of_accepts : (type : AbiType) → (value : AbiValue) → type.accepts value = true →
    OfType type value
  | .bool, value, h => by
    cases value <;> simp [accepts] at h
    exact .bool _
  | .int bits, value, h => by
    cases value <;> simp [accepts] at h
    subst h
    exact .int _ _
  | .uint bits, value, h => by
    cases value <;> simp [accepts] at h
    subst h
    exact .uint _ _
  | .fixedBytes size, value, h => by
    cases value <;> simp [accepts] at h
    subst h
    exact .fixedBytes _ _
  | .address, value, h => by
    cases value <;> simp [accepts] at h
    exact .address _
  | .function, value, h => by
    cases value <;> simp [accepts] at h
    exact .function _
  | .bytes, value, h => by
    cases value <;> simp [accepts] at h
    exact .bytes _
  | .string, value, h => by
    cases value <;> simp [accepts] at h
    exact .string _
  | .array item, value, h => by
    cases value <;> simp [accepts] at h
    exact .array _ _ fun value hvalue => ofType_of_accepts item value (h value hvalue)
  | .fixedArray item count, value, h => by
    cases value <;> simp [accepts] at h
    obtain ⟨rfl, h⟩ := h
    exact .fixedArray _ _ fun value hvalue => ofType_of_accepts item value (h value hvalue)
  | .tuple types, value, h => by
    cases value <;> simp [accepts] at h
    obtain ⟨hlength, heach⟩ := each_of_acceptsAll types _ h
    exact .tuple _ _ hlength heach

/-- Values that are accepted are as many as the types, and each is of its type. -/
theorem each_of_acceptsAll : (types : List AbiType) → (values : List AbiValue) →
    acceptsAll types values = true →
      types.length = values.length ∧ ∀ p ∈ types.zip values, OfType p.1 p.2
  | [], values, h => by
    cases values with
    | nil => exact ⟨rfl, fun p hp => absurd hp List.not_mem_nil⟩
    | cons value values => simp [acceptsAll] at h
  | type :: types, values, h => by
    cases values with
    | nil => simp [acceptsAll] at h
    | cons value values =>
      simp only [acceptsAll, Bool.and_eq_true] at h
      obtain ⟨hlength, heach⟩ := each_of_acceptsAll types values h.2
      refine ⟨congrArg (· + 1) hlength, ?_⟩
      rw [List.zip_cons_cons, List.forall_mem_cons]
      exact ⟨ofType_of_accepts type value h.1, heach⟩
end

/-- As many values as types, each accepted by its own, are accepted together. -/
theorem acceptsAll_of_each {types : List AbiType} {values : List AbiValue}
    (hlength : types.length = values.length)
    (heach : ∀ p ∈ types.zip values, p.1.accepts p.2 = true) : acceptsAll types values = true := by
  induction types generalizing values with
  | nil =>
    cases values with
    | nil => rfl
    | cons value values => cases hlength
  | cons type types ih =>
    cases values with
    | nil => cases hlength
    | cons value values =>
      rw [List.zip_cons_cons, List.forall_mem_cons] at heach
      rw [acceptsAll, heach.1, ih (Nat.succ.inj hlength) heach.2]
      rfl

/-- The relation is the check. -/
theorem accepts_iff_ofType {type : AbiType} {value : AbiValue} :
    type.accepts value = true ↔ OfType type value := by
  constructor
  · exact ofType_of_accepts type value
  · intro h
    induction h with
    | array item items each ih => simpa [accepts] using ih
    | fixedArray item items each ih => simpa [accepts] using ih
    | tuple types values length each ih =>
      rw [accepts]
      exact acceptsAll_of_each length ih
    | _ => simp [accepts]

/-! ## Items without anything to encode -/

mutual
/-- No array in the type has items without anything to encode, which a decoder does not count. -/
def isCounted : AbiType → Bool
  | .array item => !item.isZeroSized && item.isCounted
  | .fixedArray item _ => item.isCounted
  | .tuple types => allCounted types
  | _ => true

/-- No array in the types has items without anything to encode. -/
def allCounted : List AbiType → Bool
  | [] => true
  | type :: types => type.isCounted && allCounted types
end

/-- Types are counted when each of them is. -/
theorem allCounted_iff {types : List AbiType} :
    allCounted types = true ↔ ∀ type ∈ types, type.isCounted = true := by
  induction types with
  | nil => simp [allCounted]
  | cons type types ih => rw [allCounted, Bool.and_eq_true, ih, List.forall_mem_cons]

/-- Some types, none of which is without anything to encode, have something to encode together. -/
theorem not_allZeroSized {types : List AbiType} (hne : types ≠ [])
    (h : ∀ type ∈ types, type.isZeroSized = false) : allZeroSized types = false := by
  cases types with
  | nil => exact absurd rfl hne
  | cons type types =>
    rw [allZeroSized, h type List.mem_cons_self]
    rfl

mutual
/-- A type with anything to encode announces a word. -/
theorem minimumWords_pos : (type : AbiType) → type.isZeroSized = false → 0 < type.minimumWords
  | .fixedArray item count, h => by
    simp only [isZeroSized, Bool.or_eq_false_iff, decide_eq_false_iff_not] at h
    exact Nat.mul_pos (Nat.pos_of_ne_zero h.1) (minimumWords_pos item h.2)
  | .tuple types, h => minimumWordsOfAll_pos types h
  | .bool, _ | .int _, _ | .uint _, _ | .fixedBytes _, _ | .address, _ | .function, _ | .bytes, _
  | .string, _ | .array _, _ => Nat.one_pos

/-- Types with anything to encode among them announce a word. -/
theorem minimumWordsOfAll_pos : (types : List AbiType) → allZeroSized types = false →
    0 < minimumWordsOfAll types
  | [], h => absurd h (by decide)
  | type :: types, h => by
    rw [allZeroSized, Bool.and_eq_false_iff] at h
    rw [minimumWordsOfAll]
    cases h with
    | inl h =>
      have hpos := minimumWords_pos type h
      omega
    | inr h =>
      have hpos := minimumWordsOfAll_pos types h
      omega
end

end AbiType

/-! ## Nesting -/

namespace AbiValue

mutual
/-- How many steps a decoder takes into the value. -/
def nesting : AbiValue → Nat
  | .bytes _ => 1
  | .string _ => 1
  | .array items => if items.isEmpty then 1 else nestingOfAll items + 2
  | .fixedArray items => nestingOfAll items + 1
  | .tuple values => nestingOfAll values + 1
  | _ => 0

/-- How many steps a decoder takes into the deepest of the values. -/
def nestingOfAll : List AbiValue → Nat
  | [] => 0
  | value :: values => max value.nesting (nestingOfAll values)
end

/-- Values are within a depth together when each of them is. -/
theorem nestingOfAll_le_iff {values : List AbiValue} {n : Nat} :
    nestingOfAll values ≤ n ↔ ∀ value ∈ values, value.nesting ≤ n := by
  induction values with
  | nil => simp [nestingOfAll]
  | cons value values ih => rw [nestingOfAll, Nat.max_le, ih, List.forall_mem_cons]

end AbiValue

end ContractHarness
