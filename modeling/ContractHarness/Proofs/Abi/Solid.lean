import ContractHarness.Proofs.Abi.RoundTrip

/-!
# Types without gaps

A type is solid when no tuple and no fixed array in it is empty, so that there is something to
encode in every part of its values. Such a type says on its own what a decoder needs to know of
each value: nothing in it goes uncounted, and the nesting of the type bounds the nesting of the
value.
-/

set_option autoImplicit false

namespace ContractHarness

namespace AbiType

mutual
/-- No tuple and no fixed array in the type is empty. -/
def isSolid : AbiType → Bool
  | .array item => item.isSolid
  | .fixedArray item count => count ≠ 0 && item.isSolid
  | .tuple types => !types.isEmpty && allSolid types
  | _ => true

/-- All of the types are solid. -/
def allSolid : List AbiType → Bool
  | [] => true
  | type :: types => type.isSolid && allSolid types
end

mutual
/-- A solid type has something to encode. -/
theorem isZeroSized_of_isSolid : (type : AbiType) → type.isSolid = true → type.isZeroSized = false
  | .array item, h => by
    rw [isSolid] at h
    rw [isZeroSized, isZeroSized_of_isSolid item h]
  | .fixedArray item count, h => by
    rw [isSolid, Bool.and_eq_true, decide_eq_true_eq] at h
    rw [isZeroSized, isZeroSized_of_isSolid item h.2, decide_eq_false h.1]
    rfl
  | .tuple [], h => by
    cases h
  | .tuple (type :: types), h => by
    rw [isSolid, allSolid, Bool.and_eq_true, Bool.and_eq_true] at h
    rw [isZeroSized, allZeroSized, isZeroSized_of_isSolid type h.2.1]
    rfl
  | .bool, _ | .int _, _ | .uint _, _ | .fixedBytes _, _ | .address, _ | .function, _ | .bytes, _
  | .string, _ => rfl

/-- Every solid type has something to encode. -/
theorem forall_isZeroSized_of_allSolid : (types : List AbiType) → allSolid types = true →
    ∀ type ∈ types, type.isZeroSized = false
  | [], _ => fun _ h => absurd h List.not_mem_nil
  | type :: types, h => by
    rw [allSolid, Bool.and_eq_true] at h
    rw [List.forall_mem_cons]
    exact ⟨isZeroSized_of_isSolid type h.1, forall_isZeroSized_of_allSolid types h.2⟩
end

mutual
/-- The items of every array in a solid type are counted. -/
theorem isCounted_of_isSolid : (type : AbiType) → type.isSolid = true → type.isCounted = true
  | .array item, h => by
    rw [isSolid] at h
    rw [isCounted, isZeroSized_of_isSolid item h, isCounted_of_isSolid item h]
    rfl
  | .fixedArray item count, h => by
    rw [isSolid, Bool.and_eq_true] at h
    rw [isCounted, isCounted_of_isSolid item h.2]
  | .tuple types, h => by
    rw [isSolid, Bool.and_eq_true] at h
    rw [isCounted, allCounted_of_allSolid types h.2]
  | .bool, _ | .int _, _ | .uint _, _ | .fixedBytes _, _ | .address, _ | .function, _ | .bytes, _
  | .string, _ => rfl

/-- The items of every array in solid types are counted. -/
theorem allCounted_of_allSolid : (types : List AbiType) → allSolid types = true →
    allCounted types = true
  | [], _ => rfl
  | type :: types, h => by
    rw [allSolid, Bool.and_eq_true] at h
    rw [allCounted, isCounted_of_isSolid type h.1, allCounted_of_allSolid types h.2]
    rfl
end

/-! ## Nesting -/

mutual
/-- How many steps a decoder takes at most into a value of the type. -/
def nesting : AbiType → Nat
  | .bytes => 1
  | .string => 1
  | .array item => item.nesting + 2
  | .fixedArray item _ => item.nesting + 1
  | .tuple types => nestingOfAll types + 1
  | _ => 0

/-- How many steps a decoder takes at most into values of the types. -/
def nestingOfAll : List AbiType → Nat
  | [] => 0
  | type :: types => max type.nesting (nestingOfAll types)
end

/-- Values that are each nested no deeper than their types are so together. -/
theorem nestingOfAll_le_of_each {types : List AbiType} {values : List AbiValue}
    (hlength : types.length = values.length)
    (heach : ∀ p ∈ types.zip values, p.2.nesting ≤ p.1.nesting) :
    AbiValue.nestingOfAll values ≤ nestingOfAll types := by
  induction types generalizing values with
  | nil =>
    cases values with
    | nil => exact Nat.le_refl 0
    | cons value values => cases hlength
  | cons type types ih =>
    cases values with
    | nil => cases hlength
    | cons value values =>
      rw [List.zip_cons_cons, List.forall_mem_cons] at heach
      have hfirst : value.nesting ≤ type.nesting := heach.1
      have hrest := ih (Nat.succ.inj hlength) heach.2
      rw [AbiValue.nestingOfAll, nestingOfAll]
      omega

end AbiType

/-- A value is nested no deeper than its type. -/
theorem OfType.nesting_le {type : AbiType} {value : AbiValue} (h : OfType type value) :
    value.nesting ≤ type.nesting := by
  induction h with
  | array item items each ih =>
    have hitems := AbiValue.nestingOfAll_le_iff.mpr ih
    rw [AbiValue.nesting, AbiType.nesting]
    split <;> omega
  | fixedArray item items each ih =>
    have hitems := AbiValue.nestingOfAll_le_iff.mpr ih
    rw [AbiValue.nesting, AbiType.nesting]
    omega
  | tuple types values length each ih =>
    have hvalues := AbiType.nestingOfAll_le_of_each length ih
    rw [AbiValue.nesting, AbiType.nesting]
    omega
  | _ => simp [AbiValue.nesting, AbiType.nesting]

/-- Values of solid types are read from their encoding when the decoder can step into the types and
has room for their template, and the data can be referred to. -/
theorem AbiType.decodeSequence_of_solid {memory : Memory} {types : List AbiType}
    {values : List AbiValue} (hsolid : allSolid types = true)
    (hnesting : nestingOfAll types ≤ maximalDepth) (hroom : tokensOfAll types ≤ memory.tokens) (haccepts : acceptsAll types values = true)
    (hlength : (AbiValue.encodeSequence values).length < UInt64.size) :
    decodeSequence memory types (AbiValue.encodeSequence values) = .ok values := by
  obtain ⟨hcount, heach⟩ := each_of_acceptsAll types values haccepts
  have hdepth := nestingOfAll_le_of_each hcount fun p hp => (heach p hp).nesting_le
  have hdecoded := decodeSequence_encodeSequence haccepts
    (forall_isZeroSized_of_allSolid types hsolid) (allCounted_of_allSolid types hsolid) hroom
    (Nat.le_trans hdepth hnesting) [] (by rwa [List.append_nil])
  rwa [List.append_nil] at hdecoded

end ContractHarness
