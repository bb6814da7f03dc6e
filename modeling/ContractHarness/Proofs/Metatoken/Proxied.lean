import ContractHarness.Metatoken
import ContractHarness.Proofs.Abi.Solid
import ContractHarness.Rehearsal.Decoder

/-!
# Results of calls through the proxy

A metatoken encodes the values that it returns as the parameters of a call, and the proxy hands that
encoding on as a single value of bytes. Decoding takes both layers off again. Nothing is normalised
on the way: a number beyond its declared width and the bytes behind a fixed size come back as they
were.
-/

set_option autoImplicit false

namespace ContractHarness.Metatoken

variable {memory : Memory} {types : List AbiType} {values : List AbiValue} {inner : Bytes}

/-- What the proxy returns for the result of a metatoken. -/
def wrapResult (inner : Bytes) : Bytes :=
  AbiValue.encodeSequence [.bytes inner]

/-- The check of the values accepts exactly those that fit their types. -/
theorem checkTypes_ok_iff (hlength : types.length = values.length) :
    checkTypes types values = .ok () ↔ AbiType.acceptsAll types values = true := by
  induction types generalizing values with
  | nil =>
    cases values with
    | nil => exact ⟨fun _ => rfl, fun _ => rfl⟩
    | cons value values => cases hlength
  | cons type types ih =>
    cases values with
    | nil => cases hlength
    | cons value values =>
      have hrest := ih (Nat.succ.inj hlength)
      rw [checkTypes, AbiType.acceptsAll]
      cases type.accepts value with
      | true => simpa using hrest
      | false => simp

/-- Values are calldata when they are of the types, and the calldata is their encoding. -/
theorem encodeCalldata_ok_iff : encodeCalldata types values = .ok inner ↔
    AbiType.acceptsAll types values = true ∧ inner = AbiValue.encodeSequence values := by
  unfold encodeCalldata
  by_cases hlength : types.length = values.length
  · rw [if_neg (by simpa using hlength), ← checkTypes_ok_iff hlength]
    cases checkTypes types values with
    | error e => simp [Except.map]
    | ok u => simp [Except.map, eq_comm]
  · rw [if_pos hlength]
    constructor
    · intro h
      cases h
    · rintro ⟨haccepts, -⟩
      exact absurd (AbiType.each_of_acceptsAll types values haccepts).1 hlength

/-- A wrapped result is longer than the result by two words at least. -/
theorem length_wrapResult (inner : Bytes) : inner.length + 64 ≤ (wrapResult inner).length := by
  unfold wrapResult AbiValue.encodeSequence
  rw [Piece.length_assemble, AbiValue.pieces, AbiValue.pieces, AbiValue.piece, Piece.lengths,
    Piece.lengths, Piece.length, Piece.headLength, Piece.tail]
  unfold AbiValue.encodeBytes Bytes.padded
  rw [List.length_append, List.length_append, Piece.length_numberWord]
  omega

/-- The bytes that were wrapped are found again, however much memory there is. -/
theorem decodeSequence_wrapResult (h : (wrapResult inner).length < UInt64.size) :
    AbiType.decodeSequence memory [.bytes] (wrapResult inner) = .ok [.bytes inner] := by
  have haccepts : AbiType.acceptsAll [.bytes] [.bytes inner] = true := rfl
  have hnesting : AbiValue.nestingOfAll [.bytes inner] ≤ maximalDepth := by
    simp [AbiValue.nestingOfAll, AbiValue.nesting, maximalDepth]
  have hdecoded := AbiType.decodeSequence_encodeSequence haccepts (by decide) rfl
    memory.tokens_pos hnesting [] (by rw [List.append_nil]; exact h)
  rw [List.append_nil] at hdecoded
  exact hdecoded

/-- Decoding the wrapped calldata gives the values back, when there is something in every part of
the types, the decoder can step into them, and it has room for their template. -/
theorem decodeResult_wrapResult (hsolid : AbiType.allSolid types = true)
    (hnesting : AbiType.nestingOfAll types ≤ maximalDepth)
    (hroom : AbiType.tokensOfAll types ≤ memory.tokens)
    (hencoded : encodeCalldata types values = .ok inner)
    (hlength : (wrapResult inner).length < UInt64.size) :
    decodeResult memory types (wrapResult inner) = .ok values := by
  obtain ⟨haccepts, rfl⟩ := encodeCalldata_ok_iff.mp hencoded
  have hinner := length_wrapResult (AbiValue.encodeSequence values)
  have hvalues := AbiType.decodeSequence_of_solid hsolid hnesting hroom haccepts (by omega)
  unfold decodeResult
  rw [decodeSequence_wrapResult hlength]
  dsimp only
  rw [hvalues]
  rfl

/-! ## A result with values beyond their types -/

section Levels

/-- Types of fixed and of changing size, with text inside an array of tuples. -/
def levelTypes : List AbiType :=
  [.uint 8, .fixedBytes 2, .array (.tuple [.string, .fixedArray (.int 16) 2]), .bytes]

/-- The number does not fit eight bits, and the fixed bytes do not end behind the second one. -/
def levelValues : List AbiValue :=
  [.uint 8 300, .fixedBytes 2 0xABCD00000000000000000000000000000000000000000000000000000000000001,
    .array [.tuple [.string "häh", .fixedArray [.int 16 (-70000), .int 16 4]]], .bytes [1, 2, 3]]

/-- Values in nested types come back from a wrapped result as they were. -/
theorem decodeResult_levels : ∃ inner, encodeCalldata levelTypes levelValues = .ok inner ∧
    decodeResult Rehearsal.memory levelTypes (wrapResult inner) = .ok levelValues := by
  have hencoded : encodeCalldata levelTypes levelValues =
      .ok (AbiValue.encodeSequence levelValues) := rfl
  exact ⟨_, hencoded, decodeResult_wrapResult (by decide) (by decide) (by decide) hencoded
    (by decide +kernel)⟩

end Levels

/-! ## A template without room -/

section Tables

/-- Each table has as many items as its length can say. -/
def tableType : AbiType :=
  .array (.fixedArray (.uint 8) 18446744073709551615)

/-- The result without tables of a metatoken that returns tables cannot be decoded, because no
process has room for a template with a table in it. -/
theorem decodeResult_noTables : AbiType.allSolid [tableType] = true ∧
    AbiType.nestingOfAll [tableType] ≤ maximalDepth ∧
    encodeCalldata [tableType] [.array []] = .ok (AbiValue.encodeSequence [.array []]) ∧
    (wrapResult (AbiValue.encodeSequence [.array []])).length < UInt64.size ∧
    ∀ memory, decodeResult memory [tableType] (wrapResult (AbiValue.encodeSequence [.array []])) =
      .error (.values .outOfMemory) := by
  have hlength : (wrapResult (AbiValue.encodeSequence [.array []])).length < UInt64.size := by
    decide +kernel
  refine ⟨by decide, by decide, rfl, hlength, fun memory => ?_⟩
  have hroom : memory.tokens < AbiType.tokensOfAll [tableType] :=
    Nat.lt_trans memory.tokens_lt (by decide)
  have hvalues : AbiType.decodeSequence memory [tableType] (AbiValue.encodeSequence [.array []]) =
      .error .outOfMemory := AbiType.decodeSequence_of_lt rfl (by decide) hroom
  unfold decodeResult
  rw [decodeSequence_wrapResult hlength]
  dsimp only
  rw [hvalues]
  rfl

end Tables

end ContractHarness.Metatoken
