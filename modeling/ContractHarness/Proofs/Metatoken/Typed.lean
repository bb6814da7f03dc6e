import ContractHarness.Proofs.Abi.Typed
import ContractHarness.Proofs.Metatoken.Proxied

/-!
# Results are of their types

Any data can stand in for the result of a call through the proxy. Parts of it may overlap, offsets
may lead anywhere, words may have bits beyond their type, and text may be no text. What is decoded
is of the types all the same, so that it can be encoded, and its encoding is decoded to it again.

The encoding can be longer than the data was, because parts that overlap are written out one by one.
It is decoded where it can be held in memory.
-/

set_option autoImplicit false

namespace ContractHarness.Metatoken

open ContractHarness.Except (mapError_ok_iff)

variable {memory : Memory} {types : List AbiType} {values : List AbiValue} {data inner : Bytes}

/-- The layer around the result is bytes and nothing else. -/
theorem exists_bytes_of_decodeSequence
    (h : AbiType.decodeSequence memory [.bytes] data = .ok values) :
    ∃ content, values = [.bytes content] := by
  have hsized : ∀ type ∈ [AbiType.bytes], type.isZeroSized = false := by
    intro type htype
    rw [List.mem_singleton.mp htype]
    rfl
  obtain ⟨-, after, hreads⟩ := AbiType.readsEach_of_decodeSequence hsized h
  obtain ⟨value, rfl⟩ := List.length_eq_one_iff.mp hreads.length.symm
  have hvalue : OfType .bytes value := hreads.ofTypes (.bytes, value) List.mem_cons_self
  cases hvalue with
  | bytes content => exact ⟨content, rfl⟩

/-- What is found in a wrapper is always bytes. -/
theorem decodeResult_ne_notBytes : decodeResult memory types data ≠ .error .notBytes := by
  intro h
  unfold decodeResult at h
  split at h
  · cases h
  · next content _ =>
    cases hvalues : AbiType.decodeSequence memory types content <;> rw [hvalues] at h <;> cases h
  · next outer hbytes houter =>
    obtain ⟨content, rfl⟩ := exists_bytes_of_decodeSequence houter
    exact hbytes content rfl

/-- The values of a result were decoded from the bytes inside the wrapper. -/
theorem decodeSequence_of_decodeResult (h : decodeResult memory types data = .ok values) :
    ∃ content, AbiType.decodeSequence memory types content = .ok values := by
  unfold decodeResult at h
  split at h
  · cases h
  · next content _ => exact ⟨content, mapError_ok_iff.mp h⟩
  · cases h

/-- The result in a wrapper is decoded as it is alone. -/
theorem decodeResult_wrapped (h : (wrapResult inner).length < UInt64.size) :
    decodeResult memory types (wrapResult inner) =
      (AbiType.decodeSequence memory types inner).mapError .values := by
  unfold decodeResult
  rw [decodeSequence_wrapResult h]

/-- What is decoded from any data is one value of each type, a tuple where a tuple is asked for. It
can be encoded, and decoding the encoding gives the same values, as long as the encoding can be held
in memory. -/
theorem decodeResult_typed (hsized : ∀ type ∈ types, type.isZeroSized = false) (data : Bytes) :
    decodeResult memory types data ≠ .error .notBytes ∧
    (∀ c value after, c.depth ≤ maximalDepth →
      (AbiType.tuple types).decode c = .ok (value, after) → ∃ members, value = .tuple members) ∧
    ∀ values, decodeResult memory types data = .ok values →
      values.length = types.length ∧ (∀ p ∈ types.zip values, OfType p.1 p.2) ∧
      ∃ inner, encodeCalldata types values = .ok inner ∧
        ((wrapResult inner).length < UInt64.size →
          decodeResult memory types (wrapResult inner) = .ok values) := by
  refine ⟨decodeResult_ne_notBytes, ?_, ?_⟩
  · intro c value after hdepth h
    have hof := (AbiType.reads_of_decode _ _ _ _ hdepth h).ofType
    cases hof with
    | tuple types members length each => exact ⟨members, rfl⟩
  · intro values h
    obtain ⟨content, hvalues⟩ := decodeSequence_of_decodeResult h
    obtain ⟨-, after, hreads⟩ := AbiType.readsEach_of_decodeSequence hsized hvalues
    have haccepts : AbiType.acceptsAll types values = true :=
      AbiType.acceptsAll_of_each hreads.length fun p hp =>
        AbiType.accepts_iff_ofType.mpr (hreads.ofTypes p hp)
    refine ⟨hreads.length.symm, hreads.ofTypes, _, encodeCalldata_ok_iff.mpr ⟨haccepts, rfl⟩, ?_⟩
    intro hmemory
    have hshorter := length_wrapResult (AbiValue.encodeSequence values)
    rw [decodeResult_wrapped hmemory, AbiType.decodeSequence_again hsized hvalues (by omega)]
    rfl

/-! ## A result of which the parts overlap -/

section Overlap

/-- Two types of changing size, and one of a word. -/
def overlapTypes : List AbiType :=
  [.array .bool, .bytes, .address]

/-- Both offsets lead to the last three words. The address has bits beyond it, and so has the first
truth value. -/
def overlap : Bytes :=
  Piece.numberWord 96 ++ Piece.numberWord 96 ++ List.replicate 32 255 ++
    Piece.numberWord 2 ++ Piece.numberWord 7 ++ Piece.numberWord 0

/-- The array and the bytes are read from the same place. -/
def overlapValues : List AbiValue :=
  [.array [.bool true, .bool false], .bytes [0, 0], .address (Address.ofNat (Nat.pow 2 160 - 1))]

set_option maxRecDepth 2000 in
/-- Data that no encoder writes has values that are encoded as other data and decoded again. -/
theorem decodeResult_overlap :
    decodeResult Rehearsal.memory overlapTypes (wrapResult overlap) = .ok overlapValues ∧
    ∃ inner, encodeCalldata overlapTypes overlapValues = .ok inner ∧ inner ≠ overlap ∧
      decodeResult Rehearsal.memory overlapTypes (wrapResult inner) = .ok overlapValues := by
  have hlength : (wrapResult overlap).length < UInt64.size := by decide +kernel
  have hvalues : AbiType.decodeSequence Rehearsal.memory overlapTypes overlap =
      .ok overlapValues := by rfl
  have hdecoded : decodeResult Rehearsal.memory overlapTypes (wrapResult overlap) =
      .ok overlapValues := by
    rw [decodeResult_wrapped hlength, hvalues]
    rfl
  obtain ⟨-, -, h⟩ :=
    @decodeResult_typed Rehearsal.memory overlapTypes (by decide) (wrapResult overlap)
  obtain ⟨-, -, inner, hencoded, hagain⟩ := h _ hdecoded
  obtain ⟨-, rfl⟩ := encodeCalldata_ok_iff.mp hencoded
  exact ⟨hdecoded, _, hencoded, by decide +kernel, hagain (by decide +kernel)⟩

end Overlap

end ContractHarness.Metatoken
