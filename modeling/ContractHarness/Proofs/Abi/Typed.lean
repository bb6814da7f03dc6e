import ContractHarness.Proofs.Abi.RoundTrip
import ContractHarness.Proofs.Except

/-!
# Decoded values are of their types

Whatever the data is, a value that a decoder gives back is of the type that was asked for, is nested
no deeper than the decoder may step, and is read again from its own encoding. Nothing is assumed
about the data: its parts may overlap and its words may have any bits set. Nor is anything assumed
about the type: where items take no words the decoder gives back an empty array, which is encoded
like any other.

The depth of the cursor carries the induction. A reader leaves the cursor as deep as it found it, so
that values read one after the other start at one depth.
-/

set_option autoImplicit false

namespace ContractHarness

open ContractHarness.Except (bind_ok_iff)

/-! ## How deep a cursor is -/

namespace Cursor

variable {c after target : Cursor} {n : Nat} {w : Word}

/-- A word is read at one depth. -/
theorem depth_of_word (h : c.word = .ok (w, after)) : after.depth = c.depth := by
  unfold word at h
  dsimp only at h
  split at h
  · cases h
    rfl
  · cases h

/-- An offset or a length is read at one depth. -/
theorem depth_of_number (h : c.number = .ok (n, after)) : after.depth = c.depth := by
  obtain ⟨⟨w, c'⟩, hword, h⟩ := bind_ok_iff.mp h
  have hdepth := depth_of_word hword
  dsimp only at h
  split at h
  · cases h
    exact hdepth
  · cases h

/-- A step to an offset goes one deeper, which the limit allows. -/
theorem depth_of_part (h : c.part n = .ok target) :
    c.depth < maximalDepth ∧ target.depth = c.depth + 1 := by
  unfold part at h
  split at h
  · cases h
  · next hdepth =>
    split at h
    · cases h
    · cases h
      exact ⟨Nat.lt_of_not_le hdepth, rfl⟩

/-- A step into what lies ahead goes one deeper, which the limit allows. -/
theorem depth_of_inner (h : c.inner = .ok target) :
    c.depth < maximalDepth ∧ target.depth = c.depth + 1 := by
  unfold inner at h
  split at h
  · cases h
  · next hdepth =>
    cases h
    exact ⟨Nat.lt_of_not_le hdepth, rfl⟩

/-- To follow an offset goes one deeper there and stays at the depth behind the offset. -/
theorem depth_of_follow (h : c.follow = .ok (target, after)) :
    c.depth < maximalDepth ∧ target.depth = c.depth + 1 ∧ after.depth = c.depth := by
  obtain ⟨⟨offset, c'⟩, hnumber, h⟩ := bind_ok_iff.mp h
  obtain ⟨t, hpart, h⟩ := bind_ok_iff.mp h
  cases h
  obtain ⟨hlt, hdepth⟩ := depth_of_part hpart
  exact ⟨hlt, hdepth, depth_of_number hnumber⟩

/-- A group is read one step further in. -/
theorem exists_of_group {α : Type} {remote : Bool}
    {read : Cursor → Except DecodeError (α × Cursor)} {value : α}
    (h : group remote read c = .ok (value, after)) :
    c.depth < maximalDepth ∧ after.depth = c.depth ∧
      ∃ target behind, target.depth = c.depth + 1 ∧ read target = .ok (value, behind) := by
  unfold group at h
  cases remote with
  | true =>
    rw [if_pos rfl] at h
    obtain ⟨⟨target, after'⟩, hfollow, h⟩ := bind_ok_iff.mp h
    obtain ⟨⟨value', behind⟩, hread, h⟩ := bind_ok_iff.mp h
    cases h
    obtain ⟨hlt, htarget, hafter⟩ := depth_of_follow hfollow
    exact ⟨hlt, hafter, target, behind, htarget, hread⟩
  | false =>
    rw [if_neg Bool.false_ne_true] at h
    obtain ⟨target, hinner, h⟩ := bind_ok_iff.mp h
    obtain ⟨⟨value', behind⟩, hread, h⟩ := bind_ok_iff.mp h
    cases h
    obtain ⟨hlt, htarget⟩ := depth_of_inner hinner
    exact ⟨hlt, rfl, target, behind, htarget, hread⟩

end Cursor

/-! ## What is read -/

/-- A value was read that is of the type, that is read again from its encoding, and that is no
deeper than the decoder may step. -/
structure Reads (type : AbiType) (c : Cursor) (value : AbiValue) (after : Cursor) : Prop where
  ofType : OfType type value
  again : DecodesBack type value
  nesting : c.depth + value.nesting ≤ maximalDepth
  depth : after.depth = c.depth

/-- Values were read, one of each type, each of which is read again from its encoding and none of
which is deeper than the decoder may step. -/
structure ReadsEach (types : List AbiType) (c : Cursor) (values : List AbiValue)
    (after : Cursor) : Prop where
  length : types.length = values.length
  ofTypes : ∀ p ∈ types.zip values, OfType p.1 p.2
  again : ∀ p ∈ types.zip values, DecodesBack p.1 p.2
  nesting : c.depth + AbiValue.nestingOfAll values ≤ maximalDepth
  depth : after.depth = c.depth

namespace AbiType

variable {c after : Cursor}

/-- A value in a word is of its type whatever the word is. -/
theorem reads_of_word {type : AbiType} {value : AbiValue} (hdepth : c.depth ≤ maximalDepth)
    (hcounted : type.isCounted = true) (hof : ∀ w, OfType type (type.ofWord w))
    (hnesting : ∀ w, (type.ofWord w).nesting = 0)
    (h : (do
      let (w, c) ← c.word
      return (type.ofWord w, c)) = Except.ok (value, after)) : Reads type c value after := by
  obtain ⟨⟨w, c'⟩, hword, h⟩ := bind_ok_iff.mp h
  cases h
  exact ⟨hof w, (hof w).decodesBack hcounted, by rw [hnesting]; exact hdepth,
    Cursor.depth_of_word hword⟩

/-- Bytes are read within the limit, and the decoder comes back to the depth that it was at. -/
theorem depth_of_decodeBytes {content : Bytes} (h : decodeBytes c = .ok (content, after)) :
    c.depth < maximalDepth ∧ after.depth = c.depth := by
  obtain ⟨⟨target, after'⟩, hfollow, h⟩ := bind_ok_iff.mp h
  obtain ⟨⟨count, target'⟩, -, h⟩ := bind_ok_iff.mp h
  obtain ⟨content', -, h⟩ := bind_ok_iff.mp h
  cases h
  obtain ⟨hlt, -, hafter⟩ := Cursor.depth_of_follow hfollow
  exact ⟨hlt, hafter⟩

/-- Items are read like values when each of them is. -/
theorem repeated_reads {item : AbiType} {count : Nat} {items : List AbiValue}
    (hread : ∀ c value after, c.depth ≤ maximalDepth → item.decode c = .ok (value, after) →
      Reads item c value after)
    (hdepth : c.depth ≤ maximalDepth)
    (h : Cursor.repeated (fun c => item.decode c) count c = .ok (items, after)) :
    items.length = count ∧ (∀ value ∈ items, OfType item value) ∧
      (∀ value ∈ items, DecodesBack item value) ∧
      c.depth + AbiValue.nestingOfAll items ≤ maximalDepth := by
  induction count generalizing c items with
  | zero =>
    cases h
    exact ⟨rfl, fun _ hmem => absurd hmem List.not_mem_nil,
      fun _ hmem => absurd hmem List.not_mem_nil, hdepth⟩
  | succ count ih =>
    obtain ⟨⟨value, c'⟩, hvalue, h⟩ := bind_ok_iff.mp h
    obtain ⟨⟨values, c''⟩, hvalues, h⟩ := bind_ok_iff.mp h
    cases h
    have hfirst := hread _ _ _ hdepth hvalue
    have hsame := hfirst.depth
    obtain ⟨hlength, hof, hagain, hnesting⟩ := ih (by omega) hvalues
    refine ⟨congrArg (· + 1) hlength, List.forall_mem_cons.mpr ⟨hfirst.ofType, hof⟩,
      List.forall_mem_cons.mpr ⟨hfirst.again, hagain⟩, ?_⟩
    have hvalueNesting := hfirst.nesting
    rw [AbiValue.nestingOfAll]
    omega

/-- An array that is decoded is of its type when every item that is decoded is. -/
theorem reads_of_array {item : AbiType} {value : AbiValue}
    (hread : ∀ c value after, c.depth ≤ maximalDepth → item.decode c = .ok (value, after) →
      Reads item c value after)
    (h : (AbiType.array item).decode c = .ok (value, after)) :
    Reads (.array item) c value after := by
  rw [decode] at h
  obtain ⟨⟨target, after'⟩, hfollow, h⟩ := bind_ok_iff.mp h
  obtain ⟨⟨count, target'⟩, hnumber, h⟩ := bind_ok_iff.mp h
  obtain ⟨hlt, htarget, hafter⟩ := Cursor.depth_of_follow hfollow
  have hnumber := Cursor.depth_of_number hnumber
  dsimp only at h
  split at h
  · -- no item is counted, and no step is taken into the items
    cases h
    have hof : ∀ value ∈ [], OfType item value := fun _ hmem => absurd hmem List.not_mem_nil
    have hagain : ∀ value ∈ [], DecodesBack item value :=
      fun _ hmem => absurd hmem List.not_mem_nil
    exact ⟨.array item [] hof, decodesBack_array (.inl rfl) hof hagain, hlt, hafter⟩
  · next hcounted =>
    rw [Bool.or_eq_true, decide_eq_true_eq, decide_eq_true_eq, not_or] at hcounted
    split at h
    · cases h
    obtain ⟨inside, hinner, h⟩ := bind_ok_iff.mp h
    obtain ⟨⟨items, behind⟩, hitems, h⟩ := bind_ok_iff.mp h
    cases h
    obtain ⟨hltInner, hinside⟩ := Cursor.depth_of_inner hinner
    obtain ⟨-, hof, hagain, hnesting⟩ := repeated_reads hread (by omega) hitems
    have hwordy : 0 < item.minimumWords := Nat.pos_of_ne_zero hcounted.2
    have hsteps : c.depth + (AbiValue.array items).nesting ≤ maximalDepth := by
      rw [AbiValue.nesting]
      split <;> omega
    exact ⟨.array item items hof, decodesBack_array (.inr hwordy) hof hagain, hsteps, hafter⟩

/-- A fixed array that is decoded is of its type when every item that is decoded is. -/
theorem reads_of_fixedArray {item : AbiType} {count : Nat} {value : AbiValue}
    (hread : ∀ c value after, c.depth ≤ maximalDepth → item.decode c = .ok (value, after) →
      Reads item c value after)
    (h : (AbiType.fixedArray item count).decode c = .ok (value, after)) :
    Reads (.fixedArray item count) c value after := by
  rw [decode] at h
  obtain ⟨⟨items, c'⟩, hgroup, h⟩ := bind_ok_iff.mp h
  cases h
  obtain ⟨hlt, hafter, target, behind, htarget, hitems⟩ := Cursor.exists_of_group hgroup
  obtain ⟨rfl, hof, hagain, hnesting⟩ := repeated_reads hread (by omega) hitems
  refine ⟨.fixedArray item items hof, decodesBack_fixedArray hof hagain, ?_, hafter⟩
  rw [AbiValue.nesting]
  omega

/-- A tuple that is decoded is of its type when the members that are decoded are. -/
theorem reads_of_tuple {types : List AbiType} {value : AbiValue}
    (hread : ∀ c values after, c.depth ≤ maximalDepth → decodeEach types c = .ok (values, after) →
      ReadsEach types c values after)
    (h : (AbiType.tuple types).decode c = .ok (value, after)) :
    Reads (.tuple types) c value after := by
  rw [decode] at h
  obtain ⟨⟨values, c'⟩, hgroup, h⟩ := bind_ok_iff.mp h
  cases h
  obtain ⟨hlt, hafter, target, behind, htarget, hvalues⟩ := Cursor.exists_of_group hgroup
  obtain ⟨hlength, hof, hagain, hnesting, -⟩ := hread _ _ _ (by omega) hvalues
  refine ⟨.tuple types values hlength hof, decodesBack_tuple hlength hof hagain, ?_, hafter⟩
  rw [AbiValue.nesting]
  omega

mutual
/-- Every value that is decoded is of its type. -/
theorem reads_of_decode : (type : AbiType) → (c : Cursor) → (value : AbiValue) →
    (after : Cursor) → c.depth ≤ maximalDepth → type.decode c = .ok (value, after) →
      Reads type c value after
  | .bool, _, _, _, hdepth, h =>
    reads_of_word hdepth rfl (fun _ => .bool _) (fun _ => rfl) h
  | .int bits, _, _, _, hdepth, h =>
    reads_of_word hdepth rfl (fun _ => .int bits _) (fun _ => rfl) h
  | .uint bits, _, _, _, hdepth, h =>
    reads_of_word hdepth rfl (fun _ => .uint bits _) (fun _ => rfl) h
  | .fixedBytes size, _, _, _, hdepth, h =>
    reads_of_word hdepth rfl (fun _ => .fixedBytes size _) (fun _ => rfl) h
  | .address, _, _, _, hdepth, h =>
    reads_of_word hdepth rfl (fun _ => .address _) (fun _ => rfl) h
  | .function, _, _, _, hdepth, h =>
    reads_of_word hdepth rfl (fun _ => .function _) (fun _ => rfl) h
  | .bytes, _, _, _, _, h => by
    rw [decode] at h
    obtain ⟨⟨content, c'⟩, hbytes, h⟩ := bind_ok_iff.mp h
    cases h
    obtain ⟨hlt, hafter⟩ := depth_of_decodeBytes hbytes
    exact ⟨.bytes content, decodesBack_bytes content, hlt, hafter⟩
  | .string, _, _, _, _, h => by
    rw [decode] at h
    obtain ⟨⟨content, c'⟩, hbytes, h⟩ := bind_ok_iff.mp h
    cases h
    obtain ⟨hlt, hafter⟩ := depth_of_decodeBytes hbytes
    exact ⟨.string _, decodesBack_string _, hlt, hafter⟩
  | .array item, _, _, _, _, h => reads_of_array (reads_of_decode item) h
  | .fixedArray item _, _, _, _, _, h => reads_of_fixedArray (reads_of_decode item) h
  | .tuple types, _, _, _, _, h => reads_of_tuple (readsEach_of_decodeEach types) h

/-- Values that are decoded one after another are each of their types. -/
theorem readsEach_of_decodeEach : (types : List AbiType) → (c : Cursor) →
    (values : List AbiValue) → (after : Cursor) → c.depth ≤ maximalDepth →
      decodeEach types c = .ok (values, after) → ReadsEach types c values after
  | [], c, values, after, hdepth, h => by
    cases h
    exact ⟨rfl, fun _ hmem => absurd hmem List.not_mem_nil,
      fun _ hmem => absurd hmem List.not_mem_nil, hdepth, rfl⟩
  | type :: types, c, values, after, hdepth, h => by
    rw [decodeEach] at h
    obtain ⟨⟨value, c'⟩, hvalue, h⟩ := bind_ok_iff.mp h
    obtain ⟨⟨values', c''⟩, hvalues, h⟩ := bind_ok_iff.mp h
    cases h
    have hfirst := reads_of_decode type _ _ _ hdepth hvalue
    have hsame := hfirst.depth
    have hrest := readsEach_of_decodeEach types _ _ _ (by omega) hvalues
    refine ⟨congrArg (· + 1) hrest.length, ?_, ?_, ?_, hrest.depth.trans hsame⟩
    · rw [List.zip_cons_cons, List.forall_mem_cons]
      exact ⟨hfirst.ofType, hrest.ofTypes⟩
    · rw [List.zip_cons_cons, List.forall_mem_cons]
      exact ⟨hfirst.again, hrest.again⟩
    have hfirstNesting := hfirst.nesting
    have hrestNesting := hrest.nesting
    rw [AbiValue.nestingOfAll]
    omega
end

/-- Decoded parameters were read one by one, and there was room for their template. -/
theorem readsEach_of_decodeSequence {memory : Memory} {types : List AbiType}
    {values : List AbiValue} {data : Bytes} (hsized : ∀ type ∈ types, type.isZeroSized = false)
    (h : decodeSequence memory types data = .ok values) :
    tokensOfAll types ≤ memory.tokens ∧
      ∃ after, ReadsEach types (Cursor.start data) values after := by
  by_cases hempty : types = []
  · subst hempty
    cases h
    exact ⟨Nat.zero_le _, _, readsEach_of_decodeEach [] _ _ _ (Nat.zero_le _) rfl⟩
  · unfold decodeSequence at h
    rw [not_allZeroSized hempty hsized, if_neg Bool.false_ne_true] at h
    dsimp only at h
    split at h
    · cases h
    split at h
    · cases h
    · next hroom =>
      obtain ⟨⟨values', after⟩, hread, h⟩ := bind_ok_iff.mp h
      cases h
      exact ⟨Nat.not_lt.mp hroom, after, readsEach_of_decodeEach _ _ _ _ (Nat.zero_le _) hread⟩

/-- What was decoded is decoded again from its encoding, if that can be referred to. -/
theorem decodeSequence_again {memory : Memory} {types : List AbiType} {values : List AbiValue}
    {data : Bytes} (hsized : ∀ type ∈ types, type.isZeroSized = false)
    (h : decodeSequence memory types data = .ok values)
    (hlength : (AbiValue.encodeSequence values).length < UInt64.size) :
    decodeSequence memory types (AbiValue.encodeSequence values) = .ok values := by
  obtain ⟨hroom, after, hreads⟩ := readsEach_of_decodeSequence hsized h
  have hnesting := Nat.le_trans (Nat.le_add_left _ _) hreads.nesting
  have hagain := decodeSequence_of_each hreads.length hreads.ofTypes hreads.again hsized hroom
    hnesting [] (by rw [List.append_nil]; exact hlength)
  rw [List.append_nil] at hagain
  exact hagain

end AbiType

end ContractHarness
