import ContractHarness.Abi.Encoding
import ContractHarness.Proofs.Abi.OfType

/-!
# The layout of encoded values

How long pieces are when they are laid out, that the type alone decides whether a piece stands in
the head, and that a value takes at least the words that its type announces.
-/

set_option autoImplicit false

namespace ContractHarness

namespace Piece

/-- How many bytes a piece takes in the head and in the tail together. -/
def length (piece : Piece) : Nat :=
  piece.headLength + piece.tail.length

/-- How many bytes pieces take together. -/
def lengths : List Piece → Nat
  | [] => 0
  | piece :: pieces => piece.length + lengths pieces

/-- A number takes 32 bytes. -/
@[simp] theorem length_numberWord (n : Nat) : (numberWord n).length = 32 :=
  Bytes.length_ofNat 32 n

/-- The heads of pieces take the length that is reserved for them. -/
theorem length_head (offset : Nat) (pieces : List Piece) :
    (head offset pieces).length = headsLength pieces := by
  induction pieces generalizing offset with
  | nil => rfl
  | cons piece pieces ih =>
    cases piece with
    | inline encoding => rw [head, List.length_append, ih, headsLength, headLength]
    | remote encoding =>
      rw [head, List.length_append, ih, length_numberWord, headsLength, headLength]

/-- Pieces that are put together take the sum of their lengths. -/
theorem length_assemble (pieces : List Piece) : (assemble pieces).length = lengths pieces := by
  have htails : headsLength pieces + (pieces.flatMap tail).length = lengths pieces := by
    induction pieces with
    | nil => rfl
    | cons piece pieces ih =>
      rw [headsLength, List.flatMap_cons, List.length_append, lengths, length]
      omega
  rw [assemble, List.length_append, length_head, htails]

/-- Pieces that all stand in the head leave nothing for the tail. -/
theorem flatMap_tail_of_not_isRemote {pieces : List Piece} (h : pieces.any isRemote = false) :
    pieces.flatMap tail = [] := by
  induction pieces with
  | nil => rfl
  | cons piece pieces ih =>
    rw [List.any_cons, Bool.or_eq_false_iff] at h
    rw [List.flatMap_cons, ih h.2]
    cases piece with
    | inline encoding => rfl
    | remote encoding => cases h.1

end Piece

namespace AbiValue

open Piece

/-- A group of pieces takes no less than the pieces in it. -/
theorem length_aggregate (pieces : List Piece) : lengths pieces ≤ (aggregate pieces).length := by
  unfold aggregate
  split
  · rw [Piece.length, Piece.tail, length_assemble]
    omega
  · rw [Piece.length, Piece.headLength, length_assemble]
    omega

/-- A group of pieces is referred to by an offset exactly when one of the pieces is. -/
theorem isRemote_aggregate (pieces : List Piece) :
    (aggregate pieces).isRemote = pieces.any isRemote := by
  unfold aggregate
  cases h : pieces.any isRemote <;> simp [Piece.isRemote]

end AbiValue

/-! ## Values that stand in the head -/

/-- Among values of types, one is referred to by an offset exactly when one of the types is dynamic.
-/
theorem any_isRemote_of_each {types : List AbiType} {values : List AbiValue}
    (hlength : types.length = values.length)
    (heach : ∀ p ∈ types.zip values, p.2.piece.isRemote = p.1.isDynamic) :
    (AbiValue.pieces values).any Piece.isRemote = AbiType.anyDynamic types := by
  induction types generalizing values with
  | nil =>
    cases values with
    | nil => rfl
    | cons value values => cases hlength
  | cons type types ih =>
    cases values with
    | nil => cases hlength
    | cons value values =>
      rw [List.zip_cons_cons, List.forall_mem_cons] at heach
      have hfirst : value.piece.isRemote = type.isDynamic := heach.1
      rw [AbiValue.pieces, List.any_cons, AbiType.anyDynamic, hfirst,
        ih (Nat.succ.inj hlength) heach.2]

/-- Among items of a type, one is referred to by an offset exactly when there are items and the type
is dynamic. -/
theorem any_isRemote_of_all {item : AbiType} {items : List AbiValue}
    (h : ∀ value ∈ items, value.piece.isRemote = item.isDynamic) :
    (AbiValue.pieces items).any Piece.isRemote = (decide (items.length ≠ 0) && item.isDynamic) := by
  induction items with
  | nil => rfl
  | cons value items ih =>
    rw [List.forall_mem_cons] at h
    rw [AbiValue.pieces, List.any_cons, h.1, ih h.2]
    cases item.isDynamic <;> simp

/-- The encoding of a value stands in the tail exactly when its type is dynamic. -/
theorem OfType.isRemote_piece {type : AbiType} {value : AbiValue} (h : OfType type value) :
    value.piece.isRemote = type.isDynamic := by
  induction h with
  | fixedArray item items each ih =>
    rw [AbiValue.piece, AbiValue.isRemote_aggregate, any_isRemote_of_all ih, AbiType.isDynamic]
  | tuple types values length each ih =>
    rw [AbiValue.piece, AbiValue.isRemote_aggregate, any_isRemote_of_each length ih,
      AbiType.isDynamic]
  | _ => rfl

/-! ## The words of a value -/

/-- Values that each take the fewest words of their types take the fewest words of all types
together. -/
theorem minimumWordsOfAll_le_of_each {types : List AbiType} {values : List AbiValue}
    (hlength : types.length = values.length)
    (heach : ∀ p ∈ types.zip values, 32 * p.1.minimumWords ≤ p.2.piece.length) :
    32 * AbiType.minimumWordsOfAll types ≤ Piece.lengths (AbiValue.pieces values) := by
  induction types generalizing values with
  | nil => exact Nat.zero_le _
  | cons type types ih =>
    cases values with
    | nil => cases hlength
    | cons value values =>
      rw [List.zip_cons_cons, List.forall_mem_cons] at heach
      have hfirst : 32 * type.minimumWords ≤ value.piece.length := heach.1
      have hrest := ih (Nat.succ.inj hlength) heach.2
      rw [AbiType.minimumWordsOfAll, AbiValue.pieces, Piece.lengths]
      omega

/-- Items that each take the fewest words of their type take these words as often as there are
items. -/
theorem minimumWords_le_of_all {item : AbiType} {items : List AbiValue}
    (h : ∀ value ∈ items, 32 * item.minimumWords ≤ value.piece.length) :
    32 * (items.length * item.minimumWords) ≤ Piece.lengths (AbiValue.pieces items) := by
  induction items with
  | nil => simp
  | cons value items ih =>
    rw [List.forall_mem_cons] at h
    have hrest := ih h.2
    have hfirst := h.1
    rw [List.length_cons, Nat.add_mul, Nat.one_mul, AbiValue.pieces, Piece.lengths]
    omega

/-- A value takes at least the words that its type announces. -/
theorem OfType.minimumWords_le {type : AbiType} {value : AbiValue} (h : OfType type value) :
    32 * type.minimumWords ≤ value.piece.length := by
  induction h with
  | fixedArray item items each ih =>
    rw [AbiType.minimumWords, AbiValue.piece]
    exact Nat.le_trans (minimumWords_le_of_all ih) (AbiValue.length_aggregate _)
  | tuple types values length each ih =>
    rw [AbiType.minimumWords, AbiValue.piece]
    exact Nat.le_trans (minimumWordsOfAll_le_of_each length ih) (AbiValue.length_aggregate _)
  | _ => simp [AbiType.minimumWords, AbiValue.piece, Piece.length, Piece.headLength]

/-- The encoding of items is as long as the decoder demands before it reads them. -/
theorem words_of_items {item : AbiType} {items : List AbiValue}
    (h : ∀ value ∈ items, OfType item value) :
    32 * (items.length * item.minimumWords) ≤ (Piece.assemble (AbiValue.pieces items)).length := by
  rw [Piece.length_assemble]
  exact minimumWords_le_of_all fun value hvalue => (h value hvalue).minimumWords_le

/-- The encoding of parameters is as long as the decoder demands before it reads them. -/
theorem words_of_sequence {types : List AbiType} {values : List AbiValue}
    (hlength : types.length = values.length) (heach : ∀ p ∈ types.zip values, OfType p.1 p.2) :
    32 * AbiType.minimumWordsOfAll types ≤ (AbiValue.encodeSequence values).length := by
  unfold AbiValue.encodeSequence
  rw [Piece.length_assemble]
  exact minimumWordsOfAll_le_of_each hlength fun p hp => (heach p hp).minimumWords_le

end ContractHarness
