import ContractHarness.Proofs.Abi.Selection
import ContractHarness.Proofs.Except

/-!
# The identifier of an interface

An identifier is put together byte by byte from the first bytes of hashes, while a selector is one
number of 32 bits. It does not matter which: the bytes of a combined number are the combined bytes.
So the identifier is the combination of all selectors, whatever the hash is, and where the texts are
the signatures of functions these are the selectors by which the functions are called.
-/

set_option autoImplicit false

namespace ContractHarness

/-! ## Bytes of numbers -/

namespace Bytes

/-- The bytes of numbers, combined one by one, are the bytes of the combined numbers. -/
theorem zipWith_xor_ofNat (width a b : Nat) :
    List.zipWith (· ^^^ ·) (ofNat width a) (ofNat width b) = ofNat width (a ^^^ b) := by
  induction width generalizing a b with
  | zero => rfl
  | succ width ih =>
    have hrest : (a ^^^ b) / 256 = a / 256 ^^^ b / 256 := Nat.xor_div_two_pow (n := 8)
    rw [ofNat, ofNat, ofNat, List.zipWith_append (by simp), ih, hrest, UInt8.ofNat_xor]
    rfl

/-- The first bytes of a number are those of the number without the others. -/
theorem take_ofNat (width rest n : Nat) :
    (ofNat (width + rest) n).take width = ofNat width (n / Nat.pow 256 rest) := by
  induction rest generalizing n with
  | zero =>
    have hone : n / Nat.pow 256 0 = n := Nat.div_one n
    rw [Nat.add_zero, List.take_of_length_le (by simp), hone]
  | succ rest ih =>
    have hpower : Nat.pow 256 (rest + 1) = 256 * Nat.pow 256 rest := Nat.pow_succ'
    rw [← Nat.add_assoc, ofNat, List.take_append_of_le_length (by simp), ih, hpower,
      Nat.div_div_eq_div_mul]

end Bytes

variable {hash : Bytes → Hash} {s : Selector} {texts others before between after : List String}
  {text : String}

/-- A selector is read from its own bytes. -/
theorem Selector.ofBytes_toBytes (s : Selector) : Selector.ofBytes s.toBytes = s := by
  have hlimit : s.toNat < Nat.pow 256 4 := s.isLt
  rw [ofBytes, toBytes, Bytes.toNat_ofNat, Nat.mod_eq_of_lt hlimit, BitVec.ofNat_toNat,
    BitVec.setWidth_eq]

/-- The first four bytes of a hash are its upper 32 bits. -/
theorem take_toBytes (h : Hash) : h.toBytes.take 4 = Selector.toBytes (h.extractLsb' 224 32) := by
  have hupper : (h.extractLsb' 224 32).toNat = h.toNat / Nat.pow 256 28 := by
    have hpower : Nat.pow 256 28 = Nat.pow 2 224 := by decide
    have hlimit : h.toNat / Nat.pow 2 224 < Nat.pow 2 32 := Nat.div_lt_of_lt_mul h.isLt
    rw [BitVec.extractLsb'_toNat, Nat.shiftRight_eq_div_pow, hpower]
    exact Nat.mod_eq_of_lt hlimit
  rw [Word.toBytes, Bytes.take_ofNat 4 28, Selector.toBytes, hupper]

/-- Combining a selector with the start of a hash is the exclusive or of two selectors. -/
theorem combineBytes_toBytes (s : Selector) (h : Hash) :
    combineBytes s.toBytes h = Selector.toBytes (s ^^^ h.extractLsb' 224 32) := by
  rw [combineBytes, take_toBytes, Selector.toBytes, Selector.toBytes, Bytes.zipWith_xor_ofNat,
    Selector.toBytes, BitVec.toNat_xor]

/-! ## Combined selectors -/

/-- All selectors combined. -/
def combined (selectors : List Selector) : Selector :=
  selectors.foldr (· ^^^ ·) 0

/-- Selectors that follow each other can be combined apart. -/
theorem combined_append (selectors more : List Selector) :
    combined (selectors ++ more) = combined selectors ^^^ combined more := by
  induction selectors with
  | nil => exact (BitVec.zero_xor).symm
  | cons s selectors ih =>
    show s ^^^ combined (selectors ++ more) = s ^^^ combined selectors ^^^ combined more
    rw [ih, BitVec.xor_assoc]

/-- The order of selectors does not matter when they are combined. -/
theorem combined_perm {selectors more : List Selector} (h : selectors.Perm more) :
    combined selectors = combined more := by
  induction h with
  | nil => rfl
  | cons s _ ih => exact congrArg (s ^^^ ·) ih
  | swap s t rest =>
    show t ^^^ (s ^^^ combined rest) = s ^^^ (t ^^^ combined rest)
    rw [← BitVec.xor_assoc, ← BitVec.xor_assoc, BitVec.xor_comm t s]
  | trans _ _ ih ih' => exact ih.trans ih'

/-- The bytes of an identifier after some texts, as of a number. -/
theorem foldl_combineBytes (hash : Bytes → Hash) (texts : List String) (s : Selector) :
    texts.foldl (fun id text => combineBytes id (hash (Utf8.encode text))) s.toBytes =
      Selector.toBytes (s ^^^ combined (texts.map (.ofText hash))) := by
  induction texts generalizing s with
  | nil => exact congrArg Selector.toBytes BitVec.xor_zero.symm
  | cons text texts ih =>
    rw [List.foldl_cons, combineBytes_toBytes, ih, BitVec.xor_assoc]
    rfl

/-- The identifier of an interface is made of the selectors of its functions, whatever the hash is.
-/
theorem interfaceIdBy_eq_combined (hash : Bytes → Hash) (texts : List String) :
    interfaceIdBy hash texts = combined (texts.map (.ofText hash)) := by
  have hzero : ([0, 0, 0, 0] : Bytes) = Selector.toBytes 0 := by decide
  rw [interfaceIdBy, hzero, foldl_combineBytes, Selector.ofBytes_toBytes]
  exact BitVec.zero_xor

/-- The identifier of two interfaces together is the exclusive or of theirs. -/
theorem interfaceIdBy_append : interfaceIdBy hash (texts ++ others) =
    interfaceIdBy hash texts ^^^ interfaceIdBy hash others := by
  simp only [interfaceIdBy_eq_combined, List.map_append, combined_append]

/-- The order of the functions does not matter for the identifier of an interface. -/
theorem interfaceIdBy_perm (h : texts.Perm others) :
    interfaceIdBy hash texts = interfaceIdBy hash others := by
  rw [interfaceIdBy_eq_combined, interfaceIdBy_eq_combined]
  exact combined_perm (h.map _)

/-- A text that is listed twice is not in the identifier. -/
theorem interfaceIdBy_twice : interfaceIdBy hash (before ++ text :: between ++ text :: after) =
    interfaceIdBy hash (before ++ between ++ after) := by
  have hfront : (before ++ text :: between ++ text :: after).Perm
      ([text, text] ++ (before ++ between ++ after)) := by
    refine List.perm_middle.trans (.cons text ?_)
    rw [List.append_assoc]
    exact List.perm_middle.trans (.cons text (.of_eq (List.append_assoc before between after).symm))
  have hpair : interfaceIdBy hash [text, text] = 0 := by
    rw [interfaceIdBy_eq_combined]
    show Selector.ofText hash text ^^^ (Selector.ofText hash text ^^^ 0) = 0
    rw [← BitVec.xor_assoc, BitVec.xor_self]
    exact BitVec.zero_xor
  rw [interfaceIdBy_perm hfront, interfaceIdBy_append, hpair]
  exact BitVec.zero_xor

/-! ## Identifiers of functions -/

namespace Interface

variable {abi : Interface} {signatures : List String}

/-- The signatures of functions of an interface all have the selectors that their texts have. -/
theorem mapM_selectorBy (hash : Bytes → Hash)
    (h : ∀ signature ∈ signatures, ∃ f ∈ abi.methods, f.signature = signature) :
    signatures.mapM (abi.selectorBy hash) = .ok (signatures.map (.ofText hash)) := by
  induction signatures with
  | nil => rfl
  | cons signature signatures ih =>
    rw [List.forall_mem_cons] at h
    obtain ⟨⟨f, hf, rfl⟩, hrest⟩ := h
    rw [List.mapM_cons, selectorBy_signature_of_mem hash hf, Except.bind_ok, ih hrest,
      Except.bind_ok]
    rfl

end Interface

/-- Whatever the hash is, the identifier of signatures of functions is the exclusive or of the
selectors that the signatures have in the interface. Of any texts, it does not depend on their
order, that of two lists together is the exclusive or of both, and a text that is listed twice might
as well not be listed. -/
theorem interfaceIdBy_selectors (hash : Bytes → Hash) (abi : Interface) :
    (∀ signatures : List String,
        (∀ signature ∈ signatures, ∃ f ∈ abi.methods, f.signature = signature) →
        ∃ selectors, signatures.mapM (abi.selectorBy hash) = .ok selectors ∧
          interfaceIdBy hash signatures = selectors.foldr (· ^^^ ·) 0) ∧
      (∀ texts others : List String, texts.Perm others →
        interfaceIdBy hash texts = interfaceIdBy hash others) ∧
      (∀ texts others : List String, interfaceIdBy hash (texts ++ others) =
        interfaceIdBy hash texts ^^^ interfaceIdBy hash others) ∧
      ∀ (before between after : List String) (text : String),
        interfaceIdBy hash (before ++ text :: between ++ text :: after) =
          interfaceIdBy hash (before ++ between ++ after) := by
  refine ⟨fun signatures h => ?_, fun _ _ => interfaceIdBy_perm, fun _ _ => interfaceIdBy_append,
    fun _ _ _ _ => interfaceIdBy_twice⟩
  exact ⟨_, abi.mapM_selectorBy hash h, interfaceIdBy_eq_combined hash signatures⟩

/-- The identifier of two functions of one name is that of their selectors, in any order. -/
theorem interfaceIdBy_mints :
    (∃ selectors,
        ["mint(uint8,uint8)", "mint(uint8)"].mapM Interface.mints.selector = .ok selectors ∧
          interfaceId ["mint(uint8,uint8)", "mint(uint8)"] = selectors.foldr (· ^^^ ·) 0) ∧
      interfaceId ["mint(uint8)", "mint(uint8,uint8)"] =
        interfaceId ["mint(uint8,uint8)", "mint(uint8)"] := by
  obtain ⟨hselectors, hperm, -⟩ := interfaceIdBy_selectors keccak256 Interface.mints
  have hsignatures : ∀ signature ∈ ["mint(uint8,uint8)", "mint(uint8)"],
      ∃ f ∈ Interface.mints.methods, f.signature = signature := by decide
  exact ⟨hselectors _ hsignatures, hperm _ _ (.swap ..)⟩

end ContractHarness
