import ContractHarness.Proofs.Abi.Layout
import ContractHarness.Proofs.Except
import ContractHarness.Proofs.Text.Utf8

/-!
# Decoding what was encoded

A decoder that stands in front of an encoded value reads the value and stands behind it afterwards,
whatever follows and wherever the tail of the value lies. `Piece.Ahead` says what it is to stand in
front of a piece, in one way for pieces in the head and in another for those in the tail, and
`DecodesBack` that a value is read. The induction is on the type of the value: a group lays its own
pieces out behind one another, so that each of its members is ahead when those before it are read.
-/

set_option autoImplicit false

namespace ContractHarness

/-- The numbers that the encoding of a value refers to the data with can be read. -/
structure Cursor.Fits (c : Cursor) : Prop where
  content : c.content.length < UInt64.size
  rest : c.rest.length < UInt64.size

namespace Cursor

variable {c : Cursor} {encoding junk more : Bytes} {n : Nat}

/-- A word that lies ahead is read, and the cursor stands behind it. -/
theorem word_of_append (h : c.rest = encoding ++ more) (hlength : encoding.length = 32) :
    c.word = .ok (Word.ofBytes encoding, { c with rest := more }) := by
  unfold word
  rw [h, ← hlength, List.take_left, List.drop_left]
  exact if_pos rfl

/-- The word of a number is read as that number in 256 bits. -/
theorem ofBytes_numberWord (n : Nat) : Word.ofBytes (Piece.numberWord n) = BitVec.ofNat 256 n := by
  apply BitVec.eq_of_toNat_eq
  unfold Word.ofBytes Piece.numberWord
  rw [BitVec.toNat_ofNat, BitVec.toNat_ofNat, Bytes.toNat_ofNat]
  exact Nat.mod_mod n (2 ^ 256)

/-- An offset or a length that lies ahead is read, if it is below the size of the data that it can
refer to. -/
theorem number_of_append (h : c.rest = Piece.numberWord n ++ more) (hn : n < UInt64.size) :
    c.number = .ok (n, { c with rest := more }) := by
  have hword : (BitVec.ofNat 256 n).toNat = n := by
    rw [BitVec.toNat_ofNat]
    apply Nat.mod_eq_of_lt
    exact Nat.lt_trans hn (by decide)
  unfold number
  rw [word_of_append h (Piece.length_numberWord n), ofBytes_numberWord]
  show (if (BitVec.ofNat 256 n).toNat < UInt64.size then _ else _) = _
  rw [hword, if_pos hn]

/-- A part that starts with a length has it read first. -/
theorem number_of_part (hn : n < UInt64.size) (rest : Bytes) (depth : Nat) :
    number ⟨Piece.numberWord n ++ rest, Piece.numberWord n ++ rest, depth⟩ =
      .ok (n, ⟨Piece.numberWord n ++ rest, rest, depth⟩) :=
  number_of_append rfl hn

/-- The decoder steps to an offset within the content when it may still step. -/
theorem part_of_le (hdepth : c.depth < maximalDepth) (h : n ≤ c.content.length) :
    c.part n = .ok ⟨c.content.drop n, c.content.drop n, c.depth + 1⟩ := by
  unfold part
  rw [if_neg (by omega), if_neg (by omega)]

/-- The decoder steps into the part that lies ahead when it may still step. -/
theorem inner_of_lt (hdepth : c.depth < maximalDepth) :
    c.inner = .ok ⟨c.rest, c.rest, c.depth + 1⟩ := by
  unfold inner
  rw [if_neg (by omega)]

/-- Behind a piece that was read, offsets can still be read. -/
theorem Fits.step (hc : c.Fits) (h : c.rest = encoding ++ more) :
    Fits { c with rest := more } := by
  refine ⟨hc.content, ?_⟩
  have hrest := hc.rest
  rw [h, List.length_append] at hrest
  exact Nat.lt_of_le_of_lt (Nat.le_add_left _ _) hrest

end Cursor

/-! ## What lies ahead -/

namespace Piece

variable {c : Cursor} {encoding junk more : Bytes} {piece : Piece} {pieces : List Piece}

/-- The decoder stands in front of the piece, behind which there is more. -/
def Ahead : Piece → Cursor → Bytes → Prop
  | .inline encoding, c, more => c.rest = encoding ++ more
  | .remote encoding, c, more => ∃ offset junk, c.rest = numberWord offset ++ more ∧
    offset ≤ c.content.length ∧ c.content.drop offset = encoding ++ junk

/-- The decoder stands in front of the pieces, the tails of which lie behind one another. -/
def AllAhead (pieces : List Piece) (c : Cursor) (more : Bytes) : Prop :=
  ∃ offset junk, c.rest = head offset pieces ++ more ∧ offset ≤ c.content.length ∧
    c.content.drop offset = pieces.flatMap tail ++ junk

/-- What lies ahead of the decoder starts with the head of the piece. -/
theorem Ahead.rest (h : piece.Ahead c more) : ∃ encoding, c.rest = encoding ++ more := by
  cases piece with
  | inline encoding => exact ⟨encoding, h⟩
  | remote encoding =>
    obtain ⟨offset, junk, hrest, -⟩ := h
    exact ⟨numberWord offset, hrest⟩

/-- The first piece is ahead, and behind it are the others. -/
theorem AllAhead.cons (h : AllAhead (piece :: pieces) c more) :
    ∃ between, piece.Ahead c between ∧ AllAhead pieces { c with rest := between } more := by
  obtain ⟨offset, junk, hrest, hoffset, hcontent⟩ := h
  rw [List.flatMap_cons] at hcontent
  cases piece with
  | inline encoding =>
    rw [head, List.append_assoc] at hrest
    exact ⟨head offset pieces ++ more, hrest, offset, junk, rfl, hoffset, hcontent⟩
  | remote encoding =>
    rw [head, List.append_assoc] at hrest
    rw [tail, List.append_assoc] at hcontent
    have hlength := congrArg List.length hcontent
    rw [List.length_drop, List.length_append] at hlength
    refine ⟨head (offset + encoding.length) pieces ++ more, ⟨offset, _, hrest, hoffset, hcontent⟩,
      offset + encoding.length, junk, rfl, ?_, ?_⟩
    · dsimp only
      omega
    · dsimp only
      rw [← List.drop_drop, hcontent, List.drop_left]

/-- Pieces that are laid out lie ahead of a decoder that starts with them. -/
theorem allAhead_assemble (pieces : List Piece) (junk : Bytes) (depth : Nat) :
    AllAhead pieces ⟨assemble pieces ++ junk, assemble pieces ++ junk, depth⟩
      (pieces.flatMap tail ++ junk) := by
  have hlength := length_head (headsLength pieces) pieces
  refine ⟨headsLength pieces, junk, ?_, ?_, ?_⟩
  · rw [assemble, List.append_assoc]
  · rw [assemble, List.length_append, List.length_append, hlength]
    omega
  · dsimp only
    rw [assemble, List.append_assoc, List.drop_append_of_le_length (by omega),
      List.drop_eq_nil_of_le (by omega), List.nil_append]

/-- The offset of a remote piece leads to its encoding. -/
theorem Ahead.follow (h : (Piece.remote encoding).Ahead c more) (hc : c.Fits)
    (hdepth : c.depth < maximalDepth) :
    ∃ junk, (encoding ++ junk).length < UInt64.size ∧
      c.follow = .ok (⟨encoding ++ junk, encoding ++ junk, c.depth + 1⟩,
        { c with rest := more }) := by
  obtain ⟨offset, junk, hrest, hoffset, hcontent⟩ := h
  have hn : offset < UInt64.size := Nat.lt_of_le_of_lt hoffset hc.content
  refine ⟨junk, ?_, ?_⟩
  · rw [← hcontent, List.length_drop]
    exact Nat.lt_of_le_of_lt (Nat.sub_le _ _) hc.content
  · unfold Cursor.follow
    rw [Cursor.number_of_append hrest hn, Except.bind_ok, ← hcontent]
    dsimp only
    rw [Cursor.part_of_le hdepth hoffset, Except.bind_ok]
    rfl

/-- A group is read when its members are, in the part of the data that they have to themselves. -/
theorem Ahead.group {α : Type} {read : Cursor → Except DecodeError (α × Cursor)} {value : α}
    (h : (AbiValue.aggregate pieces).Ahead c more) (hc : c.Fits) (hdepth : c.depth < maximalDepth)
    (hread : ∀ c' more', c'.Fits → c'.depth = c.depth + 1 → AllAhead pieces c' more' →
      read c' = .ok (value, { c' with rest := more' })) :
    Cursor.group (pieces.any isRemote) read c = .ok (value, { c with rest := more }) := by
  have hmembers : ∀ junk, (assemble pieces ++ junk).length < UInt64.size →
      read ⟨assemble pieces ++ junk, assemble pieces ++ junk, c.depth + 1⟩ =
        .ok (value, ⟨assemble pieces ++ junk, pieces.flatMap tail ++ junk, c.depth + 1⟩) :=
    fun junk hlength => hread _ _ ⟨hlength, hlength⟩ rfl (allAhead_assemble pieces junk _)
  unfold AbiValue.aggregate at h
  unfold Cursor.group
  cases hremote : pieces.any isRemote with
  | true =>
    rw [hremote, if_pos rfl] at h
    obtain ⟨junk, hlength, hfollow⟩ := h.follow hc hdepth
    rw [if_pos rfl, hfollow, Except.bind_ok]
    dsimp only
    rw [hmembers junk hlength, Except.bind_ok]
    rfl
  | false =>
    rw [hremote] at h
    have hrest : c.rest = assemble pieces ++ more := h
    have hlength := hc.rest
    rw [hrest] at hlength
    rw [if_neg (by simp), Cursor.inner_of_lt hdepth, hrest, Except.bind_ok, hmembers more hlength,
      flatMap_tail_of_not_isRemote hremote, Except.bind_ok]
    rfl

end Piece

/-! ## Values of each type -/

/-- The value is read as the type wherever its encoding lies ahead and the decoder may step into it.
-/
def DecodesBack (type : AbiType) (value : AbiValue) : Prop :=
  ∀ (c : Cursor) (more : Bytes), c.depth + value.nesting ≤ maximalDepth → c.Fits →
    value.piece.Ahead c more → type.decode c = .ok (value, { c with rest := more })

namespace AbiType

variable {c : Cursor} {more : Bytes}

/-- Values are read one after the other when each of them is. -/
theorem decodeEach_of_each {types : List AbiType} {values : List AbiValue}
    (hlength : types.length = values.length) (heach : ∀ p ∈ types.zip values, DecodesBack p.1 p.2)
    (hnesting : c.depth + AbiValue.nestingOfAll values ≤ maximalDepth) (hc : c.Fits)
    (hahead : Piece.AllAhead (AbiValue.pieces values) c more) :
    decodeEach types c = .ok (values, { c with rest := more }) := by
  induction types generalizing values c with
  | nil =>
    cases values with
    | nil =>
      obtain ⟨offset, junk, hrest, -⟩ := hahead
      have hrest : c.rest = more := hrest
      rw [decodeEach, ← hrest]
    | cons value values => cases hlength
  | cons type types ih =>
    cases values with
    | nil => cases hlength
    | cons value values =>
      rw [List.zip_cons_cons, List.forall_mem_cons] at heach
      rw [AbiValue.nestingOfAll] at hnesting
      obtain ⟨between, hfirst, hothers⟩ := hahead.cons
      obtain ⟨encoding, hrest⟩ := hfirst.rest
      have hvalue := heach.1 c between (by dsimp only; omega) hc hfirst
      have hvalues := ih (Nat.succ.inj hlength) heach.2 (by dsimp only; omega)
        (hc.step hrest) hothers
      dsimp only at hvalue
      rw [decodeEach, hvalue, Except.bind_ok]
      dsimp only
      rw [hvalues, Except.bind_ok]
      rfl

/-- Items of one type are read like values of as many types. -/
theorem repeated_eq_decodeEach (item : AbiType) (count : Nat) (c : Cursor) :
    Cursor.repeated (fun c => item.decode c) count c =
      decodeEach (List.replicate count item) c := by
  induction count generalizing c with
  | zero => rw [Cursor.repeated, List.replicate_zero, decodeEach]
  | succ count ih =>
    rw [Cursor.repeated, List.replicate_succ, decodeEach]
    simp only [ih]

/-- Items that are each read where they lie ahead are read one after another. -/
theorem repeated_of_all {item : AbiType} {items : List AbiValue}
    (hall : ∀ value ∈ items, DecodesBack item value)
    (hnesting : c.depth + AbiValue.nestingOfAll items ≤ maximalDepth) (hc : c.Fits)
    (hahead : Piece.AllAhead (AbiValue.pieces items) c more) :
    Cursor.repeated (fun c => item.decode c) items.length c =
      .ok (items, { c with rest := more }) := by
  rw [repeated_eq_decodeEach]
  apply decodeEach_of_each List.length_replicate _ hnesting hc hahead
  rintro ⟨type, value⟩ hp
  obtain ⟨htype, hvalue⟩ := List.of_mem_zip hp
  rw [(List.mem_replicate.mp htype).2]
  exact hall value hvalue

/-! ### Words -/

/-- A type of one word reads its value back when the word denotes it. -/
theorem decodesBack_word {type : AbiType} {value : AbiValue} {encoding : Bytes}
    (hpiece : value.piece = .inline encoding) (hlength : encoding.length = 32)
    (hdecode : ∀ c, type.decode c = do
      let (w, c) ← c.word
      return (type.ofWord w, c))
    (hword : type.ofWord (Word.ofBytes encoding) = value) : DecodesBack type value := by
  intro c more hnesting hc hahead
  rw [hpiece] at hahead
  have hrest : c.rest = encoding ++ more := hahead
  rw [hdecode, Cursor.word_of_append hrest hlength, Except.bind_ok]
  dsimp only
  rw [hword]
  rfl

/-- The word of a truth value denotes it. -/
theorem ofWord_bool (b : Bool) :
    AbiType.bool.ofWord (Word.ofBytes (Piece.numberWord b.toNat)) = .bool b := by
  rw [Cursor.ofBytes_numberWord]
  cases b <;> rfl

/-- The word of an address denotes it. -/
theorem ofWord_address (a : Address) :
    AbiType.address.ofWord (Word.ofBytes (Piece.numberWord a.toNat)) = .address a := by
  rw [Cursor.ofBytes_numberWord, ofWord, BitVec.toNat_ofNat, Nat.mod_eq_of_lt, Address.ofNat_toNat]
  exact Nat.lt_trans a.toNat_lt (by decide)

/-- The word of a function, which fills its upper 192 bits, denotes it. -/
theorem ofWord_function (f : BitVec 192) :
    AbiType.function.ofWord (Word.ofBytes (Piece.numberWord (f.toNat <<< 64))) = .function f := by
  rw [Cursor.ofBytes_numberWord, ofWord]
  congr 1
  apply BitVec.eq_of_toNat_eq
  have hf := f.isLt
  rw [BitVec.extractLsb'_toNat, BitVec.toNat_ofNat, Nat.shiftLeft_eq, Nat.shiftRight_eq_div_pow]
  omega

/-! ### Bytes -/

/-- Bytes are read behind their number where an offset to them lies ahead. -/
theorem decodeBytes_of_ahead {content : Bytes}
    (hahead : (Piece.remote (AbiValue.encodeBytes content)).Ahead c more) (hc : c.Fits)
    (hdepth : c.depth < maximalDepth) :
    decodeBytes c = .ok (content, { c with rest := more }) := by
  obtain ⟨junk, hlength, hfollow⟩ := hahead.follow hc hdepth
  unfold AbiValue.encodeBytes Bytes.padded at hlength hfollow
  generalize (List.replicate ((32 - content.length % 32) % 32) 0 : Bytes) = zeros at hlength hfollow
  rw [List.append_assoc, List.append_assoc] at hlength hfollow
  have hcount : content.length < UInt64.size := by
    rw [List.length_append, List.length_append] at hlength
    omega
  have hbytes : Cursor.bytes ⟨Piece.numberWord content.length ++ (content ++ (zeros ++ junk)),
      content ++ (zeros ++ junk), c.depth + 1⟩ content.length = .ok content := by
    unfold Cursor.bytes
    dsimp only
    rw [List.length_append, if_neg (by omega), List.take_left]
  unfold decodeBytes
  rw [hfollow, Except.bind_ok]
  dsimp only
  rw [Cursor.number_of_part hcount, Except.bind_ok]
  dsimp only
  rw [hbytes, Except.bind_ok]
  rfl

/-- Bytes are read back. -/
theorem decodesBack_bytes (content : Bytes) : DecodesBack .bytes (.bytes content) := by
  intro c more hnesting hc hahead
  rw [AbiValue.nesting] at hnesting
  rw [AbiValue.piece] at hahead
  rw [decode, decodeBytes_of_ahead hahead hc (by omega), Except.bind_ok]
  rfl

/-- A text is read back, through its encoding as UTF-8. -/
theorem decodesBack_string (text : String) : DecodesBack .string (.string text) := by
  intro c more hnesting hc hahead
  rw [AbiValue.nesting] at hnesting
  rw [AbiValue.piece] at hahead
  rw [decode, decodeBytes_of_ahead hahead hc (by omega), Except.bind_ok]
  dsimp only
  rw [Utf8.decode_encode]
  rfl

/-! ### Arrays and groups -/

/-- Items are counted by the words that they take, so that there must be a word for each of them. -/
theorem decodesBack_array {item : AbiType} {items : List AbiValue}
    (hwordy : items = [] ∨ 0 < item.minimumWords) (hof : ∀ value ∈ items, OfType item value)
    (hall : ∀ value ∈ items, DecodesBack item value) :
    DecodesBack (.array item) (.array items) := by
  intro c more hnesting hc hahead
  rw [AbiValue.piece] at hahead
  rw [AbiValue.nesting] at hnesting
  have hwords := words_of_items hof
  have hdepth : c.depth < maximalDepth := by
    split at hnesting <;> omega
  obtain ⟨junk, hlength, hfollow⟩ := hahead.follow hc hdepth
  generalize hcontent : Piece.assemble (AbiValue.pieces items) = content at hwords hlength hfollow
  rw [List.append_assoc] at hlength hfollow
  rw [List.length_append, List.length_append, Piece.length_numberWord] at hlength
  have hcount : items.length < UInt64.size := by
    rcases hwordy with rfl | hpos
    · decide
    · have hle := Nat.le_mul_of_pos_right items.length hpos
      omega
  rw [decode, hfollow, Except.bind_ok]
  dsimp only
  rw [Cursor.number_of_part hcount, Except.bind_ok]
  dsimp only
  -- a decoder does not step into the items when there are none
  by_cases hempty : items = []
  · subst hempty
    rfl
  · have hcountPos : 0 < items.length := List.length_pos_iff.mpr hempty
    have hpos : 0 < item.minimumWords := hwordy.resolve_left hempty
    rw [if_neg (by simpa using hempty)] at hnesting
    have hsome : ¬ ((decide (items.length = 0) || decide (item.minimumWords = 0)) = true) := by
      rw [Bool.or_eq_true, decide_eq_true_eq, decide_eq_true_eq]
      omega
    rw [if_neg hsome, if_neg ?_, Cursor.inner_of_lt (by dsimp only; omega), Except.bind_ok]
    · dsimp only
      have hmembers := Piece.allAhead_assemble (AbiValue.pieces items) junk (c.depth + 2)
      rw [hcontent] at hmembers
      have hlength : (content ++ junk).length < UInt64.size := by
        rw [List.length_append]
        omega
      have hitems := repeated_of_all hall (by dsimp only; omega) ⟨hlength, hlength⟩
        hmembers
      rw [hitems, Except.bind_ok]
      rfl
    · unfold Cursor.remainingWords
      dsimp only
      rw [List.length_append]
      omega

/-- A fixed array is read back when its items are. -/
theorem decodesBack_fixedArray {item : AbiType} {items : List AbiValue}
    (hof : ∀ value ∈ items, OfType item value) (hall : ∀ value ∈ items, DecodesBack item value) :
    DecodesBack (.fixedArray item items.length) (.fixedArray items) := by
  intro c more hnesting hc hahead
  rw [AbiValue.nesting] at hnesting
  rw [AbiValue.piece] at hahead
  have hgroup : Cursor.group ((AbiValue.pieces items).any Piece.isRemote)
      (Cursor.repeated (fun c => item.decode c) items.length) c =
        .ok (items, { c with rest := more }) :=
    hahead.group hc (by omega) fun c' more' hc' hdepth hmembers =>
      repeated_of_all hall (by omega) hc' hmembers
  rw [any_isRemote_of_all fun value hvalue => (hof value hvalue).isRemote_piece] at hgroup
  rw [decode, hgroup, Except.bind_ok]
  rfl

/-- A tuple is read back when its members are. -/
theorem decodesBack_tuple {types : List AbiType} {values : List AbiValue}
    (hlength : types.length = values.length) (hof : ∀ p ∈ types.zip values, OfType p.1 p.2)
    (heach : ∀ p ∈ types.zip values, DecodesBack p.1 p.2) :
    DecodesBack (.tuple types) (.tuple values) := by
  intro c more hnesting hc hahead
  rw [AbiValue.nesting] at hnesting
  rw [AbiValue.piece] at hahead
  have hgroup : Cursor.group ((AbiValue.pieces values).any Piece.isRemote)
      (fun c => decodeEach types c) c = .ok (values, { c with rest := more }) :=
    hahead.group hc (by omega) fun c' more' hc' hdepth hmembers =>
      decodeEach_of_each hlength heach (by omega) hc' hmembers
  rw [any_isRemote_of_each hlength fun p hp => (hof p hp).isRemote_piece] at hgroup
  rw [decode, hgroup, Except.bind_ok]
  rfl

end AbiType

/-- Every value of a type is read where its encoding lies ahead, if the items of its arrays are
counted. -/
theorem OfType.decodesBack {type : AbiType} {value : AbiValue} (h : OfType type value)
    (hcounted : type.isCounted = true) : DecodesBack type value := by
  induction h with
  | bool b =>
    exact AbiType.decodesBack_word rfl (Piece.length_numberWord _) (fun _ => rfl)
      (AbiType.ofWord_bool b)
  | int bits w =>
    refine AbiType.decodesBack_word rfl (Piece.length_numberWord _) (fun _ => rfl) ?_
    rw [Word.ofBytes_toBytes, AbiType.ofWord]
  | uint bits w =>
    refine AbiType.decodesBack_word rfl (Piece.length_numberWord _) (fun _ => rfl) ?_
    rw [Word.ofBytes_toBytes, AbiType.ofWord]
  | fixedBytes size w =>
    refine AbiType.decodesBack_word rfl (Piece.length_numberWord _) (fun _ => rfl) ?_
    rw [Word.ofBytes_toBytes, AbiType.ofWord]
  | address a =>
    exact AbiType.decodesBack_word rfl (Piece.length_numberWord _) (fun _ => rfl)
      (AbiType.ofWord_address a)
  | function f =>
    exact AbiType.decodesBack_word rfl (Piece.length_numberWord _) (fun _ => rfl)
      (AbiType.ofWord_function f)
  | bytes content => exact AbiType.decodesBack_bytes content
  | string text => exact AbiType.decodesBack_string text
  | array item items each ih =>
    rw [AbiType.isCounted, Bool.and_eq_true, Bool.not_eq_true'] at hcounted
    exact AbiType.decodesBack_array (.inr (AbiType.minimumWords_pos item hcounted.1)) each
      fun value hvalue => ih value hvalue hcounted.2
  | fixedArray item items each ih =>
    rw [AbiType.isCounted] at hcounted
    exact AbiType.decodesBack_fixedArray each fun value hvalue => ih value hvalue hcounted
  | tuple types values length each ih =>
    rw [AbiType.isCounted, AbiType.allCounted_iff] at hcounted
    exact AbiType.decodesBack_tuple length each fun p hp =>
      ih p hp (hcounted p.1 (List.of_mem_zip hp).1)

/-- Parameters that are read where they lie ahead are read from their encoding, whatever follows it,
when each of them has something to encode, there is room for their template, the decoder can step
into all of them, and the data can be referred to. -/
theorem AbiType.decodeSequence_of_each {memory : Memory} {types : List AbiType}
    {values : List AbiValue} (hcount : types.length = values.length)
    (hof : ∀ p ∈ types.zip values, OfType p.1 p.2) (heach : ∀ p ∈ types.zip values, DecodesBack p.1 p.2)
    (hsized : ∀ type ∈ types, type.isZeroSized = false)
    (hroom : tokensOfAll types ≤ memory.tokens)
    (hnesting : AbiValue.nestingOfAll values ≤ maximalDepth) (junk : Bytes)
    (hlength : (AbiValue.encodeSequence values ++ junk).length < UInt64.size) :
    decodeSequence memory types (AbiValue.encodeSequence values ++ junk) = .ok values := by
  by_cases hempty : types = []
  · subst hempty
    cases values with
    | nil => rfl
    | cons value values => cases hcount
  · have hwords := words_of_sequence hcount hof
    have hahead := Piece.allAhead_assemble (AbiValue.pieces values) junk 0
    have hread := decodeEach_of_each hcount heach (by dsimp only; omega) ⟨hlength, hlength⟩ hahead
    unfold decodeSequence Cursor.start
    rw [not_allZeroSized hempty hsized, if_neg (by decide), if_neg ?_,
      if_neg (Nat.not_lt.mpr hroom)]
    · unfold AbiValue.encodeSequence
      rw [hread, Except.bind_ok]
      rfl
    · rw [List.length_append]
      omega

/-- Without room for their template, parameters are not read from data that they could be in. -/
theorem AbiType.decodeSequence_of_lt {memory : Memory} {types : List AbiType} {data : Bytes}
    (hsized : allZeroSized types = false) (hwords : minimumWordsOfAll types ≤ data.length / 32)
    (hroom : memory.tokens < tokensOfAll types) :
    decodeSequence memory types data = .error .outOfMemory := by
  unfold decodeSequence
  rw [hsized, if_neg (by decide), if_neg (Nat.not_lt.mpr hwords), if_pos hroom]
  rfl

/-- Without room for its template, the first output is not read from data that it could be in. -/
theorem AbiType.decodeOutputs_cons_of_lt {memory : Memory} {type : AbiType} {types : List AbiType}
    {data : Bytes} (hsized : type.isZeroSized = false)
    (hwords : type.minimumWords ≤ data.length / 32) (hroom : memory.tokens < type.tokens) :
    decodeOutputs memory (type :: types) data = .error .outOfMemory := by
  have hahead : type.minimumWords ≤ (Cursor.start data).remainingWords := hwords
  unfold decodeOutputs decodeOutputsFrom
  rw [hsized, if_neg (by decide), if_neg (Nat.not_lt.mpr hahead), if_pos hroom]
  rfl

/-- The parameters of a call are read from their encoding, whatever follows it, when each of them
has something to encode, there is room for their template, the decoder can step into all of them,
and the data can be referred to. -/
theorem AbiType.decodeSequence_encodeSequence {memory : Memory} {types : List AbiType}
    {values : List AbiValue} (haccepts : acceptsAll types values = true)
    (hsized : ∀ type ∈ types, type.isZeroSized = false) (hcounted : allCounted types = true)
    (hroom : tokensOfAll types ≤ memory.tokens)
    (hnesting : AbiValue.nestingOfAll values ≤ maximalDepth) (junk : Bytes)
    (hlength : (AbiValue.encodeSequence values ++ junk).length < UInt64.size) :
    decodeSequence memory types (AbiValue.encodeSequence values ++ junk) = .ok values := by
  obtain ⟨hcount, hof⟩ := each_of_acceptsAll types values haccepts
  rw [allCounted_iff] at hcounted
  exact decodeSequence_of_each hcount hof
    (fun p hp => (hof p hp).decodesBack (hcounted p.1 (List.of_mem_zip hp).1)) hsized hroom
    hnesting junk hlength

end ContractHarness
