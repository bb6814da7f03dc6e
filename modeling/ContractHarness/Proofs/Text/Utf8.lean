import ContractHarness.Text.Utf8

/-!
# Reading text that was written

A character is written in one to four bytes, and reading finds it in them again, whatever follows.
So a text is read back from its bytes, and the reader makes no replacement in it.
-/

set_option autoImplicit false

namespace ContractHarness.Utf8

variable {v : Nat} {rest : List UInt8}

/-- A number that fits a byte is kept by it. -/
theorem toNat_byte {n : Nat} (h : n < 256) : (UInt8.ofNat n).toNat = n :=
  UInt8.toNat_ofNat_of_lt' h

/-- Each byte but the first of a character carries its six bits. -/
theorem isContinuation_ofNat (n : Nat) : isContinuation (UInt8.ofNat (n % 0x40 + 0x80)) = true := by
  have hbyte : (UInt8.ofNat (n % 0x40 + 0x80)).toNat = n % 0x40 + 0x80 := toNat_byte (by omega)
  unfold isContinuation
  simp only [Bool.and_eq_true, decide_eq_true_eq, UInt8.le_iff_toNat_le, hbyte, UInt8.reduceToNat]
  omega

/-- The six bits of a later byte are read again. -/
theorem payload_ofNat (n : Nat) : payload (UInt8.ofNat (n % 0x40 + 0x80)) = n % 0x40 := by
  unfold payload
  rw [toNat_byte (by omega)]
  omega

/-! ## Characters by their length -/

/-- A character of one byte is read back. -/
theorem readChar_one (h : v ≤ 0x7f) : readChar (UInt8.ofNat v) rest = (Char.ofNat v, 0) := by
  have hbyte : (UInt8.ofNat v).toNat = v := toNat_byte (by omega)
  unfold readChar
  rw [if_pos, hbyte]
  simp only [UInt8.lt_iff_toNat_lt, hbyte, UInt8.reduceToNat]
  omega

/-- A character of two bytes is read back, and one byte more is taken. -/
theorem readChar_two (hlow : 0x7f < v) (hhigh : v ≤ 0x7ff) :
    readChar (UInt8.ofNat (v / 64 % 0x20 + 0xc0)) (UInt8.ofNat (v % 0x40 + 0x80) :: rest) =
      (Char.ofNat v, 1) := by
  have hbyte : (UInt8.ofNat (v / 64 % 0x20 + 0xc0)).toNat = v / 64 % 0x20 + 0xc0 :=
    toNat_byte (by omega)
  unfold readChar
  rw [if_neg, if_pos]
  · dsimp only
    rw [isContinuation_ofNat, if_pos rfl, payload_ofNat, hbyte]
    congr 2
    omega
  · simp only [Bool.and_eq_true, decide_eq_true_eq, UInt8.le_iff_toNat_le, hbyte, UInt8.reduceToNat]
    omega
  · simp only [UInt8.lt_iff_toNat_lt, hbyte, UInt8.reduceToNat]
    omega

/-- The second byte of a three-byte character keeps it from being a shorter one or a surrogate. -/
theorem followsInThree_ofNat (hlow : 0x7ff < v) (hhigh : v ≤ 0xffff)
    (hsurrogate : v < 0xd800 ∨ 0xdfff < v) :
    followsInThree (UInt8.ofNat (v / 4096 % 0x10 + 0xe0)) (UInt8.ofNat (v / 64 % 0x40 + 0x80)) =
      true := by
  have hfirst : (UInt8.ofNat (v / 4096 % 0x10 + 0xe0)).toNat = v / 4096 % 0x10 + 0xe0 :=
    toNat_byte (by omega)
  have hsecond : (UInt8.ofNat (v / 64 % 0x40 + 0x80)).toNat = v / 64 % 0x40 + 0x80 :=
    toNat_byte (by omega)
  unfold followsInThree
  simp only [Bool.and_eq_true, decide_eq_true_eq, UInt8.le_iff_toNat_le, ← UInt8.toNat_inj, hfirst,
    hsecond, UInt8.reduceToNat]
  constructor
  · split
    · show 0xa0 ≤ v / 64 % 0x40 + 0x80
      omega
    · show 0x80 ≤ v / 64 % 0x40 + 0x80
      omega
  · split
    · show v / 64 % 0x40 + 0x80 ≤ 0x9f
      omega
    · show v / 64 % 0x40 + 0x80 ≤ 0xbf
      omega

/-- A character of three bytes that is no surrogate is read back. -/
theorem readChar_three (hlow : 0x7ff < v) (hhigh : v ≤ 0xffff)
    (hsurrogate : v < 0xd800 ∨ 0xdfff < v) :
    readChar (UInt8.ofNat (v / 4096 % 0x10 + 0xe0))
        (UInt8.ofNat (v / 64 % 0x40 + 0x80) :: UInt8.ofNat (v % 0x40 + 0x80) :: rest) =
      (Char.ofNat v, 2) := by
  have hbyte : (UInt8.ofNat (v / 4096 % 0x10 + 0xe0)).toNat = v / 4096 % 0x10 + 0xe0 :=
    toNat_byte (by omega)
  unfold readChar
  rw [if_neg, if_neg, if_pos]
  · dsimp only
    rw [followsInThree_ofNat hlow hhigh hsurrogate, if_pos rfl, isContinuation_ofNat, if_pos rfl,
      payload_ofNat, payload_ofNat, hbyte]
    congr 2
    omega
  · simp only [Bool.and_eq_true, decide_eq_true_eq, UInt8.le_iff_toNat_le, hbyte, UInt8.reduceToNat]
    omega
  · simp only [Bool.and_eq_true, decide_eq_true_eq, UInt8.le_iff_toNat_le, hbyte, UInt8.reduceToNat]
    omega
  · simp only [UInt8.lt_iff_toNat_lt, hbyte, UInt8.reduceToNat]
    omega

/-- The second byte of a four-byte character keeps it from being a shorter one or none. -/
theorem followsInFour_ofNat (hlow : 0xffff < v) (hhigh : v ≤ 0x10ffff) :
    followsInFour (UInt8.ofNat (v / 262144 % 0x08 + 0xf0)) (UInt8.ofNat (v / 4096 % 0x40 + 0x80)) =
      true := by
  have hfirst : (UInt8.ofNat (v / 262144 % 0x08 + 0xf0)).toNat = v / 262144 % 0x08 + 0xf0 :=
    toNat_byte (by omega)
  have hsecond : (UInt8.ofNat (v / 4096 % 0x40 + 0x80)).toNat = v / 4096 % 0x40 + 0x80 :=
    toNat_byte (by omega)
  unfold followsInFour
  simp only [Bool.and_eq_true, decide_eq_true_eq, UInt8.le_iff_toNat_le, ← UInt8.toNat_inj, hfirst,
    hsecond, UInt8.reduceToNat]
  constructor
  · split
    · show 0x90 ≤ v / 4096 % 0x40 + 0x80
      omega
    · show 0x80 ≤ v / 4096 % 0x40 + 0x80
      omega
  · split
    · show v / 4096 % 0x40 + 0x80 ≤ 0x8f
      omega
    · show v / 4096 % 0x40 + 0x80 ≤ 0xbf
      omega

/-- A character of four bytes is read back. -/
theorem readChar_four (hlow : 0xffff < v) (hhigh : v ≤ 0x10ffff) :
    readChar (UInt8.ofNat (v / 262144 % 0x08 + 0xf0))
        (UInt8.ofNat (v / 4096 % 0x40 + 0x80) :: UInt8.ofNat (v / 64 % 0x40 + 0x80) ::
          UInt8.ofNat (v % 0x40 + 0x80) :: rest) =
      (Char.ofNat v, 3) := by
  have hbyte : (UInt8.ofNat (v / 262144 % 0x08 + 0xf0)).toNat = v / 262144 % 0x08 + 0xf0 :=
    toNat_byte (by omega)
  unfold readChar
  rw [if_neg, if_neg, if_neg, if_pos]
  · dsimp only
    rw [followsInFour_ofNat hlow hhigh, if_pos rfl, isContinuation_ofNat, if_pos rfl,
      isContinuation_ofNat, if_pos rfl, payload_ofNat, payload_ofNat, payload_ofNat, hbyte]
    congr 2
    omega
  · simp only [Bool.and_eq_true, decide_eq_true_eq, UInt8.le_iff_toNat_le, hbyte, UInt8.reduceToNat]
    omega
  · simp only [Bool.and_eq_true, decide_eq_true_eq, UInt8.le_iff_toNat_le, hbyte, UInt8.reduceToNat]
    omega
  · simp only [Bool.and_eq_true, decide_eq_true_eq, UInt8.le_iff_toNat_le, hbyte, UInt8.reduceToNat]
    omega
  · simp only [UInt8.lt_iff_toNat_lt, hbyte, UInt8.reduceToNat]
    omega

/-! ## Bytes of a character -/

/-- A character of ASCII is written in one byte. -/
theorem encodeChar_of_lt {c : Char} (h : c.toNat < 0x80) :
    String.utf8EncodeChar c = [UInt8.ofNat c.toNat] := by
  have hval : c.val.toNat ≤ 0x7f := Nat.le_of_lt_succ h
  unfold String.utf8EncodeChar
  dsimp only
  rw [if_pos hval]
  rfl

/-- A character beyond the first 128 has none of their bytes. -/
theorem le_of_mem_encodeChar {c : Char} (h : 0x80 ≤ c.toNat) {b : UInt8}
    (hb : b ∈ String.utf8EncodeChar c) : 0x80 ≤ b.toNat := by
  have hvalid : c.val.toNat < 0x110000 := by
    have hc : c.val.toNat < 0xd800 ∨ 0xdfff < c.val.toNat ∧ c.val.toNat < 0x110000 := c.valid
    omega
  have hval : ¬ c.val.toNat ≤ 0x7f := Nat.not_le_of_lt h
  have hcontinued (n : Nat) : 0x80 ≤ (UInt8.ofNat (n % 0x40 + 0x80)).toNat := by
    rw [toNat_byte (by omega)]
    omega
  unfold String.utf8EncodeChar at hb
  generalize c.val.toNat = v at hvalid hval hb
  dsimp only at hb
  rw [if_neg hval] at hb
  split at hb
  · simp only [List.mem_cons, List.not_mem_nil, or_false] at hb
    rcases hb with rfl | rfl
    · rw [toNat_byte (by omega)]
      omega
    · exact hcontinued v
  · split at hb
    · simp only [List.mem_cons, List.not_mem_nil, or_false] at hb
      rcases hb with rfl | rfl | rfl
      · rw [toNat_byte (by omega)]
        omega
      · exact hcontinued _
      · exact hcontinued v
    · simp only [List.mem_cons, List.not_mem_nil, or_false] at hb
      rcases hb with rfl | rfl | rfl | rfl
      · rw [toNat_byte (by omega)]
        omega
      · exact hcontinued _
      · exact hcontinued _
      · exact hcontinued v

/-! ## Texts -/

/-- The reader takes the first character and goes on behind its bytes. -/
theorem decodeChars_cons (first : UInt8) (rest : List UInt8) :
    decodeChars (first :: rest) =
      (readChar first rest).1 :: decodeChars (rest.drop (readChar first rest).2) := by
  rw [decodeChars]

/-- A character is read from its bytes, and what follows them is read on its own. -/
theorem decodeChars_append (c : Char) (rest : List UInt8) :
    decodeChars (String.utf8EncodeChar c ++ rest) = c :: decodeChars rest := by
  have hvalid : c.val.toNat < 0xd800 ∨ 0xdfff < c.val.toNat ∧ c.val.toNat < 0x110000 := c.valid
  have hc : Char.ofNat c.val.toNat = c := Char.ofNat_toNat c
  unfold String.utf8EncodeChar
  generalize c.val.toNat = v at hvalid hc
  dsimp only
  split
  · next h1 => rw [List.cons_append, decodeChars_cons, readChar_one h1, hc]; rfl
  · next h1 =>
    split
    · next h2 =>
      simp only [List.cons_append, List.nil_append]
      rw [decodeChars_cons, readChar_two (by omega) h2, hc]
      rfl
    · next h2 =>
      split
      · next h3 =>
        simp only [List.cons_append, List.nil_append]
        rw [decodeChars_cons, readChar_three (by omega) h3 (by omega), hc]
        rfl
      · next h3 =>
        simp only [List.cons_append, List.nil_append]
        rw [decodeChars_cons, readChar_four (by omega) (by omega), hc]
        rfl

/-- Characters that were written one after the other are read back. -/
theorem decodeChars_flatMap (chars : List Char) :
    decodeChars (chars.flatMap String.utf8EncodeChar) = chars := by
  induction chars with
  | nil => rw [List.flatMap_nil, decodeChars]
  | cons c chars ih => rw [List.flatMap_cons, decodeChars_append, ih]

/-- Reading what was written gives the text back. -/
theorem decode_encode (text : String) : decode (encode text) = text := by
  unfold decode encode
  rw [decodeChars_flatMap, String.ofList_toList]

end ContractHarness.Utf8
