import ContractHarness.Proofs.AddressLike
import ContractHarness.Proofs.Text.LowercaseTwice

/-!
# Normal forms of addresses

The normal form of every value is marked, lowercase and, unless the value is a text that was marked
before, long enough for an address; a contract stands for its address. Normalising marks, fills up
and lowercases a text, in this order, and a normal form has nothing left to be done for any of the
three. So it is its own normal form, and two values stand for the same address when they have one
normal form, which makes that an equivalence of all values.
-/

set_option autoImplicit false

namespace ContractHarness

namespace AddressLike

variable {text : List Char} {s : String}

/-! ## The mark -/

/-- A marked text starts with a zero and an `x`. -/
theorem isMarked_iff : isMarked text = true ↔ ∃ rest, text = '0' :: 'x' :: rest := by
  unfold isMarked
  split
  · next rest => simp
  · next h => simpa using h

/-- A marked text is something behind `0x`. -/
theorem isMarked_toList_iff : isMarked s.toList = true ↔ ∃ rest, s = "0x" ++ rest := by
  rw [isMarked_iff]
  constructor
  · rintro ⟨rest, h⟩
    refine ⟨String.ofList rest, String.toList_inj.mp ?_⟩
    have hrest : (String.ofList rest).toList = rest := String.toList_ofList
    rw [h, String.toList_append, hrest]
    rfl
  · rintro ⟨rest, rfl⟩
    exact ⟨rest.toList, String.toList_append⟩

/-- A marked text is marked already. -/
theorem mark_of_isMarked (h : isMarked text = true) : mark text = text := by
  rw [mark, if_pos h]

/-- Every text is marked once the mark was put in front of it. -/
theorem isMarked_mark (text : List Char) : isMarked (mark text) = true := by
  by_cases h : isMarked text = true
  · rw [mark_of_isMarked h, h]
  · rw [mark_of_not_isMarked (Bool.eq_false_iff.mpr h)]
    rfl

/-- A filled text is as long as an address at least. -/
theorem le_length_filled (text : List Char) : 42 ≤ (filled text).length := by
  unfold filled
  rw [List.length_cons, List.length_cons, List.length_append, List.length_replicate]
  omega

/-- Lowercasing keeps the mark. -/
theorem isMarked_lowercase (h : isMarked text = true) : isMarked (Text.lowercase text) = true := by
  obtain ⟨rest, rfl⟩ := isMarked_iff.mp h
  have hzero : Text.IsLowercase '0' := by decide +kernel
  have hx : Text.IsLowercase 'x' := by decide +kernel
  unfold Text.lowercase
  rw [Text.lowercaseAfter, hzero.between, Text.lowercaseAfter, hx.between]
  rfl

/-! ## Normal forms -/

variable {x : AddressLike}

/-- The characters of the normal form are the normal characters. -/
theorem toList_normalize (x : AddressLike) : x.normalize.toList = x.normalChars :=
  String.toList_ofList

/-- Every normal form is marked. -/
theorem isMarked_normalChars (x : AddressLike) : isMarked x.normalChars = true :=
  isMarked_lowercase (isMarked_mark x.digits)

/-- A normal form has the length of an address at least, but for a text that was marked before. -/
theorem le_length_normalChars (h : ∀ s, x = .text s → isMarked s.toList = false) :
    42 ≤ x.normalChars.length := by
  cases x with
  | address a =>
    rw [normalChars_address]
    exact le_length_filled _
  | number n =>
    rw [normalChars_number]
    exact le_length_filled _
  | text s =>
    have hfilled : mark s.toList = filled s.toList := mark_of_not_isMarked (h s rfl)
    calc 42 ≤ (filled s.toList).length := le_length_filled _
      _ ≤ (Text.lowercase (filled s.toList)).length := Text.length_le_length_lowercase _
      _ = (AddressLike.text s).normalChars.length := by rw [normalChars, digits, hfilled]

/-- A normal form is its own normal form. -/
theorem normalize_normalize (x : AddressLike) :
    (AddressLike.text x.normalize).normalize = x.normalize := by
  have hmarked : mark x.normalChars = x.normalChars := mark_of_isMarked (isMarked_normalChars x)
  have hlower : Text.lowercase x.normalChars = x.normalChars := Text.lowercase_lowercase _
  have hchars : (AddressLike.text x.normalize).normalChars = x.normalChars := by
    rw [normalChars, digits, toList_normalize, hmarked, hlower]
  rw [normalize, hchars, normalize]

end AddressLike

/-- Values stand for the same address when they have the same normal form. -/
theorem addressIs_ok_iff {x y : AddressLike} {message : Option String} :
    addressIs x y message = .ok () ↔ x.normalize = y.normalize := by
  unfold addressIs
  split
  · next h => simp [h]
  · next h => simp [h]

/-- The normal form of every value is marked and lowercase, has 42 characters at least unless the
value is a text that was marked before, and is its own normal form. A value stands for the same
address as its normal form, and standing for the same address is an equivalence. -/
theorem addressIs_normalize (x : AddressLike) (message : Option String) :
    (∃ rest, x.normalize = "0x" ++ rest) ∧
      (∀ c ∈ x.normalize.toList, Text.IsLowercase c) ∧
      ((∀ s, x = .text s → ¬ ∃ rest, s = "0x" ++ rest) → 42 ≤ x.normalize.length) ∧
      (AddressLike.text x.normalize).normalize = x.normalize ∧
      addressIs x (.text x.normalize) message = .ok () ∧
      Equivalence fun a b : AddressLike => addressIs a b message = .ok () := by
  refine ⟨?_, ?_, ?_, AddressLike.normalize_normalize x, ?_, ?_⟩
  · rw [← AddressLike.isMarked_toList_iff, AddressLike.toList_normalize]
    exact AddressLike.isMarked_normalChars x
  · intro c hc
    rw [AddressLike.toList_normalize] at hc
    exact Text.isLowercase_of_mem hc
  · intro hunmarked
    rw [← String.length_toList, AddressLike.toList_normalize]
    apply AddressLike.le_length_normalChars
    intro s hs
    rw [Bool.eq_false_iff, ne_eq, AddressLike.isMarked_toList_iff]
    exact hunmarked s hs
  · rw [addressIs_ok_iff, AddressLike.normalize_normalize]
  · simp only [addressIs_ok_iff]
    exact ⟨fun _ => rfl, Eq.symm, Eq.trans⟩

end ContractHarness
