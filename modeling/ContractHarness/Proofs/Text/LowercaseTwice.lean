import ContractHarness.Text.Lowercase

/-!
# Text that is lowercase

The partners of letters have no partners of their own, and neither have the characters that the two
exceptions give. So every character of a lowercased text stays as it is. The text around a character
matters for a capital sigma alone, which is not among them: lowercasing such a text changes nothing.
-/

set_option autoImplicit false

namespace ContractHarness.Text

variable {r s : Run} {n : Nat} {c : Char} {text : List Char}

/-! ## Runs and the runs of their partners -/

namespace Run

/-- The partners of a run. -/
def partners (r : Run) : Run :=
  ⟨(r.first + r.offset).toNat, (r.last + r.offset).toNat, r.stride, -r.offset⟩

/-- The runs lie apart: one ends before the other begins, or `s` holds every other code point of a
block and `r` only such as lie between them. -/
def isApart (r s : Run) : Bool :=
  r.last.blt s.first || s.last.blt r.first ||
    s.stride == 2 && (r.stride == 2 || r.first == r.last) && (r.first + s.first) % 2 == 1

/-- A run covers the code points from its first to its last that its stride comes to. -/
theorem covers_iff : r.covers n = true ↔
    r.first ≤ n ∧ n ≤ r.last ∧ (n - r.first) % r.stride = 0 := by
  simp [covers, and_assoc]

/-- Runs that lie apart have no code point in common. -/
theorem not_covers_of_isApart (h : r.isApart s = true) (hr : r.covers n = true) :
    s.covers n = false := by
  simp only [isApart, Bool.or_eq_true, Bool.and_eq_true, beq_iff_eq, Nat.blt_eq] at h
  rw [covers_iff] at hr
  rw [Bool.eq_false_iff, ne_eq, covers_iff]
  rcases h with (h | h) | ⟨⟨hs, hstride | hsingle⟩, hodd⟩
  · omega
  · omega
  · rw [hs]
    rw [hstride] at hr
    omega
  · rw [hs]
    omega

/-- Every code point of the run has a partner, and the partner is a character. -/
def HasPartners (r : Run) : Prop :=
  0 ≤ (r.first : Int) + r.offset ∧
    (r.partners.last < 0xD800 ∨ 0xDFFF < r.partners.first ∧ r.partners.last < 0x110000)

/-- Only the ends of the run are compared. -/
instance : Decidable r.HasPartners :=
  inferInstanceAs (Decidable (_ ∧ _))

/-- The partner of a code point of the run is in the run of partners. -/
theorem HasPartners.covers (h : r.HasPartners) (hn : r.covers n = true) :
    r.partners.covers ((n : Int) + r.offset).toNat = true := by
  obtain ⟨hoffset, -⟩ := h
  rw [covers_iff] at hn ⊢
  obtain ⟨hfirst, hlast, hstride⟩ := hn
  have hdistance : ((n : Int) + r.offset).toNat - ((r.first : Int) + r.offset).toNat =
      n - r.first := by omega
  dsimp only [partners]
  rw [hdistance]
  exact ⟨by omega, by omega, hstride⟩

/-- Each code point of the run of partners is the one of a character. -/
theorem HasPartners.toNat_ofNat (h : r.HasPartners) (hn : r.partners.covers n = true) :
    (Char.ofNat n).toNat = n := by
  obtain ⟨-, hvalid⟩ := h
  rw [covers_iff] at hn
  have hn : n.isValidChar := by
    unfold Nat.isValidChar
    omega
  rw [Char.ofNat, dif_pos hn]
  rfl

end Run

/-! ## The table -/

/-- All the runs of the table have partners. -/
theorem hasPartners_of_mem : ∀ r ∈ lowercaseRuns, r.HasPartners := by
  decide +kernel

/-- No partner of a letter has a partner. -/
theorem isApart_of_mem (hr : r ∈ lowercaseRuns) (hs : s ∈ lowercaseRuns) :
    r.partners.isApart s = true := by
  have hall : (lowercaseRuns.all fun r => lowercaseRuns.all r.partners.isApart) = true := by
    decide +kernel
  exact List.all_eq_true.mp (List.all_eq_true.mp hall r hr) s hs

/-- No letter has the dotted capital I for its partner. -/
theorem not_covers_dotted : ∀ r ∈ lowercaseRuns, r.partners.covers 'İ'.toNat = false := by
  decide +kernel

/-! ## Characters that stay as they are -/

/-- Lowercasing leaves the character as it is. -/
def IsLowercase (c : Char) : Prop :=
  lowercase [c] = [c]

/-- The text of one character is lowercased and compared. -/
instance : Decidable (IsLowercase c) :=
  inferInstanceAs (Decidable (_ = _))

/-- A character stays as it is when it is none of the two exceptions and has no other partner. -/
theorem isLowercase_iff : IsLowercase c ↔ c ≠ 'Σ' ∧ c ≠ 'İ' ∧ lowercaseChar c = c := by
  have hsingle : lowercase [c] = lowercaseBetween [] c [] := List.append_nil _
  unfold IsLowercase
  rw [hsingle]
  by_cases hsigma : c = 'Σ'
  · subst hsigma
    decide +kernel
  · by_cases hdotted : c = 'İ'
    · subst hdotted
      decide +kernel
    · simp [lowercaseBetween, hsigma, hdotted]

/-- A lowercase character stays as it is in every text. -/
theorem IsLowercase.between (h : IsLowercase c) (before after : List Char) :
    lowercaseBetween before c after = [c] := by
  obtain ⟨hsigma, hdotted, hc⟩ := isLowercase_iff.mp h
  rw [lowercaseBetween, if_neg hsigma, if_neg hdotted, hc]

/-- A character that the table has no partner for stays as it is. -/
theorem isLowercase_of_partner?_eq_none (hdotted : c ≠ 'İ')
    (h : lowercaseRuns.partner? c.toNat = none) : IsLowercase c := by
  rw [isLowercase_iff]
  refine ⟨?_, hdotted, ?_⟩
  · rintro rfl
    have hsome : (lowercaseRuns.partner? 'Σ'.toNat).isSome = true := by decide +kernel
    rw [h] at hsome
    cases hsome
  · rw [lowercaseChar, h]

/-- The partner of a character stays as it is. -/
theorem isLowercase_lowercaseChar (hdotted : c ≠ 'İ') : IsLowercase (lowercaseChar c) := by
  unfold lowercaseChar
  cases hpartner : lowercaseRuns.partner? c.toNat with
  | none => exact isLowercase_of_partner?_eq_none hdotted hpartner
  | some partner =>
    obtain ⟨r, hr, rfl⟩ := Option.map_eq_some_iff.mp hpartner
    have hmem := List.mem_of_find?_eq_some hr
    have hletter : r.covers c.toNat = true := by simpa using List.find?_some hr
    have hcovers := (hasPartners_of_mem r hmem).covers hletter
    have hchar := (hasPartners_of_mem r hmem).toNat_ofNat hcovers
    dsimp only
    apply isLowercase_of_partner?_eq_none
    · intro heq
      rw [heq] at hchar
      rw [← hchar, not_covers_dotted r hmem] at hcovers
      cases hcovers
    · rw [hchar, Runs.partner?, Option.map_eq_none_iff, List.find?_eq_none]
      intro s hs
      rw [Run.not_covers_of_isApart (isApart_of_mem hmem hs) hcovers]
      decide

/-! ## Texts -/

/-- What a character is lowercased to stays as it is, whatever stands around it. -/
theorem isLowercase_of_mem_lowercaseBetween {before after : List Char} {d : Char}
    (h : d ∈ lowercaseBetween before c after) : IsLowercase d := by
  have hall : (['ς', 'σ', 'i', '\u0307'].all fun d => decide (IsLowercase d)) = true := by
    decide +kernel
  have hgiven : ∀ d ∈ ['ς', 'σ', 'i', '\u0307'], IsLowercase d :=
    fun d hd => of_decide_eq_true (List.all_eq_true.mp hall d hd)
  unfold lowercaseBetween at h
  split at h
  · apply hgiven
    split at h <;> simp_all
  · split at h
    · apply hgiven
      simp_all
    · next hdotted =>
      rw [List.mem_singleton.mp h]
      exact isLowercase_lowercaseChar hdotted

/-- Every character of a lowercased text stays as it is. -/
theorem isLowercase_of_mem (h : c ∈ lowercase text) : IsLowercase c := by
  have hafter (before text : List Char) : ∀ c ∈ lowercaseAfter before text, IsLowercase c := by
    induction text generalizing before with
    | nil => exact List.forall_mem_nil _
    | cons first text ih =>
      rw [lowercaseAfter, List.forall_mem_append]
      exact ⟨fun _ => isLowercase_of_mem_lowercaseBetween, ih (first :: before)⟩
  exact hafter [] text c h

/-- A text whose characters stay as they are is not changed. -/
theorem lowercase_of_isLowercase (h : ∀ c ∈ text, IsLowercase c) : lowercase text = text := by
  have hafter (before : List Char) : lowercaseAfter before text = text := by
    induction text generalizing before with
    | nil => rfl
    | cons first text ih =>
      obtain ⟨hfirst, htext⟩ := List.forall_mem_cons.mp h
      rw [lowercaseAfter, hfirst.between, ih htext, List.singleton_append]
  exact hafter []

/-- Lowercasing a text for a second time changes nothing. -/
theorem lowercase_lowercase (text : List Char) : lowercase (lowercase text) = lowercase text :=
  lowercase_of_isLowercase fun _ => isLowercase_of_mem

/-- A text may get longer when it is lowercased, but not shorter. -/
theorem length_le_length_lowercase (text : List Char) :
    text.length ≤ (lowercase text).length := by
  have hbetween (before : List Char) (c : Char) (after : List Char) :
      1 ≤ (lowercaseBetween before c after).length := by
    unfold lowercaseBetween
    split
    · split <;> decide
    · split <;> simp
  have hafter (before : List Char) : text.length ≤ (lowercaseAfter before text).length := by
    induction text generalizing before with
    | nil => exact Nat.zero_le _
    | cons first text ih =>
      have hfirst := hbetween before first text
      have hrest := ih (first :: before)
      rw [lowercaseAfter, List.length_append, List.length_cons]
      omega
  exact hafter []

-- A capital sigma is lowercased by its place in the word, and the dotted I to two characters.
example : lowercase ['Ο', 'Σ', 'İ', 'Σ'] = ['ο', 'σ', 'i', '\u0307', 'ς'] := by decide +kernel

end ContractHarness.Text
