import ContractHarness.Text.Lowercase

/-!
# Lowercasing ASCII text

Of the first 128 characters only the capitals have a lowercase partner, and how a character is
lowercased does not depend on the text around it.
-/

set_option autoImplicit false

namespace ContractHarness.Text

variable {c : Char} {text : List Char}

/-- Only the first run of the table is about ASCII. -/
theorem le_first_of_mem_lowercaseRuns : ∀ run ∈ lowercaseRuns.tail, 0x80 ≤ run.first := by
  decide +kernel

/-- Only the first run reaches into the first 128 characters. -/
theorem find?_lowercaseRuns {n : Nat} (h : n < 0x80) : lowercaseRuns.find? (·.covers n) =
    if 0x41 ≤ n ∧ n ≤ 0x5A then some ⟨0x41, 0x5A, 1, 32⟩ else none := by
  have hruns : lowercaseRuns = ⟨0x41, 0x5A, 1, 32⟩ :: lowercaseRuns.tail := rfl
  have hfirst : Run.covers ⟨0x41, 0x5A, 1, 32⟩ n = decide (0x41 ≤ n ∧ n ≤ 0x5A) := by
    simp [Run.covers, Nat.mod_one]
  have hothers : lowercaseRuns.tail.find? (·.covers n) = none := by
    rw [List.find?_eq_none]
    intro run hrun hcovers
    have hbeyond := le_first_of_mem_lowercaseRuns run hrun
    simp only [Run.covers, Bool.and_eq_true, decide_eq_true_eq] at hcovers
    omega
  rw [hruns, List.find?_cons, hothers, hfirst]
  by_cases hcapital : 0x41 ≤ n ∧ n ≤ 0x5A <;> simp [hcapital]

/-- In ASCII only the letters have partners, as they do there. -/
theorem lowercaseChar_of_ascii (h : c.toNat < 0x80) : lowercaseChar c = c.toLower := by
  have hcases : ∀ n < 0x80, (Char.ofNat n).toLower =
      if 0x41 ≤ n ∧ n ≤ 0x5A then Char.ofNat (n + 32) else Char.ofNat n := by decide
  have hlower := hcases c.toNat h
  rw [Char.ofNat_toNat] at hlower
  unfold lowercaseChar Runs.partner?
  rw [find?_lowercaseRuns h, hlower]
  by_cases hcapital : 0x41 ≤ c.toNat ∧ c.toNat ≤ 0x5A
  · rw [if_pos hcapital, if_pos hcapital]
    rfl
  · rw [if_neg hcapital, if_neg hcapital]
    rfl

/-- A character of ASCII is lowercased whatever stands around it. -/
theorem lowercaseBetween_of_ascii (h : c.toNat < 0x80) (before after : List Char) :
    lowercaseBetween before c after = [c.toLower] := by
  have hsigma : c ≠ 'Σ' := by
    rintro rfl
    exact absurd h (by decide)
  have hdotted : c ≠ 'İ' := by
    rintro rfl
    exact absurd h (by decide)
  unfold lowercaseBetween
  rw [if_neg hsigma, if_neg hdotted, lowercaseChar_of_ascii h]

/-- A text in ASCII is lowercased character by character. -/
theorem lowercase_of_ascii (h : ∀ c ∈ text, c.toNat < 0x80) :
    lowercase text = text.map Char.toLower := by
  have hafter (before : List Char) : lowercaseAfter before text = text.map Char.toLower := by
    induction text generalizing before with
    | nil => rfl
    | cons c text ih =>
      obtain ⟨hc, htext⟩ := List.forall_mem_cons.mp h
      rw [lowercaseAfter, lowercaseBetween_of_ascii hc, ih htext, List.map_cons]
      rfl
  exact hafter []

end ContractHarness.Text
