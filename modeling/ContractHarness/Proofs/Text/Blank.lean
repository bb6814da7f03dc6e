import ContractHarness.Text.Blank

/-!
# Cutting blanks off

Trimming undoes putting blanks around a text that has none of its own, and what it cuts off are
blanks.
-/

set_option autoImplicit false

namespace ContractHarness.Text

variable {before core after : List Char}

/-- Nothing is dropped from the front of a text without blanks. -/
theorem dropWhile_eq_self {text : List Char} (h : ∀ c ∈ text, isBlank c = false) :
    text.dropWhile isBlank = text := by
  cases text with
  | nil => rfl
  | cons c text =>
    rw [List.forall_mem_cons] at h
    exact List.dropWhile_cons_of_neg (by simp [h.1])

/-- The blanks behind a text without blanks are trimmed. -/
theorem trimEnd_append (hcore : ∀ c ∈ core, isBlank c = false)
    (hafter : ∀ c ∈ after, isBlank c = true) : trimEnd (core ++ after) = core := by
  have hreverse : ∀ c ∈ after.reverse, isBlank c = true := fun c hc =>
    hafter c (List.mem_reverse.mp hc)
  unfold trimEnd
  rw [List.reverse_append, List.dropWhile_append_of_pos hreverse, dropWhile_eq_self,
    List.reverse_reverse]
  exact fun c hc => hcore c (List.mem_reverse.mp hc)

/-- The blanks around a text without blanks are trimmed. -/
theorem trim_append (hne : core ≠ []) (hbefore : ∀ c ∈ before, isBlank c = true)
    (hcore : ∀ c ∈ core, isBlank c = false) (hafter : ∀ c ∈ after, isBlank c = true) :
    trim (before ++ core ++ after) = core := by
  unfold trim
  rw [List.append_assoc, List.dropWhile_append_of_pos hbefore]
  cases core with
  | nil => exact absurd rfl hne
  | cons c core =>
    have hfirst : isBlank c = false := hcore c List.mem_cons_self
    rw [List.cons_append, List.dropWhile_cons_of_neg (by simp [hfirst]), ← List.cons_append]
    exact trimEnd_append hcore hafter

/-- What is trimmed from the end is blank. -/
theorem exists_trimEnd (text : List Char) :
    ∃ after, text = trimEnd text ++ after ∧ ∀ c ∈ after, isBlank c = true := by
  refine ⟨(text.reverse.takeWhile isBlank).reverse, ?_, ?_⟩
  · unfold trimEnd
    rw [← List.reverse_append, List.takeWhile_append_dropWhile, List.reverse_reverse]
  · intro c hc
    exact List.all_eq_true.mp List.all_takeWhile c (List.mem_reverse.mp hc)

/-- Trimming cuts nothing off but blanks. -/
theorem exists_trim (text : List Char) : ∃ before after, text = before ++ trim text ++ after ∧
    (∀ c ∈ before, isBlank c = true) ∧ ∀ c ∈ after, isBlank c = true := by
  obtain ⟨after, hafter, hblank⟩ := exists_trimEnd (text.dropWhile isBlank)
  refine ⟨text.takeWhile isBlank, after, ?_, ?_, hblank⟩
  · unfold trim
    rw [List.append_assoc, ← hafter, List.takeWhile_append_dropWhile]
  · exact fun c hc => List.all_eq_true.mp List.all_takeWhile c hc

/-- A text that has no blanks is what trimming leaves of another exactly when only blanks stand
around it there. -/
theorem trim_eq_iff {text : List Char} (hne : core ≠ []) (hcore : ∀ c ∈ core, isBlank c = false) :
    trim text = core ↔ ∃ before after, text = before ++ core ++ after ∧
      (∀ c ∈ before, isBlank c = true) ∧ ∀ c ∈ after, isBlank c = true := by
  constructor
  · rintro rfl
    exact exists_trim text
  · rintro ⟨before, after, rfl, hbefore, hafter⟩
    exact trim_append hne hbefore hcore hafter

end ContractHarness.Text
