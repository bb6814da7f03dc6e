/-!
# Results that may be errors

What a computation came to says what each of its steps came to.
-/

set_option autoImplicit false

namespace ContractHarness.Except

variable {ε ε' α β : Type}

/-- A result is passed on. -/
theorem bind_ok (a : α) (f : α → Except ε β) : (Except.ok a >>= f) = f a := rfl

/-- An error ends what would follow. -/
theorem bind_error (e : ε) (f : α → Except ε β) : (Except.error e >>= f) = .error e := rfl

/-- Two steps have a result exactly when each of them does. -/
theorem bind_ok_iff {x : Except ε α} {f : α → Except ε β} {b : β} :
    x >>= f = .ok b ↔ ∃ a, x = .ok a ∧ f a = .ok b := by
  cases x <;> simp [bind, Except.bind]

/-- A result of a mapped step is the image of a result. -/
theorem map_ok_iff {f : α → β} {x : Except ε α} {b : β} :
    x.map f = .ok b ↔ ∃ a, x = .ok a ∧ f a = b := by
  cases x <;> simp [Except.map]

/-- Mapping the errors keeps a result. -/
@[simp] theorem mapError_ok (f : ε → ε') (a : α) :
    (Except.ok a : Except ε α).mapError f = .ok a := rfl

/-- Mapping the errors replaces an error. -/
@[simp] theorem mapError_error (f : ε → ε') (e : ε) :
    (Except.error e : Except ε α).mapError f = .error (f e) := rfl

/-- The results are those of the step whose errors are mapped. -/
theorem mapError_ok_iff {f : ε → ε'} {x : Except ε α} {a : α} :
    x.mapError f = .ok a ↔ x = .ok a := by
  cases x <;> simp

/-- The errors are the images of errors. -/
theorem mapError_error_iff {f : ε → ε'} {x : Except ε α} {e : ε'} :
    x.mapError f = .error e ↔ ∃ cause, x = .error cause ∧ f cause = e := by
  cases x <;> simp

/-- The truth value says whether there is a result. -/
theorem toBool_iff {x : Except ε α} : x.toBool = true ↔ ∃ a, x = .ok a := by
  cases x <;> simp [Except.toBool]

/-- A list is gone through in order up to the first item that fails. -/
theorem mapM_error_iff {f : α → Except ε β} {items : List α} {e : ε} :
    items.mapM f = .error e ↔ ∃ before item after, items = before ++ item :: after ∧
      (∀ other ∈ before, ∃ b, f other = .ok b) ∧ f item = .error e := by
  induction items with
  | nil =>
    refine iff_of_false nofun ?_
    rintro ⟨before, item, after, h, -⟩
    cases before <;> cases h
  | cons first items ih =>
    rw [List.mapM_cons]
    cases hfirst : f first with
    | error e' =>
      show Except.error e' = Except.error e ↔ _
      constructor
      · rintro ⟨⟩
        exact ⟨[], first, items, rfl, fun _ h => absurd h List.not_mem_nil, hfirst⟩
      · rintro ⟨before, item, after, hitems, hbefore, he⟩
        cases before with
        | nil =>
          obtain ⟨rfl, rfl⟩ := List.cons.inj hitems
          rw [Except.error.inj (hfirst.symm.trans he)]
        | cons other before =>
          obtain ⟨rfl, rfl⟩ := List.cons.inj hitems
          obtain ⟨b, hb⟩ := hbefore first List.mem_cons_self
          rw [hfirst] at hb
          cases hb
    | ok b =>
      have hrest : (Except.ok b >>= fun b => items.mapM f >>= fun bs => pure (b :: bs)) =
          .error e ↔ items.mapM f = .error e := by
        cases items.mapM f <;> simp [bind, Except.bind, pure, Except.pure]
      rw [hrest, ih]
      constructor
      · rintro ⟨before, item, after, rfl, hbefore, he⟩
        refine ⟨first :: before, item, after, rfl, ?_, he⟩
        rw [List.forall_mem_cons]
        exact ⟨⟨b, hfirst⟩, hbefore⟩
      · rintro ⟨before, item, after, hitems, hbefore, he⟩
        cases before with
        | nil =>
          obtain ⟨rfl, rfl⟩ := List.cons.inj hitems
          rw [hfirst] at he
          cases he
        | cons other before =>
          obtain ⟨rfl, rfl⟩ := List.cons.inj hitems
          exact ⟨before, item, after, rfl, (List.forall_mem_cons.mp hbefore).2, he⟩

end ContractHarness.Except
