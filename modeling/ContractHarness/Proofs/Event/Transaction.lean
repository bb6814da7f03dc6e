import ContractHarness.Event.Transaction
import ContractHarness.Proofs.Except

/-!
# Assertions about transactions that are known

An assertion about the events of a construction fails at once when it is not known which transaction
created the contract. With the hash of that transaction it is an assertion about a transaction like
any other. All that can go wrong then is told with what was being done, or by the comparison of
values, in words that are different from those for an unknown transaction.
-/

set_option autoImplicit false

namespace ContractHarness

variable {τ : Type}

/-- A sequence of actions fails when one of them does. -/
theorem Action.error_cases {ε α β : Type} {x : Action τ ε α} {f : α → Action τ ε β} {world : τ}
    {e : ε} (h : ((x >>= f).run world).result = .error e) :
    (x.run world).result = .error e ∨
      ∃ a, (x.run world).result = .ok a ∧ ((f a).run (x.run world).world).result = .error e := by
  rw [Action.run_bind] at h
  split at h
  · next a world' notices hx =>
    rw [hx]
    exact .inr ⟨a, rfl, h⟩
  · next cause world' notices hx =>
    obtain rfl := Except.error.inj h
    rw [hx]
    exact .inl rfl

variable {c : Contract} {e : ErrorChain} {hash : Hash} {event : String}
  {expected : Option EventArgs} {world : τ} {node : Node τ} {decoder : Decoder}

/-- The error tells of some contract that the transaction that created it is unknown. -/
def ErrorChain.TellsUnknownConstruction (e : ErrorChain) : Prop :=
  ∃ c : Contract, c.construction = .error e

/-- Such an error has no causes, and its text begins with a capital T. -/
theorem ErrorChain.TellsUnknownConstruction.shape (h : e.TellsUnknownConstruction) :
    e.causes = [] ∧ e.outermost.toList.head? = some 'T' := by
  obtain ⟨c, h⟩ := h
  unfold Contract.construction at h
  split at h
  · cases h
  · obtain rfl := Except.error.inj h
    exact ⟨rfl, by simp [ErrorChain.ofText, toString]⟩

/-- An error with a context has a cause, so that it does not tell of an unknown construction. -/
theorem not_tellsUnknownConstruction_context (text : String) :
    ¬(e.context text).TellsUnknownConstruction := by
  intro h
  obtain ⟨hcauses, -⟩ := h.shape
  simp [ErrorChain.context] at hcauses

/-- The errors of the comparison of values have a cause or begin with another letter. -/
theorem MatchError.not_tellsUnknownConstruction (e : MatchError) :
    ¬e.chain.TellsUnknownConstruction := by
  intro h
  obtain ⟨hcauses, hhead⟩ := h.shape
  cases e with
  | notNumber actual expected reason => exact List.cons_ne_nil _ _ hcauses
  | undefined =>
    have hfirst : "Cannot be function / symbol / undefined.".toList.head? ≠ some 'T' := by simp
    exact hfirst hhead
  | unsupported description =>
    have hfirst : s!"Unknown type for {description}".toList.head? ≠ some 'T' := by simp [toString]
    exact hfirst hhead

/-- The assertion over entries at hand does not fail with an unknown construction. -/
theorem not_tellsUnknown_of_expectEvent {entries : List LogEntry}
    (h : (expectEvent event expected entries).1 = .error (.error e)) :
    ¬e.TellsUnknownConstruction := by
  unfold expectEvent at h
  split at h
  · cases h
    exact MatchError.not_tellsUnknownConstruction _
  · cases h
  · cases h

/-- The opposite assertion does not fail with an unknown construction either. -/
theorem not_tellsUnknown_of_expectNoEvent {entries : List LogEntry}
    (h : (expectNoEvent event expected entries).1 = .error (.error e)) :
    ¬e.TellsUnknownConstruction := by
  unfold expectNoEvent at h
  split at h
  · cases h
    exact MatchError.not_tellsUnknownConstruction _
  · cases h
  · cases h

/-- An assertion about a transaction that is given is never told that it is unknown. -/
theorem not_tellsUnknown_of_inTransaction {abi : Interface} {assertion : List LogEntry → Verdict}
    (hassertion : ∀ entries e, (assertion entries).1 = .error (.error e) →
      ¬e.TellsUnknownConstruction)
    (h : ((inTransaction node decoder abi hash assertion).run world).result = .error (.error e)) :
    ¬e.TellsUnknownConstruction := by
  rcases Action.error_cases h with h | ⟨entries, -, h⟩
  · obtain ⟨cause, hcause, he⟩ := Except.mapError_error_iff.mp h
    obtain rfl := Failure.error.inj he
    -- what fails before the logs are judged is told with what was being done
    rcases Action.error_cases hcause with hcause | ⟨receipt, -, hcause⟩
    · obtain ⟨_, -, rfl⟩ := Except.mapError_error_iff.mp hcause
      exact not_tellsUnknownConstruction_context _
    · obtain ⟨_, -, rfl⟩ := Except.mapError_error_iff.mp hcause
      exact not_tellsUnknownConstruction_context _
  · exact hassertion entries e h

/-- With the transaction that created it a contract is never told that it is unknown. -/
theorem expectInConstruction_of_known (h : c.transaction = some hash) (node : Node τ)
    (decoder : Decoder) (event : String) (expected : Option EventArgs) :
    expectEventInConstruction node decoder c event expected =
        expectEventInTransaction node decoder c.interface hash event expected ∧
      expectNoEventInConstruction node decoder c event expected =
        expectNoEventInTransaction node decoder c.interface hash event expected ∧
      ∀ world e, ((expectEventInConstruction node decoder c event expected).run world).result =
            .error (.error e) ∨
          ((expectNoEventInConstruction node decoder c event expected).run world).result =
            .error (.error e) →
        ¬e.TellsUnknownConstruction := by
  have hconstruction : c.construction = .ok hash := by
    unfold Contract.construction
    rw [h]
  have hevent : expectEventInConstruction node decoder c event expected =
      expectEventInTransaction node decoder c.interface hash event expected := by
    unfold expectEventInConstruction
    rw [hconstruction]
    rfl
  have hnoEvent : expectNoEventInConstruction node decoder c event expected =
      expectNoEventInTransaction node decoder c.interface hash event expected := by
    unfold expectNoEventInConstruction
    rw [hconstruction]
    rfl
  refine ⟨hevent, hnoEvent, ?_⟩
  rw [hevent, hnoEvent]
  rintro world e (h | h)
  · exact not_tellsUnknown_of_inTransaction (fun _ _ => not_tellsUnknown_of_expectEvent) h
  · exact not_tellsUnknown_of_inTransaction (fun _ _ => not_tellsUnknown_of_expectNoEvent) h

end ContractHarness
