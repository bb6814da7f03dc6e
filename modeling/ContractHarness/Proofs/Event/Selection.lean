import ContractHarness.Proofs.Event.Incomparable
import ContractHarness.Proofs.Event.Stored

/-!
# What a search selects

A search goes through the entries one by one and through the expected arguments of each in order,
and ends either of the two loops early. What comes out can be said without the loops: an entry fails
when it gets to a comparison that is an error, and is selected when it has everything that is
expected. The first entry that fails decides the search. When none does, the search gives the
entries that are selected, so the order of the expected arguments makes no difference, and neither
does it matter where the logs are divided.
-/

set_option autoImplicit false

namespace ContractHarness

variable {event : String} {predicate : Option EventArgs} {entry : LogEntry}
  {entries found : List LogEntry} {e : MatchError}

/-! ## One entry -/

namespace LogEntry

/-- The entry is of the event and has every argument that is expected of it. -/
def IsSelected (event : String) (predicate : Option EventArgs) (entry : LogEntry) : Prop :=
  entry.event = some event ∧
    ∀ expected ∈ predicate, ∀ wanted ∈ expected.entries, entry.Has wanted

/-- The entry is of the event and gets to a comparison that is an error. -/
def Fails (event : String) (predicate : Option EventArgs) (e : MatchError) (entry : LogEntry) :
    Prop :=
  entry.event = some event ∧ ∃ expected ∈ predicate, entry.StopsWith expected.entries e

/-- The check of an entry fails exactly when a comparison does that nothing before it decides. -/
theorem satisfies_error_iff_fails :
    entry.satisfies event predicate = .error e ↔ entry.Fails event predicate e := by
  cases predicate with
  | none =>
    have hjudged : entry.satisfies event none ≠ .error e := by
      unfold satisfies
      split <;> simp
    simp [hjudged, Fails]
  | some expected => simp [satisfies_error_iff, Fails]

/-- The check of an entry succeeds exactly when the entry is one that was asked for. -/
theorem satisfies_true_iff_isSelected :
    entry.satisfies event predicate = .ok true ↔ entry.IsSelected event predicate := by
  unfold satisfies IsSelected
  by_cases hevent : entry.event = some event
  · cases predicate with
    | none => simp [hevent]
    | some expected => simp [hevent, matchesArgs_ok_true_iff]
  · simp [hevent]

/-- Whether an entry is selected can be computed, since the check does so. -/
instance : Decidable (entry.IsSelected event predicate) :=
  decidable_of_iff ((entry.satisfies event predicate).toOption = some true) <| by
    rw [← satisfies_true_iff_isSelected]
    cases entry.satisfies event predicate <;> simp [Except.toOption]

end LogEntry

/-! ## All entries -/

/-- A search ends with the error of the first entry that fails. -/
theorem filterEvents_error_iff_fails :
    filterEvents event predicate entries = .error e ↔
      ∃ before entry after, entries = before ++ entry :: after ∧
        (∀ other ∈ before, ∀ e, ¬other.Fails event predicate e) ∧
          entry.Fails event predicate e := by
  have hjudged (other : LogEntry) : (∃ verdict, other.satisfies event predicate = .ok verdict) ↔
      ∀ e, ¬other.Fails event predicate e := by
    simp only [← LogEntry.satisfies_error_iff_fails]
    cases other.satisfies event predicate <;> simp
  simp only [filterEvents_error_iff, hjudged, LogEntry.satisfies_error_iff_fails]

/-- A search in which no entry fails gives the entries that are selected. -/
theorem filterEvents_ok_iff_filter :
    filterEvents event predicate entries = .ok found ↔
      (∀ entry ∈ entries, ∀ e, ¬entry.Fails event predicate e) ∧
        found = entries.filter (LogEntry.IsSelected event predicate) := by
  induction entries generalizing found with
  | nil => simp [filterEvents, eq_comm]
  | cons entry entries ih =>
    have hfails (e : MatchError) := @LogEntry.satisfies_error_iff_fails event predicate entry e
    have hselected := @LogEntry.satisfies_true_iff_isSelected event predicate entry
    rw [List.forall_mem_cons, filterEvents]
    cases hverdict : entry.satisfies event predicate with
    | error e =>
      have hentry : entry.Fails event predicate e := (hfails e).mp hverdict
      constructor
      · intro h
        cases h
      · rintro ⟨⟨hnever, -⟩, -⟩
        exact absurd hentry (hnever e)
    | ok verdict =>
      have hentry : ∀ e, ¬entry.Fails event predicate e := by
        intro e h
        rw [← hfails e, hverdict] at h
        cases h
      rw [hverdict, Except.ok.injEq] at hselected
      cases verdict with
      | false =>
        have hskipped : ¬entry.IsSelected event predicate := by simp [← hselected]
        rw [List.filter_cons_of_neg (by simpa using hskipped), ih]
        simp [hentry]
      | true =>
        have htaken : entry.IsSelected event predicate := hselected.mp rfl
        rw [List.filter_cons_of_pos (by simpa using htaken)]
        dsimp only
        rw [Except.map_ok_iff]
        constructor
        · rintro ⟨others, hrest, rfl⟩
          obtain ⟨hnever, rfl⟩ := ih.mp hrest
          exact ⟨⟨hentry, hnever⟩, rfl⟩
        · rintro ⟨⟨-, hnever⟩, rfl⟩
          exact ⟨_, ih.mpr ⟨hnever, rfl⟩, rfl⟩

/-- Predicates with the same expected arguments select the same entries. -/
theorem LogEntry.isSelected_congr {expected reordered : EventArgs}
    (h : expected.entries.Perm reordered.entries) :
    entry.IsSelected event (some expected) ↔ entry.IsSelected event (some reordered) := by
  simp [IsSelected, h.mem_iff]

/-- The first entry of the event that gets to a comparison which is an error decides a search. When
there is none, the search gives the entries of the event that have every expected argument, in their
order. The order of the expected arguments then makes no difference, and the logs can be searched in
parts. -/
theorem filterEvents_selects (event : String) (predicate : Option EventArgs)
    (entries : List LogEntry) :
    (∀ e, filterEvents event predicate entries = .error e ↔
        ∃ before entry after, entries = before ++ entry :: after ∧
          (∀ other ∈ before, ∀ e, ¬other.Fails event predicate e) ∧
            entry.Fails event predicate e) ∧
      (∀ found, filterEvents event predicate entries = .ok found ↔
        (∀ entry ∈ entries, ∀ e, ¬entry.Fails event predicate e) ∧
          found = entries.filter (LogEntry.IsSelected event predicate)) ∧
      (∀ expected reordered found others, predicate = some expected →
        expected.entries.Perm reordered.entries →
        filterEvents event predicate entries = .ok found →
        filterEvents event (some reordered) entries = .ok others → found = others) ∧
      (∀ before after found others, entries = before ++ after →
        filterEvents event predicate before = .ok found →
        filterEvents event predicate after = .ok others →
        filterEvents event predicate entries = .ok (found ++ others)) := by
  refine ⟨fun e => filterEvents_error_iff_fails, fun found => filterEvents_ok_iff_filter, ?_, ?_⟩
  · rintro expected reordered found others rfl hperm hfound hothers
    obtain ⟨-, rfl⟩ := filterEvents_ok_iff_filter.mp hfound
    obtain ⟨-, rfl⟩ := filterEvents_ok_iff_filter.mp hothers
    apply List.filter_congr
    intro entry _
    simp [LogEntry.isSelected_congr hperm]
  · rintro before after found others rfl hfound hothers
    rw [filterEvents_append, hfound, hothers]
    rfl

/-! ## Transfers of gold -/

section Gold

/-- Two of gold, with the token asked for first. -/
def tokenFirst : EventArgs :=
  .ofList [("token", .text "gold"), ("amount", .number 2)]

/-- The same two conditions, with the amount before the token. -/
def amountFirst : EventArgs :=
  .ofList [("amount", .number 2), ("token", .text "gold")]

/-- The transfer of two is found with the token or the amount asked for first. -/
theorem filterEvents_amountFirst :
    filterEvents "Transfer" (some tokenFirst) [transferOf 1, transferOf 2] = .ok [transferOf 2] ∧
      filterEvents "Transfer" (some amountFirst) [transferOf 1, transferOf 2] =
        .ok [transferOf 2] := by
  have hfound : filterEvents "Transfer" (some tokenFirst) [transferOf 1, transferOf 2] =
      .ok [transferOf 2] := rfl
  obtain ⟨others, hothers⟩ : ∃ others,
      filterEvents "Transfer" (some amountFirst) [transferOf 1, transferOf 2] = .ok others :=
    ⟨_, rfl⟩
  have hperm : tokenFirst.entries.Perm amountFirst.entries := by
    apply List.Perm.swap
  obtain ⟨-, -, hreordered, -⟩ :=
    filterEvents_selects "Transfer" (some tokenFirst) [transferOf 1, transferOf 2]
  have hsame := hreordered tokenFirst amountFirst _ others rfl hperm hfound hothers
  rw [← hsame] at hothers
  exact ⟨hfound, hothers⟩

-- A wrong predicate is found out only when nothing that is asked for first tells the entry apart.
example :
    filterEvents "Transfer" (some (withoutToken 2)) [transferOf 1] = .ok [] ∧
      filterEvents "Transfer" (some (.ofList (withoutToken 2).entries.reverse)) [transferOf 1] =
        .error .undefined :=
  ⟨rfl, rfl⟩

end Gold

end ContractHarness
