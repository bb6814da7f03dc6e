import ContractHarness.Event.Matching

/-!
# Expected values that have no comparison

A predicate is wrong when it expects a value that nothing can be compared with. That is found out
only when an entry of the event gets as far as that value: it has every argument that is expected in
front of it, each with the value that is expected, and it has the argument itself. An entry of
another event does not get there, and neither does one that is told apart by an earlier argument.

So a wrong predicate ends a search with an error exactly when some entry gets to a comparison that
fails, and that error is never an expectation that did not hold. When no entry gets there the search
finds nothing, and the assertion that there is no such event holds although its predicate is wrong.
-/

set_option autoImplicit false

namespace ContractHarness

variable {event key : String} {entry : LogEntry} {entries : List LogEntry}
  {args : List (String × EventValue)} {predicate : Option EventArgs} {expected : EventArgs}
  {e : MatchError}

/-- Something can be compared with the value. -/
def EventValue.isComparable : EventValue → Bool
  | .number _ | .bool _ | .text _ | .big _ => true
  | .unsupported _ | .undefined => false

/-- The comparison with a value that nothing can be compared with is an error, whatever the other
value is. -/
theorem EventValue.matches_of_not_isComparable {value : EventValue} (h : value.isComparable = false)
    (actual : EventValue) : ∃ e, value.matches actual = .error e := by
  cases value with
  | number k | bool b | text s | big n => cases h
  | unsupported description => exact ⟨_, rfl⟩
  | undefined => exact ⟨_, rfl⟩

/-! ## One entry -/

namespace LogEntry

/-- The entry has the argument of an expected one, with the value that is expected. -/
def Has (entry : LogEntry) (wanted : String × EventValue) : Prop :=
  ∃ actual, entry.args.get? wanted.1 = some actual ∧ wanted.2.matches actual = .ok true

/-- The entry has what is expected up to an argument whose comparison is an error. -/
def StopsWith (entry : LogEntry) (args : List (String × EventValue)) (e : MatchError) : Prop :=
  ∃ before key value after actual, args = before ++ (key, value) :: after ∧
    (∀ wanted ∈ before, entry.Has wanted) ∧
    entry.args.get? key = some actual ∧ value.matches actual = .error e

/-- Where nothing is expected, no comparison is an error. -/
theorem stopsWith_nil : ¬entry.StopsWith [] e := by
  rintro ⟨before, key, value, after, actual, hsplit, -⟩
  simp at hsplit

/-- The first argument decides, or the entry has it and the others decide. -/
theorem stopsWith_cons {value : EventValue} :
    entry.StopsWith ((key, value) :: args) e ↔
      (∃ actual, entry.args.get? key = some actual ∧ value.matches actual = .error e) ∨
        (entry.Has (key, value) ∧ entry.StopsWith args e) := by
  constructor
  · rintro ⟨before, k, v, after, actual, hsplit, hbefore, hactual, hmatches⟩
    cases before with
    | nil =>
      obtain ⟨h, -⟩ := List.cons.inj hsplit
      cases h
      exact .inl ⟨actual, hactual, hmatches⟩
    | cons wanted before =>
      obtain ⟨rfl, rfl⟩ := List.cons.inj hsplit
      right
      refine ⟨hbefore _ List.mem_cons_self, before, k, v, after, actual, rfl, ?_, hactual, hmatches⟩
      intro other hother
      exact hbefore other (List.mem_cons_of_mem _ hother)
  · rintro (⟨actual, hactual, hmatches⟩ | ⟨hhas, before, k, v, after, actual, rfl, hbefore, h⟩)
    · exact ⟨[], key, value, args, actual, rfl, by simp, hactual, hmatches⟩
    · refine ⟨(key, value) :: before, k, v, after, actual, rfl, ?_, h⟩
      intro wanted hwanted
      rcases List.mem_cons.mp hwanted with rfl | hwanted
      · exact hhas
      · exact hbefore wanted hwanted

/-- The comparison of an entry is an error exactly when the entry has what is expected up to an
argument whose comparison is one. -/
theorem matchesArgs_error_iff : entry.matchesArgs args = .error e ↔ entry.StopsWith args e := by
  induction args with
  | nil =>
    have hnil := @stopsWith_nil entry e
    simp [matchesArgs, hnil]
  | cons wanted args ih =>
    obtain ⟨key, value⟩ := wanted
    rw [stopsWith_cons, ← ih, matchesArgs, Has]
    cases hactual : entry.args.get? key with
    | none => simp
    | some actual =>
      cases hmatches : value.matches actual with
      | error reason => simp [hmatches]
      | ok verdict => cases verdict <;> simp [hmatches]

/-- An entry matches exactly when it has each argument with the value that is expected. -/
theorem matchesArgs_ok_true_iff :
    entry.matchesArgs args = .ok true ↔ ∀ wanted ∈ args, entry.Has wanted := by
  induction args with
  | nil => simp [matchesArgs]
  | cons wanted args ih =>
    obtain ⟨key, value⟩ := wanted
    rw [List.forall_mem_cons, ← ih, matchesArgs, Has]
    cases hactual : entry.args.get? key with
    | none => simp
    | some actual =>
      cases hmatches : value.matches actual with
      | error reason => simp [hmatches]
      | ok verdict => cases verdict <;> simp [hmatches]

/-- Entries of other events are not compared. -/
theorem satisfies_error_iff :
    entry.satisfies event (some expected) = .error e ↔
      entry.event = some event ∧ entry.StopsWith expected.entries e := by
  rw [satisfies, ← matchesArgs_error_iff]
  by_cases hevent : entry.event = some event
  · simp [hevent]
  · simp [hevent]

/-- No entry has a value that has no comparison. -/
theorem satisfies_ne_true {value : EventValue} (hmem : (key, value) ∈ expected.entries)
    (hbad : value.isComparable = false) : entry.satisfies event (some expected) ≠ .ok true := by
  intro h
  unfold satisfies at h
  split at h
  · cases h
  · obtain ⟨actual, -, hmatches⟩ := matchesArgs_ok_true_iff.mp h (key, value) hmem
    obtain ⟨e, he⟩ := EventValue.matches_of_not_isComparable hbad actual
    dsimp only at hmatches
    rw [he] at hmatches
    cases hmatches

end LogEntry

/-! ## All entries -/

/-- The first entry decides unless it can be judged, and then the others do. -/
theorem filterEvents_cons_error_iff :
    filterEvents event predicate (entry :: entries) = .error e ↔
      entry.satisfies event predicate = .error e ∨
        ((∃ verdict, entry.satisfies event predicate = .ok verdict) ∧
          filterEvents event predicate entries = .error e) := by
  rw [filterEvents]
  cases entry.satisfies event predicate with
  | error reason => simp
  | ok verdict =>
    cases verdict with
    | false => simp
    | true => cases filterEvents event predicate entries <;> simp [Except.map]

/-- A search ends with the error of the first entry that has one. -/
theorem filterEvents_error_iff :
    filterEvents event predicate entries = .error e ↔
      ∃ before entry after, entries = before ++ entry :: after ∧
        (∀ other ∈ before, ∃ verdict, other.satisfies event predicate = .ok verdict) ∧
        entry.satisfies event predicate = .error e := by
  induction entries with
  | nil => simp [filterEvents]
  | cons first entries ih =>
    rw [filterEvents_cons_error_iff, ih]
    constructor
    · rintro (hfirst | ⟨hfirst, before, entry, after, rfl, hbefore, hentry⟩)
      · exact ⟨[], first, entries, rfl, by simp, hfirst⟩
      · refine ⟨first :: before, entry, after, rfl, ?_, hentry⟩
        exact List.forall_mem_cons.mpr ⟨hfirst, hbefore⟩
    · rintro ⟨before, entry, after, hsplit, hbefore, hentry⟩
      cases before with
      | nil =>
        obtain ⟨rfl, rfl⟩ := List.cons.inj hsplit
        exact .inl hentry
      | cons other before =>
        obtain ⟨rfl, rfl⟩ := List.cons.inj hsplit
        obtain ⟨hfirst, hbefore⟩ := List.forall_mem_cons.mp hbefore
        exact .inr ⟨hfirst, before, entry, after, rfl, hbefore, hentry⟩

/-- What is found satisfies the predicate. -/
theorem satisfies_of_mem_filterEvents {found : List LogEntry}
    (h : filterEvents event predicate entries = .ok found) (hmem : entry ∈ found) :
    entry.satisfies event predicate = .ok true := by
  induction entries generalizing found with
  | nil =>
    cases h
    cases hmem
  | cons first entries ih =>
    rw [filterEvents] at h
    split at h
    · cases h
    · next hfirst =>
      cases hrest : filterEvents event predicate entries with
      | error e => simp [hrest, Except.map] at h
      | ok others =>
        obtain rfl : first :: others = found := by simpa [hrest, Except.map] using h
        rcases List.mem_cons.mp hmem with rfl | hmem
        · exact hfirst
        · exact ih hrest hmem
    · exact ih h hmem

/-- An entry of the event gets to a comparison that fails, and none before it does. -/
def StopsAt (event : String) (expected : EventArgs) (entries : List LogEntry) (e : MatchError) :
    Prop :=
  ∃ before entry after, entries = before ++ entry :: after ∧
    (∀ other ∈ before, other.event = some event → ∀ e, ¬other.StopsWith expected.entries e) ∧
    entry.event = some event ∧ entry.StopsWith expected.entries e

/-- The search among entries is an error exactly when an entry of the event gets to a comparison
that is one, and none before it does. -/
theorem filterEvents_error_iff_stopsAt :
    filterEvents event (some expected) entries = .error e ↔ StopsAt event expected entries e := by
  have hok : ∀ other : LogEntry, (∃ verdict, other.satisfies event (some expected) = .ok verdict) ↔
      (other.event = some event → ∀ e, ¬other.StopsWith expected.entries e) := by
    intro other
    have herror := @LogEntry.satisfies_error_iff event other expected
    cases hother : other.satisfies event (some expected) with
    | error reason =>
      obtain ⟨hevent, hstops⟩ := herror.mp hother
      simp only [reduceCtorEq, exists_false, false_iff]
      intro h
      exact h hevent reason hstops
    | ok verdict =>
      simp only [Except.ok.injEq, exists_eq', true_iff]
      intro hevent reason hstops
      rw [herror.mpr ⟨hevent, hstops⟩] at hother
      cases hother
  rw [filterEvents_error_iff, StopsAt]
  simp only [hok, LogEntry.satisfies_error_iff]

/-- A predicate that expects a value without a comparison is found out exactly when an entry gets to
a comparison that fails. Then the search and both assertions end with its error, which is not that
of an expectation. Otherwise the search finds nothing, the event is missed, and the assertion that
there is none holds. -/
theorem filterEvents_of_incomparable
    (hbad : ∃ key value, (key, value) ∈ expected.entries ∧ value.isComparable = false)
    (event : String) (entries : List LogEntry) :
    (∀ e, StopsAt event expected entries e →
      filterEvents event (some expected) entries = .error e ∧
        expectEvent event (some expected) entries = (.error (.error e.chain), []) ∧
        expectNoEvent event (some expected) entries = (.error (.error e.chain), [])) ∧
      ((∀ e, ¬StopsAt event expected entries e) →
        filterEvents event (some expected) entries = .ok [] ∧
          expectEvent event (some expected) entries =
            (.error (.assertion s!"expected at least one {event} event"),
              candidateNotices event (some expected) entries) ∧
          expectNoEvent event (some expected) entries = (.ok (), [])) := by
  obtain ⟨key, value, hmem, hvalue⟩ := hbad
  constructor
  · intro e hstops
    have hfails := filterEvents_error_iff_stopsAt.mpr hstops
    rw [expectEvent, expectNoEvent, hfails]
    exact ⟨rfl, rfl, rfl⟩
  · intro hnever
    have hnone : filterEvents event (some expected) entries = .ok [] := by
      cases hsearch : filterEvents event (some expected) entries with
      | error e => exact absurd (filterEvents_error_iff_stopsAt.mp hsearch) (hnever e)
      | ok found =>
        cases found with
        | nil => rfl
        | cons entry found =>
          have hentry := satisfies_of_mem_filterEvents hsearch List.mem_cons_self
          exact absurd hentry (LogEntry.satisfies_ne_true hmem hvalue)
    rw [expectEvent, expectNoEvent, hnone]
    exact ⟨rfl, rfl, rfl⟩

/-! ## A transfer with an amount -/

section Transfer

/-- A transfer of gold. -/
def transferOf (amount : Int64) : LogEntry :=
  ⟨.zero, some "Transfer", .ofList [("token", .text "gold"), ("amount", .number amount)]⟩

/-- An amount, of a token for which no value is expected. -/
def withoutToken (amount : Int64) : EventArgs :=
  .ofList [("amount", .number amount), ("token", .undefined)]

/-- An entry with another amount hides that nothing can be compared with what is expected of the
token. -/
theorem expectNoEvent_otherAmount :
    (("token", .undefined) ∈ (withoutToken 2).entries ∧
      EventValue.isComparable .undefined = false) ∧
      expectNoEvent "Transfer" (some (withoutToken 2)) [transferOf 1] = (.ok (), []) :=
  ⟨⟨by decide, rfl⟩, rfl⟩

/-- The predicate is found out by a transfer of the amount, and by no other one. -/
theorem expectNoEvent_sameAmount :
    expectNoEvent "Transfer" (some (withoutToken 2)) [transferOf 1, transferOf 2] =
        (.error (.error (.ofText "Cannot be function / symbol / undefined.")), []) ∧
      expectNoEvent "Transfer" (some (withoutToken 3)) [transferOf 1, transferOf 2] =
        (.ok (), []) := by
  have hbad : ∀ amount, ∃ key value, (key, value) ∈ (withoutToken amount).entries ∧
      value.isComparable = false :=
    fun amount => ⟨"token", .undefined, .tail _ (.head _), rfl⟩
  constructor
  · have hstops : StopsAt "Transfer" (withoutToken 2) [transferOf 1, transferOf 2] .undefined :=
      filterEvents_error_iff_stopsAt.mp rfl
    exact ((filterEvents_of_incomparable (hbad 2) _ _).1 _ hstops).2.2
  · have hnever : ∀ e, ¬StopsAt "Transfer" (withoutToken 3) [transferOf 1, transferOf 2] e := by
      intro e hstops
      cases filterEvents_error_iff_stopsAt.mpr hstops
    exact ((filterEvents_of_incomparable (hbad 3) _ _).2 hnever).2.2

end Transfer

end ContractHarness
