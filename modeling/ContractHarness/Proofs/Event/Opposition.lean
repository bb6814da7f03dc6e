import ContractHarness.Proofs.Event.Selection
import ContractHarness.Proofs.Event.Transaction

/-!
# The assertion that there is an event and the one that there is none

Both assertions look at the same entries: those that are given, those in the receipt of a
transaction, or those of the transaction that created a contract. When there are no entries to look
at, because a transaction is unknown, has no receipt or has a log that does not fit its event, or
when the entries cannot be compared with what is expected, both end with the same error, and it is
not that of an expectation. Otherwise one of them holds and the other one fails as an expectation.

The entries that came into question are shown only when an assertion about entries that are given
fails as an expectation, arguments are expected, and some entry is of the event.
-/

set_option autoImplicit false

namespace ContractHarness

variable {σ : Type} {event : String} {predicate : Option EventArgs} {entries : List LogEntry}

/-- How the two assertions about an event end, given the entries that both are made about or what
keeps them from being made: first the one that there is such an event, then the one that there is
none. -/
inductive Opposed (event : String) (predicate : Option EventArgs) :
    Except ErrorChain (List LogEntry) → Except Failure Unit → Except Failure Unit → Prop where
  /-- There are no entries to look at. -/
  | unread (e : ErrorChain) :
    Opposed event predicate (.error e) (.error (.error e)) (.error (.error e))
  /-- An entry cannot be compared with what is expected. -/
  | unjudged {entries : List LogEntry} {e : MatchError}
    (h : filterEvents event predicate entries = .error e) :
    Opposed event predicate (.ok entries) (.error (.error e.chain)) (.error (.error e.chain))
  | present {entries found : List LogEntry} (h : filterEvents event predicate entries = .ok found)
    (hfound : found ≠ []) :
    Opposed event predicate (.ok entries) (.ok ())
      (.error (.assertion (s!"expected no {event} events but found " ++
        s!"{entries.countP (LogEntry.IsSelected event predicate)}")))
  | absent {entries : List LogEntry} (h : filterEvents event predicate entries = .ok []) :
    Opposed event predicate (.ok entries)
      (.error (.assertion s!"expected at least one {event} event")) (.ok ())

/-! ## Entries that are given -/

/-- As many entries are found as have everything that is expected. -/
theorem length_of_filterEvents {found : List LogEntry}
    (h : filterEvents event predicate entries = .ok found) :
    found.length = entries.countP (LogEntry.IsSelected event predicate) := by
  obtain ⟨-, rfl⟩ := filterEvents_ok_iff_filter.mp h
  rw [List.countP_eq_length_filter]

/-- Over entries at hand one assertion succeeds exactly when the other one fails. -/
theorem opposed_expectEvent (event : String) (predicate : Option EventArgs)
    (entries : List LogEntry) :
    Opposed event predicate (.ok entries) (expectEvent event predicate entries).1
      (expectNoEvent event predicate entries).1 := by
  unfold expectEvent expectNoEvent
  cases hsearch : filterEvents event predicate entries with
  | error e => exact .unjudged hsearch
  | ok found =>
    cases found with
    | nil => exact .absent hsearch
    | cons entry found =>
      have hopposed := Opposed.present hsearch (List.cons_ne_nil _ _)
      rw [← length_of_filterEvents hsearch] at hopposed
      exact hopposed

/-- Candidates are shown when arguments are expected and some entry is of the event. -/
theorem candidateNotices_ne_nil_iff :
    candidateNotices event predicate entries ≠ [] ↔
      predicate ≠ none ∧ ∃ entry ∈ entries, entry.event = some event := by
  cases predicate with
  | none => simp [candidateNotices]
  | some expected =>
    by_cases hcandidates : ∃ entry ∈ entries, entry.event = some event
    · simp [candidateNotices, hcandidates]
    · simp [candidateNotices, hcandidates]

/-- The assertion leaves notices exactly when it fails although there are entries of the event. -/
theorem notices_expectEvent :
    (expectEvent event predicate entries).2 ≠ [] ↔
      (∃ message, (expectEvent event predicate entries).1 = .error (.assertion message)) ∧
        predicate ≠ none ∧ ∃ entry ∈ entries, entry.event = some event := by
  unfold expectEvent
  cases filterEvents event predicate entries with
  | error e => simp
  | ok found =>
    cases found with
    | nil => simp [candidateNotices_ne_nil_iff]
    | cons entry found => simp

/-- The opposite assertion leaves notices exactly when it finds what it was asked to find none of.
-/
theorem notices_expectNoEvent :
    (expectNoEvent event predicate entries).2 ≠ [] ↔
      (∃ message, (expectNoEvent event predicate entries).1 = .error (.assertion message)) ∧
        predicate ≠ none ∧ ∃ entry ∈ entries, entry.event = some event := by
  unfold expectNoEvent
  cases filterEvents event predicate entries with
  | error e => simp
  | ok found =>
    cases found with
    | nil => simp
    | cons entry found => simp [candidateNotices_ne_nil_iff]

/-! ## Entries of a transaction -/

/-- The entries of a transaction for which a node gave an answer, or why there are none. -/
def entriesOfReceipt (decoder : Decoder) (abi : Interface) (transaction : Hash) :
    Except ErrorChain Receipt → Except ErrorChain (List LogEntry)
  | .error e => .error (e.context s!"Failed to get the receipt of {transaction.hex}")
  | .ok receipt => (abi.decodeLogs decoder.memory receipt.logs).mapError
    fun e => (e.chain decoder).context s!"Failed to decode the logs of {transaction.hex}"

section Answered

variable (node : Node σ) (decoder : Decoder) (abi : Interface) (transaction : Hash) (world : σ)

/-- The entries of a transaction are those of the receipt that the node gives for it. -/
theorem run_transactionEntries :
    (transactionEntries node decoder abi transaction).run world =
      { (node.receipt transaction).run world with
        result := entriesOfReceipt decoder abi transaction
          ((node.receipt transaction).run world).result } := by
  unfold transactionEntries
  rw [Action.run_bind, Action.run_context]
  cases hreceipt : ((node.receipt transaction).run world).result with
  | error e => rfl
  | ok receipt =>
    cases hlogs : abi.decodeLogs decoder.memory receipt.logs with
    | error e => simp [entriesOfReceipt, hlogs]
    | ok entries => simp [entriesOfReceipt, hlogs]

/-- Once the node has answered, an assertion about a transaction is one about its entries. -/
theorem result_inTransaction (assertion : List LogEntry → Verdict) :
    ((inTransaction node decoder abi transaction assertion).run world).result =
      match entriesOfReceipt decoder abi transaction
        ((node.receipt transaction).run world).result with
      | .error e => .error (.error e)
      | .ok entries => (assertion entries).1 := by
  unfold inTransaction
  rw [Action.run_bind, Action.run_mapError, run_transactionEntries]
  cases entriesOfReceipt decoder abi transaction ((node.receipt transaction).run world).result with
  | error e => rfl
  | ok entries => rfl

/-- The assertions about a transaction are opposed over the entries of its receipt. -/
theorem opposed_inTransaction :
    Opposed event predicate
      (entriesOfReceipt decoder abi transaction ((node.receipt transaction).run world).result)
      ((expectEventInTransaction node decoder abi transaction event predicate).run world).result
      ((expectNoEventInTransaction node decoder abi transaction event predicate).run
        world).result := by
  unfold expectEventInTransaction expectNoEventInTransaction
  rw [result_inTransaction, result_inTransaction]
  cases entriesOfReceipt decoder abi transaction ((node.receipt transaction).run world).result with
  | error e => exact .unread e
  | ok entries => exact opposed_expectEvent event predicate entries

/-! ## Entries of a construction -/

/-- The entries of the transaction that created a contract, by what a node answers for it, or why
there are none. -/
def entriesOfConstruction (decoder : Decoder) (c : Contract)
    (receiptOf : Hash → Except ErrorChain Receipt) :
    Except ErrorChain (List LogEntry) :=
  match c.construction with
  | .error e => .error e
  | .ok transaction => entriesOfReceipt decoder c.interface transaction (receiptOf transaction)

/-- The assertions about a construction are opposed over the entries of its transaction. -/
theorem opposed_inConstruction (c : Contract) :
    Opposed event predicate
      (entriesOfConstruction decoder c fun transaction =>
        ((node.receipt transaction).run world).result)
      ((expectEventInConstruction node decoder c event predicate).run world).result
      ((expectNoEventInConstruction node decoder c event predicate).run world).result := by
  unfold expectEventInConstruction expectNoEventInConstruction entriesOfConstruction
  cases hconstruction : c.construction with
  | error e => exact .unread e
  | ok transaction => exact opposed_inTransaction node decoder c.interface transaction world

end Answered

/-- The two assertions are opposed about entries that are given, about the logs of any transaction
and about those of the construction of any contract, whatever the node is and answers. Made about
entries that are given, they show candidates exactly when they fail as expectations, arguments are
expected, and some entry is of the event. -/
theorem assertions_opposed (event : String) (predicate : Option EventArgs)
    (entries : List LogEntry) (node : Node σ) (decoder : Decoder) (abi : Interface)
    (transaction : Hash) (c : Contract) (world : σ) :
    Opposed event predicate (.ok entries) (expectEvent event predicate entries).1
        (expectNoEvent event predicate entries).1 ∧
      Opposed event predicate
        (entriesOfReceipt decoder abi transaction ((node.receipt transaction).run world).result)
        ((expectEventInTransaction node decoder abi transaction event predicate).run world).result
        ((expectNoEventInTransaction node decoder abi transaction event predicate).run
          world).result ∧
      Opposed event predicate
        (entriesOfConstruction decoder c fun transaction =>
          ((node.receipt transaction).run world).result)
        ((expectEventInConstruction node decoder c event predicate).run world).result
        ((expectNoEventInConstruction node decoder c event predicate).run world).result ∧
      ∀ verdict ∈ [expectEvent event predicate entries, expectNoEvent event predicate entries],
        verdict.2 ≠ [] ↔ (∃ message, verdict.1 = .error (.assertion message)) ∧
          predicate ≠ none ∧ ∃ entry ∈ entries, entry.event = some event := by
  refine ⟨opposed_expectEvent event predicate entries,
    opposed_inTransaction node decoder abi transaction world,
    opposed_inConstruction node decoder world c, ?_⟩
  rw [List.forall_mem_cons, List.forall_mem_singleton]
  exact ⟨notices_expectEvent, notices_expectNoEvent⟩

end ContractHarness
