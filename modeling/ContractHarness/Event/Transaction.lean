import ContractHarness.Contract
import ContractHarness.Event.Matching
import ContractHarness.Node

/-!
# Events of a transaction

The assertions over log entries, made about the logs of a transaction that a node knows, or of the
transaction that created a contract.
-/

set_option autoImplicit false

namespace ContractHarness

variable {σ : Type}

/-- The log entries of a transaction. -/
def transactionEntries (node : Node σ) (decoder : Decoder) (abi : Interface)
    (transaction : Hash) : Action σ ErrorChain (List LogEntry) := do
  let receipt ←
    (node.receipt transaction).context s!"Failed to get the receipt of {transaction.hex}"
  let entries := (abi.decodeLogs decoder.memory receipt.logs).mapError (LogError.chain decoder)
  (Action.ofExcept entries).context s!"Failed to decode the logs of {transaction.hex}"

/-- Makes an assertion about the log entries of a transaction. -/
def inTransaction (node : Node σ) (decoder : Decoder) (abi : Interface) (transaction : Hash)
    (assertion : List LogEntry → Verdict) : Action σ Failure Unit := do
  let entries ← (transactionEntries node decoder abi transaction).mapError .error
  .ofJudgement (assertion entries)

/-- The transaction that created a contract. It is known only to the process that sent it. -/
def Contract.construction (c : Contract) : Except ErrorChain Hash :=
  match c.transaction with
  | some transaction => .ok transaction
  | none => .error <| .ofText <|
    s!"The construction transaction of {c.name} at {c.address.checksummed} is unknown, it wasn't"
      ++ " deployed by this process"

/-- The transaction emitted the event. -/
def expectEventInTransaction (node : Node σ) (decoder : Decoder) (abi : Interface)
    (transaction : Hash) (event : String) (expected : Option EventArgs) : Action σ Failure Unit :=
  inTransaction node decoder abi transaction (expectEvent event expected)

/-- The transaction did not emit the event. -/
def expectNoEventInTransaction (node : Node σ) (decoder : Decoder) (abi : Interface)
    (transaction : Hash) (event : String) (expected : Option EventArgs) : Action σ Failure Unit :=
  inTransaction node decoder abi transaction (expectNoEvent event expected)

/-- The transaction that created the contract emitted the event. -/
def expectEventInConstruction (node : Node σ) (decoder : Decoder) (c : Contract)
    (event : String) (expected : Option EventArgs) : Action σ Failure Unit := do
  let transaction ← (Action.ofExcept c.construction).mapError .error
  expectEventInTransaction node decoder c.interface transaction event expected

/-- The transaction that created the contract did not emit the event. -/
def expectNoEventInConstruction (node : Node σ) (decoder : Decoder) (c : Contract)
    (event : String) (expected : Option EventArgs) : Action σ Failure Unit := do
  let transaction ← (Action.ofExcept c.construction).mapError .error
  expectNoEventInTransaction node decoder c.interface transaction event expected

end ContractHarness
