import ContractHarness.Node.Remote
import ContractHarness.Rehearsal.Node

/-!
# An endpoint without a chain

A rehearsed node that is asked in the way of a remote one: a transaction is handed over first, and
its receipt is asked for afterwards. Every transaction that is accepted takes effect.
-/

set_option autoImplicit false

namespace ContractHarness.Rehearsal

namespace Chain

/-- Accepts a transaction. -/
def submit (t : Transaction) : Action Chain ErrorChain Hash := do
  return (← execute t).transaction

/-- Waits until a transaction is mined, which it is when it was accepted. -/
def await (h : Hash) : Action Chain ErrorChain Mined := do
  return { receipt := ← receipt h, succeeded := true }

/-- The receipt of a transaction, if it is known. -/
def receipt? (h : Hash) : Action Chain ErrorChain (Option Receipt) := do
  return (← Action.look).receipts.get? h

end Chain

/-- The endpoint of the rehearsed node. -/
def endpoint : Endpoint Chain where
  submit := Chain.submit
  await := Chain.await
  call := Chain.call
  receipt? := Chain.receipt?
  codeAt := Chain.codeAt

end ContractHarness.Rehearsal
