import ContractHarness.Action
import ContractHarness.Event.Decoding

/-!
# Nodes

A node executes transactions and calls, and answers what it knows about the chain. What it acts on
is a world of its own: nothing is assumed about how the world changes or what the answers are.
-/

set_option autoImplicit false

namespace ContractHarness

/-- What a node is asked to execute. Without a recipient the input is the code of a new contract. -/
structure Transaction where
  sender : Address
  recipient : Option Address
  input : Bytes
deriving DecidableEq, Repr

/-- What is known about a transaction that was mined. -/
structure Receipt where
  transaction : Hash
  sender : Address
  /-- The contract that the transaction created. -/
  contract : Option Address
  gasUsed : UInt64
  logs : List RawLog
deriving Repr

/-- What the harness asks of a node on a world `σ`. -/
structure Node (σ : Type) where
  /-- The account that sends what is sent in nobody's name. -/
  defaultAccount : Address
  /-- Executes a transaction. One that is mined but reverts is an error. -/
  execute : Transaction → Action σ ErrorChain Receipt
  /-- Executes a transaction against the latest state without mining it, for its output. -/
  call : Transaction → Action σ ErrorChain Bytes
  /-- The receipt of a transaction that was mined. -/
  receipt : Hash → Action σ ErrorChain Receipt
  /-- The code at an address, which is empty where there is no contract. -/
  codeAt : Address → Action σ ErrorChain Bytes

/-- The node on a larger world of which its own is a part. -/
def Node.within {σ τ : Type} (node : Node σ) (part : τ → σ) (replace : τ → σ → τ) : Node τ where
  defaultAccount := node.defaultAccount
  execute t := (node.execute t).within part replace
  call t := (node.call t).within part replace
  receipt h := (node.receipt h).within part replace
  codeAt a := (node.codeAt a).within part replace

end ContractHarness
