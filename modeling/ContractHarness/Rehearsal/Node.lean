import ContractHarness.Node
import ContractHarness.OrderedMap

/-!
# A node without a chain

Rehearsals run the harness against a node that executes nothing. It keeps what it was sent, numbers
the transactions, and answers as it was told to: with a failure, with an output, with the logs and
the gas of the receipts to come. A transaction without a recipient creates a contract whose code is
the input.
-/

set_option autoImplicit false

namespace ContractHarness.Rehearsal

/-- What a node was sent. -/
inductive Sent where
  | transaction (t : Transaction)
  | call (t : Transaction)
deriving DecidableEq, Repr

/-- The state of a rehearsed node: how it is to answer, and what it has seen. -/
structure Chain where
  /-- Why transactions fail. -/
  executeFailure : Option String := none
  /-- Why calls fail. -/
  callFailure : Option String := none
  /-- Why code is not found out. -/
  codeFailure : Option String := none
  /-- Transactions do not create contracts. -/
  isBarren : Bool := false
  gas : UInt64 := 0
  logs : List RawLog := []
  output : Bytes := []
  code : OrderedMap Address Bytes := ∅
  receipts : OrderedMap Hash Receipt := ∅
  sent : List Sent := []
  /-- How many transactions were mined. -/
  height : Nat := 0

/-- The account that deploys in rehearsals. -/
def deployer : Address :=
  Address.ofNat 0xf39fd6e51aad88f6f4ce6ab8827279cfffb92266

/-- A result, or the failure that was asked for. -/
def unlessFailing {α : Type} (failure : Option String) (a : α) : Except ErrorChain α :=
  match failure with
  | some text => .error (.ofText text)
  | none => .ok a

namespace Chain

/-- Notes what was sent. -/
def record (chain : Chain) (sent : Sent) : Chain :=
  { chain with sent := chain.sent ++ [sent] }

/-- The contract that a transaction creates. -/
def created (chain : Chain) (t : Transaction) : Option Address :=
  match t.recipient with
  | none => if chain.isBarren then none else some (Address.ofNat (chain.height + 1))
  | some _ => none

/-- Mines a transaction. -/
def mine (chain : Chain) (t : Transaction) : Receipt × Chain :=
  let number := chain.height + 1
  let contract := chain.created t
  let receipt : Receipt := {
    transaction := BitVec.ofNat 256 number
    sender := t.sender
    contract
    gasUsed := chain.gas
    logs := chain.logs }
  let code := match contract with
    | some address => chain.code.insert address t.input
    | none => chain.code
  (receipt, { chain with
    height := number, code, receipts := chain.receipts.insert receipt.transaction receipt })

/-- Executes a transaction. -/
def execute (t : Transaction) : Action Chain ErrorChain Receipt := fun chain =>
  let chain := chain.record (.transaction t)
  match chain.executeFailure with
  | some text => ⟨.error (.ofText text), chain, []⟩
  | none => ⟨.ok (chain.mine t).1, (chain.mine t).2, []⟩

/-- Answers a call. -/
def call (t : Transaction) : Action Chain ErrorChain Bytes := fun chain =>
  ⟨unlessFailing chain.callFailure chain.output, chain.record (.call t), []⟩

/-- Looks up a receipt. -/
def receipt (h : Hash) : Action Chain ErrorChain Receipt := fun chain =>
  ⟨match chain.receipts.get? h with
    | some receipt => .ok receipt
    | none => .error (.ofText s!"No receipt found for transaction {h.hex}"), chain, []⟩

/-- Looks up code. -/
def codeAt (a : Address) : Action Chain ErrorChain Bytes := fun chain =>
  ⟨unlessFailing chain.codeFailure ((chain.code.get? a).getD []), chain, []⟩

end Chain

/-- The rehearsed node. -/
def node : Node Chain where
  defaultAccount := deployer
  execute := Chain.execute
  call := Chain.call
  receipt := Chain.receipt
  codeAt := Chain.codeAt

end ContractHarness.Rehearsal
