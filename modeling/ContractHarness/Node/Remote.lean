import ContractHarness.Configuration
import ContractHarness.Node
import ContractHarness.Url.Http
import ContractHarness.Wallet

/-!
# Remote nodes

A node that is reached at a URL, with the accounts of a wallet to sign transactions with. What the
node answers is not known here: it is asked through an endpoint, whose answers and failures come
from outside. Each request is told apart by the context of its failures. The URL is not looked at
before the first request.
-/

set_option autoImplicit false

namespace ContractHarness

/-- What a transaction came to. -/
structure Mined where
  receipt : Receipt
  /-- The transaction took effect. -/
  succeeded : Bool
deriving Repr

/-- The requests that are made of a node, on a world `σ`. -/
structure Endpoint (σ : Type) where
  /-- Hands a signed transaction over. -/
  submit : Transaction → Action σ ErrorChain Hash
  /-- Waits until a transaction is mined. -/
  await : Hash → Action σ ErrorChain Mined
  /-- Executes a transaction without mining it. -/
  call : Transaction → Action σ ErrorChain Bytes
  /-- The receipt of a transaction, if it is known. -/
  receipt? : Hash → Action σ ErrorChain (Option Receipt)
  /-- The code at an address. -/
  codeAt : Address → Action σ ErrorChain Bytes

/-- The endpoint that nothing listens at. -/
def Endpoint.unreachable (σ : Type) : Endpoint σ :=
  let refused {α : Type} : Action σ ErrorChain α := throw (.ofText "connection refused")
  { submit := fun _ => refused
    await := fun _ => refused
    call := fun _ => refused
    receipt? := fun _ => refused
    codeAt := fun _ => refused }

/-- A node that is reached through an endpoint. -/
structure RemoteNode (σ : Type) where
  url : String
  wallet : Wallet
  endpoint : Endpoint σ

namespace RemoteNode

variable {σ : Type}

/-- The node that a configuration names. -/
def ofConfiguration (c : Configuration) (endpoint : Endpoint σ) :
    Except ErrorChain (RemoteNode σ) :=
  match Wallet.ofKeys c.keys with
  | .ok wallet => .ok ⟨c.nodeUrl, wallet, endpoint⟩
  | .error e => .error (e.context "Failed to construct the wallet")

/-- The endpoint for a purpose. It cannot be had where the URL is of no use; the transport and the
URL both tell the reason. -/
def connect (node : RemoteNode σ) (purpose : String) : Action σ ErrorChain (Endpoint σ) :=
  match Url.check node.url with
  | .ok () => return node.endpoint
  | .error e =>
    throw ⟨s!"Failed to create provider for {purpose}",
      [s!"Failed to connect to the node at {node.url}", e.message, e.message]⟩

/-- Submits a transaction, and tells when that fails. -/
def submit (endpoint : Endpoint σ) (t : Transaction) : Action σ ErrorChain Hash :=
  tryCatch (endpoint.submit t) fun e => do
    .tell (.error "Encountered an error when submitting the transaction")
    throw (e.context "Failed to submit the transaction to the node")

/-- Executes a transaction. One that was mined without taking effect is an error. -/
def execute (node : RemoteNode σ) (t : Transaction) : Action σ ErrorChain Receipt := do
  let endpoint ← node.connect "transaction submission"
  let hash ← submit endpoint t
  let mined ← (endpoint.await hash).context s!"Failed to get the receipt of {hash.hex}"
  unless mined.succeeded do
    .tell (.error "The transaction was mined but reverted")
    throw (.ofText s!"Transaction reverted without a reason string (transaction {hash.hex})")
  return mined.receipt

/-- Executes a transaction without mining it. -/
def call (node : RemoteNode σ) (t : Transaction) : Action σ ErrorChain Bytes := do
  ((← node.connect "the call").call t).context "Failed to execute the call"

/-- The receipt of a transaction. -/
def receipt (node : RemoteNode σ) (h : Hash) : Action σ ErrorChain Receipt := do
  let endpoint ← node.connect "getting the receipt"
  match ← (endpoint.receipt? h).context "Failed to get the receipt of the transaction" with
  | some receipt => return receipt
  | none => throw (.ofText s!"No receipt found for transaction {h.hex}")

/-- The code at an address. -/
def codeAt (node : RemoteNode σ) (a : Address) : Action σ ErrorChain Bytes := do
  (← node.connect "getting the code").codeAt a

/-- A remote node as one of the nodes that the harness works with. -/
def toNode (node : RemoteNode σ) : Node σ where
  defaultAccount := node.wallet.defaultAccount
  execute := node.execute
  call := node.call
  receipt := node.receipt
  codeAt := node.codeAt

end RemoteNode

end ContractHarness
