import ContractHarness.Abi.Selection
import ContractHarness.Contract
import ContractHarness.Node

/-!
# Callable contracts

A contract together with the ways to invoke its methods. `Contract.on` makes a handle callable
through a node: the method is selected by its name or signature, the arguments are encoded behind
its selector, and what comes back is read by a decoder.
-/

set_option autoImplicit false

namespace ContractHarness

/-- What came of a method that was invoked by a transaction. -/
structure CallResult where
  receipt : Receipt
  logs : List LogEntry
deriving Repr

/-- A contract whose methods can be invoked on a world `σ`. -/
structure Callable (σ : Type) where
  contract : Contract
  /-- Sends a transaction from a caller that invokes a method. -/
  send : (caller : Address) → (method : String) → List AbiValue → Action σ ErrorChain CallResult
  /-- The outputs of a method that changes nothing. -/
  view : (method : String) → List AbiValue → Action σ ErrorChain (List AbiValue)

/-- The result of a mined transaction with its logs decoded. -/
def CallResult.ofReceipt (decoder : Decoder) (abi : Interface) (receipt : Receipt) :
    Except ErrorChain CallResult :=
  match abi.decodeLogs decoder.memory receipt.logs with
  | .ok logs => .ok ⟨receipt, logs⟩
  | .error e => .error (e.chain decoder)

namespace Contract

variable {σ : Type}

/-- The input that invokes a method: its selector, and behind it the arguments. -/
def encodeCall (c : Contract) (method : String) (args : List AbiValue) :
    Except ErrorChain Bytes :=
  match c.interface.select method args.length with
  | .error e => .error ⟨s!"Failed to resolve {method} on {c.name}", [e.message]⟩
  | .ok selected =>
    match Param.encodeAll selected.inputs args with
    | .error e => .error ⟨s!"Failed to encode the arguments of {method}", [e.message]⟩
    | .ok encoded => .ok (selected.selector.toBytes ++ encoded)

/-- The outputs that a method gave. -/
def decodeOutput (decoder : Decoder) (selected : Method) (method : String) (output : Bytes) :
    Except ErrorChain (List AbiValue) :=
  let failure := s!"Failed to decode the output of {method}"
  match Param.resolveAll? selected.outputs with
  | none => .error ⟨failure, decoder.words .unresolved⟩
  | some types =>
    match AbiType.decodeOutputs decoder.memory types output with
    | .ok values => .ok values
    | .error e => .error ⟨failure, decoder.words (.data e)⟩

/-- Sends a transaction to the contract that invokes a method, and decodes its logs. -/
def send (c : Contract) (node : Node σ) (decoder : Decoder) (caller : Address) (method : String)
    (args : List AbiValue) : Action σ ErrorChain CallResult := do
  let input ← .ofExcept (c.encodeCall method args)
  let receipt ← node.execute ⟨caller, some c.address, input⟩
  .ofExcept (CallResult.ofReceipt decoder c.interface receipt)

/-- Calls a method of the contract from the default account, and decodes its outputs. -/
def view (c : Contract) (node : Node σ) (decoder : Decoder) (method : String)
    (args : List AbiValue) :
    Action σ ErrorChain (List AbiValue) := do
  let selected ← .ofExcept
    ((c.interface.select method args.length).mapError fun e => .ofText e.message)
  let input ← .ofExcept (c.encodeCall method args)
  let output ← node.call ⟨node.defaultAccount, some c.address, input⟩
  .ofExcept (decodeOutput decoder selected method output)

/-- The contract made callable through a node. -/
def on (c : Contract) (node : Node σ) (decoder : Decoder) : Callable σ where
  contract := c
  send := c.send node decoder
  view := c.view node decoder

end Contract

end ContractHarness
