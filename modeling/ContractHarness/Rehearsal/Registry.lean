import ContractHarness.Deployment.Registry
import ContractHarness.OrderedMap

/-!
# A registry without a chain

A rehearsed registry deploys by counting: the contract of a deployment has the number of the
deployment as its address and transaction. It notes every call that it gets, answers with the errors
that it was told to answer with, and can hold calls of some kinds back at a gate until that gate is
released. What it answers is decided when the gate opens, but a deployment has its number from the
moment of the call.
-/

set_option autoImplicit false

namespace ContractHarness.Rehearsal

/-- A kind of call that can be held back. -/
inductive Gate where
  | deployed
  | instanceAt
  | deploy
deriving DecidableEq, Repr

/-- A call of a registry. -/
inductive RegistryCall where
  | deployed (name : ArtifactName)
  | instanceAt (name : ArtifactName) (address : Address)
  | deploy (name : ArtifactName) (args : List AbiValue)
  | setAsDeployed (contract : Contract)
deriving Repr

/-- The kind of a call, if it can be held back. -/
def RegistryCall.gate? : RegistryCall → Option Gate
  | .deployed _ => some .deployed
  | .instanceAt _ _ => some .instanceAt
  | .deploy _ _ => some .deploy
  | .setAsDeployed _ => none

/-- The call that looks up what a key means. -/
def RegistryCall.lookUp (name : ArtifactName) : AddressKey → RegistryCall
  | .canonical => .deployed name
  | .at address => .instanceAt name address

/-- A call that was made, with the number of the gate that it waits at. -/
structure CallRecord where
  call : RegistryCall
  gate : Option Nat
deriving Repr

/-- What the maker of a call comes back with for the answer. -/
structure Ticket where
  gate : Option Nat
  /-- How many deployments had been asked for, with this one. -/
  number : Nat
deriving DecidableEq, Repr

/-- The state of a rehearsed registry. -/
structure Directory where
  /-- The kinds of calls that are held back from now on. -/
  gated : List Gate := []
  instances : List (ArtifactName × Address) := []
  canonical : OrderedMap ArtifactName Contract := ∅
  deployedErrors : OrderedMap ArtifactName LookupError := ∅
  instanceErrors : OrderedMap ArtifactName LookupError := ∅
  deployErrors : OrderedMap ArtifactName ErrorChain := ∅
  setErrors : OrderedMap ArtifactName ErrorChain := ∅
  calls : List CallRecord := []
  /-- How many gates were handed out. -/
  gates : Nat := 0
  released : List Nat := []
  /-- How many deployments were asked for. -/
  deployments : Nat := 0

namespace Directory

/-- Makes a call. -/
def place (d : Directory) (call : RegistryCall) : Ticket × Directory :=
  let isHeld := call.gate?.any d.gated.contains
  let gate := if isHeld then some (d.gates + 1) else none
  let number := match call with
    | .deploy _ _ => d.deployments + 1
    | _ => d.deployments
  (⟨gate, number⟩, { d with
    calls := d.calls ++ [⟨call, gate⟩]
    gates := if isHeld then d.gates + 1 else d.gates
    deployments := number })

/-- Releases a gate, if it was handed out. -/
def release (d : Directory) (gate : Nat) : Directory :=
  if gate ≤ d.gates then { d with released := gate :: d.released } else d

/-- The call of a ticket is not held back any more. -/
def isOpen (d : Directory) (ticket : Ticket) : Bool :=
  ticket.gate.all d.released.contains

/-- The answer of a lookup. -/
def lookUp (d : Directory) (name : ArtifactName) : AddressKey → Except LookupError Contract
  | .canonical =>
    match d.deployedErrors.get? name with
    | some e => .error e
    | none =>
      match d.canonical.get? name with
      | some contract => .ok contract
      | none => .error (.notDeployed name)
  | .at address =>
    match d.instanceErrors.get? name with
    | some e => .error e
    | none =>
      if d.instances.contains (name, address) then .ok ⟨name, address, .empty, none⟩
      else .error (.noCode name address)

/-- The answer of a deployment, which makes its contract known. -/
def deploy (d : Directory) (name : ArtifactName) (number : Nat) :
    Except ErrorChain Contract × Directory :=
  match d.deployErrors.get? name with
  | some chain => (.error chain, d)
  | none =>
    let address := Address.ofNat number
    (.ok ⟨name, address, .empty, some (BitVec.ofNat 256 number)⟩,
      { d with instances := d.instances ++ [(name, address)] })

/-- Makes a contract canonical. -/
def setAsDeployed (contract : Contract) : Action Directory ErrorChain Unit := fun d =>
  let d := (d.place (.setAsDeployed contract)).2
  match d.setErrors.get? contract.name with
  | some chain => ⟨.error chain, d, []⟩
  | none => ⟨.ok (), { d with canonical := d.canonical.insert contract.name contract }, []⟩

/-- Forgets the errors that were to be answered for an artifact. -/
def clearErrors (d : Directory) (name : ArtifactName) : Directory :=
  { d with
    deployedErrors := d.deployedErrors.erase name
    instanceErrors := d.instanceErrors.erase name
    deployErrors := d.deployErrors.erase name
    setErrors := d.setErrors.erase name }

end Directory

end ContractHarness.Rehearsal
