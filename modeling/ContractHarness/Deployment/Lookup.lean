import ContractHarness.Contract
import ContractHarness.Failure

/-!
# Failed lookups

Looking up a contract can fail with a message, which tells that there is no such contract and that
one may be deployed instead, or with an error that tells nothing about the contract.
-/

set_option autoImplicit false

namespace ContractHarness

/-- Why a contract was not found. -/
inductive LookupError where
  /-- There is no contract, as the message says. -/
  | message (text : String)
  /-- It could not be found out whether there is one. -/
  | opaqueError (chain : ErrorChain)
deriving DecidableEq, Repr

namespace LookupError

/-- What is told when an artifact has no canonical instance. -/
def notDeployedText (name : ArtifactName) : String :=
  s!"Trying to get deployed instance of {name}, but none was set."

/-- The artifact has no canonical instance. -/
def notDeployed (name : ArtifactName) : LookupError :=
  .message (notDeployedText name)

/-- There is no code at the address. -/
def noCode (name : ArtifactName) (address : Address) : LookupError :=
  .message s!"Cannot create instance of {name}; no code at address {address.checksummed}"

/-- The message of an error that has one. -/
def message? : LookupError → Option String
  | .message text => some text
  | .opaqueError _ => none

/-- The error says that the artifact has no canonical instance. -/
def isNotDeployed (name : ArtifactName) (e : LookupError) : Bool :=
  e.message? = some (notDeployedText name)

/-- An error as it is shown. -/
def shown : LookupError → String
  | .message text => text
  | .opaqueError chain => chain.text

/-- The error below an opaque one. -/
def source? : LookupError → Option ErrorChain
  | .message _ => none
  | .opaqueError chain => some chain

/-- An error as a chain of texts. -/
def chain : LookupError → ErrorChain
  | .message text => .ofText text
  | .opaqueError chain => chain

end LookupError

end ContractHarness
