import ContractHarness.Abi.Interface
import ContractHarness.AddressLike

/-!
# Contract handles

A contract that lives on the chain, with the interface of the artifact it was made from. The
transaction that created it is known only to the process that deployed it.
-/

set_option autoImplicit false

namespace ContractHarness

/-- The name of a compiled contract. -/
abbrev ArtifactName := String

/-- A handle of a contract on the chain. -/
structure Contract where
  name : ArtifactName
  address : Address
  interface : Interface
  /-- The transaction that created the contract, if it is known. -/
  transaction : Option Hash
deriving Repr

/-- A handle stands for the address of its contract. -/
def Contract.toAddressLike (c : Contract) : AddressLike :=
  .address c.address

/-- Which instance of an artifact is meant. -/
inductive AddressKey where
  /-- The one that was deployed last, known under the name of the artifact alone. -/
  | canonical
  /-- The one at an address. -/
  | at (address : Address)
deriving DecidableEq, Repr

/-- The key of an address, if one is given. -/
def AddressKey.ofAddress? : Option Address → AddressKey
  | none => .canonical
  | some a => .at a

/-- A key as it is shown. -/
def AddressKey.shown : AddressKey → String
  | .canonical => "default"
  | .at address => address.hex

end ContractHarness
