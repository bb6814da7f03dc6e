import ContractHarness.Action
import ContractHarness.Deployment.Lookup

/-!
# Registries

A registry resolves the names of artifacts into contracts on the chain. It knows one canonical
instance of an artifact at most, which is the one that was last set as deployed.
-/

set_option autoImplicit false

namespace ContractHarness

/-- What resolves artifact names into contracts, on a world `σ`. -/
structure Registry (σ : Type) where
  /-- The canonical instance of an artifact. -/
  deployed : ArtifactName → Action σ LookupError Contract
  /-- The instance of an artifact at an address. -/
  instanceAt : ArtifactName → Address → Action σ LookupError Contract
  /-- Deploys a new instance of an artifact with constructor arguments. -/
  deploy : ArtifactName → List AbiValue → Action σ ErrorChain Contract
  /-- Makes a contract the canonical instance of its artifact. -/
  setAsDeployed : Contract → Action σ ErrorChain Unit

/-- The instance that a key means. -/
def Registry.lookUp {σ : Type} (registry : Registry σ) (name : ArtifactName) :
    AddressKey → Action σ LookupError Contract
  | .canonical => registry.deployed name
  | .at address => registry.instanceAt name address

end ContractHarness
