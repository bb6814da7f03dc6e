import ContractHarness.Deployment.Registry
import ContractHarness.Report.Speed

/-!
# The work on a request

A request for a contract is worked on in stages. Unless a new instance is demanded, the first one
waits for a lookup. When there is no such contract, or when a new instance is demanded, the next one
waits for a deployment. Then the work is settled, for good and with one outcome.

A deployed contract becomes the canonical instance of its artifact when it was asked for under no
address and the work has not been superseded while the deployment was under way.
-/

set_option autoImplicit false

namespace ContractHarness

/-- A request for a contract. -/
structure DeploymentRequest where
  name : ArtifactName
  key : AddressKey
  /-- A new instance is demanded, whatever is known or can be looked up. -/
  redeploy : Bool := false
  /-- The constructor arguments of a new instance. -/
  args : List AbiValue := []
deriving Repr

namespace DeploymentRequest

/-- What the answer of a lookup settles, unless it leads to a deployment. A contract settles the
request, and so does an error that tells nothing about the contract. Under an address it is an error
as well that the artifact has no canonical instance, because no deployment could mend that. -/
def settledBy (r : DeploymentRequest) :
    Except LookupError Contract → Option (Except ErrorChain Contract)
  | .ok contract => some (.ok contract)
  | .error (.opaqueError chain) => some (.error (chain.context s!"Failed to look up {r.name}"))
  | .error e =>
    if r.key ≠ .canonical ∧ e.isNotDeployed r.name then some (.error e.chain) else none

/-- What is told about a request that fails. -/
def failure (r : DeploymentRequest) : String :=
  s!"Contract {r.name} not deployed"

/-- The outcome of a request as those who wait for it see it. -/
def outcome (r : DeploymentRequest) (x : Except ErrorChain Contract) : Except ErrorChain Contract :=
  x.mapError (·.context r.failure)

end DeploymentRequest

/-- How far the work on a request is. -/
inductive Stage where
  /-- Nothing was done. -/
  | fresh
  /-- A lookup was asked for. -/
  | lookingUp
  /-- A deployment was asked for. -/
  | deploying
  /-- The request is answered. -/
  | settled (outcome : Except ErrorChain Contract)
deriving Repr

/-- The outcome of a stage that has one. -/
def Stage.outcome? : Stage → Option (Except ErrorChain Contract)
  | .settled outcome => some outcome
  | _ => none

/-- The work on a request. -/
structure Work where
  request : DeploymentRequest
  /-- Later work has taken the place of this one. -/
  superseded : Bool := false
  stage : Stage := .fresh
deriving Repr

namespace Work

variable {σ ε : Type}

/-- Settles the work. -/
def settle (w : Work) (x : Except ErrorChain Contract) : Work :=
  { w with stage := .settled (w.request.outcome x) }

/-- Begins the work, by asking for a lookup or for a deployment. -/
def begin (w : Work) : Work :=
  match w.stage with
  | .fresh => { w with stage := if w.request.redeploy then .deploying else .lookingUp }
  | _ => w

/-- Goes on with the answer of the lookup. -/
def lookedUp (w : Work) (answer : Except LookupError Contract) : Work :=
  match w.stage with
  | .lookingUp =>
    match w.request.settledBy answer with
    | some x => w.settle x
    | none => { w with stage := .deploying }
  | _ => w

/-- The contract becomes canonical when its deployment returns. -/
def adopts (w : Work) : Bool :=
  w.request.key = .canonical && !w.superseded

/-- What is done with a contract that was deployed for the work. -/
def adopt (w : Work) (setAsDeployed : Contract → Action σ ErrorChain Unit)
    (thresholds : Report.Thresholds) (contract : Contract) : Action σ ErrorChain Contract := do
  if w.adopts then
    (setAsDeployed contract).context s!"Failed to set {w.request.name} as deployed"
  .tell (thresholds.deploymentNotice w.request.name .unmeasured)
  .tell (.info "Using the newly deployed instance")
  return contract

/-- Goes on with the answer of the deployment. -/
def deployed (w : Work) (setAsDeployed : Contract → Action σ ErrorChain Unit)
    (thresholds : Report.Thresholds) (answer : Except ErrorChain Contract) : Action σ ε Work :=
  match w.stage with
  | .deploying => do
    let x ← (Action.ofExcept answer >>= w.adopt setAsDeployed thresholds).attempt
    return w.settle x
  | _ => pure w

/-! ## With a registry that answers at once -/

/-- Has a new instance deployed. -/
def deploy (w : Work) (registry : Registry σ) (thresholds : Report.Thresholds) :
    Action σ ErrorChain Contract := do
  let contract ← registry.deploy w.request.name w.request.args
  w.adopt registry.setAsDeployed thresholds contract

/-- Looks the contract up, and has one deployed if there is none. -/
def lookUp (w : Work) (registry : Registry σ) (thresholds : Report.Thresholds) :
    Action σ ErrorChain Contract := do
  let answer ← (registry.lookUp w.request.name w.request.key).attempt
  match w.request.settledBy answer with
  | some x => .ofExcept x
  | none => w.deploy registry thresholds

/-- Does what is left of the work, and has its outcome. -/
def finish (w : Work) (registry : Registry σ) (thresholds : Report.Thresholds) :
    Action σ ErrorChain Contract :=
  match w.stage with
  | .settled outcome => .ofExcept outcome
  | .deploying => (w.deploy registry thresholds).context w.request.failure
  | .lookingUp => (w.lookUp registry thresholds).context w.request.failure
  | .fresh =>
    (if w.request.redeploy then w.deploy registry thresholds
      else w.lookUp registry thresholds).context w.request.failure

end Work

end ContractHarness
