import ContractHarness.Artifact.Store
import ContractHarness.CommandLine.Expectation
import ContractHarness.CommandLine.Invocation
import ContractHarness.Abi.Literal
import ContractHarness.Deployment.Cache
import ContractHarness.Event.Matching
import ContractHarness.Node.Remote

/-!
# Running the command line

A run reads its words, makes a wallet of the keys, opens a store on the artifacts, and carries out
the command against the node, in this order. It acts on files and on the world of a node, and prints
text, which stays printed when the run fails afterwards.
-/

set_option autoImplicit false

namespace ContractHarness.CommandLine

/-- What a run acts on. -/
structure Site (σ : Type) where
  files : Entry
  chain : σ
  /-- The text that was printed so far. -/
  printed : String := ""

/-- A site with a store that was opened on its files. -/
structure Session (σ : Type) where
  workshop : Workshop σ
  printed : String

/-- Why a run ended early. -/
inductive RunError where
  /-- The words are no invocation. -/
  | usage (e : UsageError)
  /-- The invocation failed. -/
  | failure (f : Failure)
deriving DecidableEq, Repr

variable {σ ε α : Type}

namespace Session

/-- Does an action to the store, its files and its node. -/
def inWorkshop (x : Action (Workshop σ) ε α) : Action (Session σ) ε α :=
  x.within Session.workshop fun s workshop => { s with workshop }

/-- Does an action to the node. -/
def onChain (x : Action σ ErrorChain α) : Action (Session σ) Failure α :=
  (inWorkshop (Workshop.onChain x)).mapError .error

/-- The artifact of a name. -/
def artifact (name : ArtifactName) : Action (Session σ) Failure Artifact :=
  (inWorkshop (Workshop.artifact name)).mapError .error

/-- Does an action with a deployment cache of its own. -/
def withNewCache (x : Action (DeploymentCache × Workshop σ) ε α) : Action (Session σ) ε α :=
  x.within (fun s => (.empty, s.workshop)) fun s world => { s with workshop := world.2 }

/-- Prints a line. -/
def print (line : String) : Action (Session σ) ε Unit :=
  Action.change fun s => { s with printed := s.printed ++ line ++ "\n" }

/-- A result that fails with a chain of texts. -/
def ofChain (x : Except ErrorChain α) : Action (Session σ) Failure α :=
  (Action.ofExcept x).mapError .error

end Session

/-- Does an action with a store that is opened on a folder of the site. -/
def Site.withStore (root : String) (x : Action (Session σ) Failure α) :
    Action (Site σ) Failure α := do
  let store ← (Action.ofJudgement (ArtifactStore.create (← Action.look).files root)).mapError .error
  x.within (fun site => ⟨⟨site.files, store, site.chain⟩, site.printed⟩)
    fun _ s => ⟨s.workshop.files, s.workshop.chain, s.printed⟩

open Session

/-- Tells what the transaction that created a contract cost, if it is known. -/
def reportCost (node : Node σ) (reporting : Reporting) (contract : Contract) :
    Action (Session σ) Failure Unit :=
  match contract.transaction with
  | none => return
  | some transaction => do
    let receipt ← onChain (node.receipt transaction)
    match reporting.pricing.gasNotice contract.name receipt.gasUsed with
    | .ok notice => .tell notice
    | .error overflow => throw (.ofText overflow.message)

/-- Gets the instance of an artifact and prints its address. -/
def DeployCommand.perform (node : Node σ) (reporting : Reporting) (c : DeployCommand) :
    Action (Session σ) Failure Unit := do
  let artifact ← artifact c.name
  let args ← ofChain <|
    (artifact.interface.coerceConstructorArguments c.args).mapError fun e => .ofText e.message
  let request : DeploymentRequest :=
    { name := c.name, key := .ofAddress? c.address, redeploy := false, args }
  let registry := Workshop.registry node
  let (contract, _) ← withNewCache <|
    if c.redeploy then DeploymentCache.redeploy registry reporting.thresholds request
    else DeploymentCache.get registry reporting.thresholds request
  reportCost node reporting contract
  print contract.address.checksummed

/-- The arguments that are expected of an event. No arguments at all expect nothing. -/
def EventsCommand.expected (c : EventsCommand) : Except ErrorChain (Option EventArgs) := do
  let args := OrderedMap.ofList (← c.args.mapM expectedArgument)
  return if args.isEmpty then none else some args

/-- Prints the log entries of a transaction, and then expects an event among them if one is
named. -/
def EventsCommand.perform (node : Node σ) (decoder : Decoder) (c : EventsCommand) :
    Action (Session σ) Failure Unit := do
  let artifact ← artifact c.name
  let receipt ← onChain (node.receipt c.transaction)
  let entries ← ofChain <|
    (artifact.interface.decodeLogs decoder.memory receipt.logs).mapError (LogError.chain decoder)
  print (Json.array (entries.map LogEntry.toJson)).pretty
  match c.event with
  | none => return
  | some event => do
    let expected ← ofChain c.expected
    .ofJudgement (expectEvent event expected entries)
    .tell (.info "The transaction emitted the event")

/-- Carries out a command. -/
def Command.perform (node : Node σ) (decoder : Decoder) (reporting : Reporting) :
    Command → Action (Session σ) Failure Unit
  | .deploy c => c.perform node reporting
  | .events c => c.perform node decoder

/-- Carries out an invocation against the node at an endpoint. -/
def Invocation.perform (endpoint : Endpoint σ) (decoder : Decoder) (i : Invocation) :
    Action (Site σ) Failure Unit := do
  let remote ←
    (Action.ofExcept (RemoteNode.ofConfiguration i.configuration endpoint)).mapError .error
  Site.withStore i.configuration.artifacts
    (i.command.perform remote.toNode decoder i.configuration.reporting)

/-- Runs a command line against the node at an endpoint. -/
def run (endpoint : Endpoint σ) (decoder : Decoder) (words : List String) :
    Action (Site σ) RunError Unit := do
  let invocation ← (Action.ofExcept (Invocation.read words)).mapError .usage
  (invocation.perform endpoint decoder).mapError .failure

end ContractHarness.CommandLine
