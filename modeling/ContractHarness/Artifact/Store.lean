import ContractHarness.Artifact.File
import ContractHarness.Artifact.Index
import ContractHarness.Deployment.Registry
import ContractHarness.Node

/-!
# The artifact store

A registry of contracts that reads artifacts from the files of a build and deploys them through a
node. Files are indexed once, when the store is opened. An artifact is read when it is first asked
for and remembered from then on; one that could not be read is tried again.

The store answers a lookup only when the artifact can be read and there is code at the address.
-/

set_option autoImplicit false

namespace ContractHarness

/-- What a store knows. -/
structure ArtifactStore where
  /-- The folder of the artifacts, as it was written. -/
  root : String
  paths : OrderedMap ArtifactName FilePath
  /-- The artifacts that were read. -/
  loaded : OrderedMap ArtifactName Artifact := ∅
  /-- The canonical instances. -/
  canonical : OrderedMap ArtifactName Contract := ∅

/-- Files, a store that was opened on them, and the world of a node. -/
structure Workshop (σ : Type) where
  files : Entry
  store : ArtifactStore
  chain : σ

namespace ArtifactStore

/-- Opens a store on the folder at a written path. -/
def create (files : Entry) (root : String) : Except ErrorChain ArtifactStore × List Notice :=
  let missing := (.error (.ofText s!"The artifacts directory {root} does not exist"), [])
  match files.find? root with
  | .ok entry =>
    if entry.isFolder then
      let index := ArtifactIndex.ofPaths entry.artifacts
      (.ok { root, paths := index.paths }, index.notices)
    else missing
  | .error _ => missing

/-- The names of the artifacts in alphabetical order. -/
def names (store : ArtifactStore) : List ArtifactName :=
  store.paths.keys.mergeSort fun a b => decide (a ≤ b)

/-- The entry at the path of an artifact. -/
def openFile (store : ArtifactStore) (files : Entry) (path : FilePath) :
    Except PlaceError Entry := do
  (← files.find? store.root).at? path

/-- Reads the artifact at a path. -/
def readFile (store : ArtifactStore) (files : Entry) (path : FilePath) :
    Except ErrorChain Artifact :=
  let shown := path.shownUnder store.root
  let unreadable cause := .error ⟨s!"Failed to parse the artifact file {shown}", [cause]⟩
  match store.openFile files path with
  | .error e => .error ⟨s!"Failed to open the artifact file {shown}", [e.message]⟩
  | .ok (.file content) =>
    match Artifact.read? content with
    | some artifact => .ok artifact
    | none => unreadable "it does not hold an artifact"
  | .ok entry =>
    unreadable (if entry.isFolder then PlaceError.isFolder.message else "it is no file")

/-- The artifact of a name, with the store that remembers it. -/
def load (store : ArtifactStore) (files : Entry) (name : ArtifactName) :
    Except ErrorChain (Artifact × ArtifactStore) :=
  match store.loaded.get? name with
  | some artifact => .ok (artifact, store)
  | none =>
    match store.paths.get? name with
    | none => .error (.ofText s!"Could not find artifacts for {name}")
    | some path =>
      match store.readFile files path with
      | .error e => .error e
      | .ok artifact => .ok (artifact, { store with loaded := store.loaded.insert name artifact })

end ArtifactStore

namespace Workshop

variable {σ ε α : Type}

/-- Does an action to the world of the node. -/
def onChain (x : Action σ ε α) : Action (Workshop σ) ε α :=
  x.within Workshop.chain fun world chain => { world with chain }

/-- The artifact of a name. -/
def artifact (name : ArtifactName) : Action (Workshop σ) ErrorChain Artifact := fun world =>
  match world.store.load world.files name with
  | .ok (artifact, store) => ⟨.ok artifact, { world with store }, []⟩
  | .error e => ⟨.error e, world, []⟩

/-- The instance of an artifact at an address, where there has to be code. -/
def instanceAt (node : Node σ) (name : ArtifactName) (address : Address) :
    Action (Workshop σ) LookupError Contract := do
  let artifact ← (artifact name).mapError .opaqueError
  let code ← ((onChain (node.codeAt address)).context
    s!"Failed to get the code at {address.checksummed}").mapError .opaqueError
  if code.isEmpty then throw (.noCode name address)
  return ⟨name, address, artifact.interface, none⟩

/-- The canonical instance of an artifact. -/
def deployed (node : Node σ) (name : ArtifactName) : Action (Workshop σ) LookupError Contract := do
  let _ ← (artifact name).mapError .opaqueError
  match (← Action.look).store.canonical.get? name with
  | none => throw (.notDeployed name)
  | some contract =>
    let found ← instanceAt node name contract.address
    return { found with transaction := contract.transaction }

/-- The code that creates an instance of an artifact with constructor arguments. -/
def creationCode (name : ArtifactName) (artifact : Artifact) (args : List AbiValue) :
    Except ErrorChain Bytes :=
  if artifact.bytecode.isEmpty then
    .error <| .ofText <|
      s!"{name} has no bytecode and can't be deployed, is it abstract or an interface?"
  else match artifact.interface.constructor? with
    | some inputs =>
      match Param.encodeAll inputs args with
      | .ok encoded => .ok (artifact.bytecode ++ encoded)
      | .error e =>
        .error ⟨s!"Failed to encode the constructor arguments of {name}", [e.message]⟩
    | none =>
      if args.isEmpty then .ok artifact.bytecode
      else .error <| .ofText <|
        s!"{name} has no constructor but {args.length} arguments were provided"

/-- Executes a transaction that creates a contract, and tells when it fails. -/
def submit (node : Node σ) (code : Bytes) : Action (Workshop σ) ErrorChain Receipt :=
  tryCatch (onChain (node.execute ⟨node.defaultAccount, none, code⟩)) fun e => do
    .tell (.error "Failed to deploy the contract")
    throw e

/-- Deploys a new instance of an artifact from the default account. -/
def deploy (node : Node σ) (name : ArtifactName) (args : List AbiValue) :
    Action (Workshop σ) ErrorChain Contract := do
  let artifact ← artifact name
  let code ← .ofExcept (creationCode name artifact args)
  let receipt ← submit node code
  match receipt.contract with
  | none => throw (.ofText s!"The deployment of {name} did not create a contract")
  | some address =>
    .tell (.info "Deployed the contract")
    return ⟨name, address, artifact.interface, some receipt.transaction⟩

/-- Makes a contract the canonical instance of its name. -/
def setAsDeployed (contract : Contract) : Action (Workshop σ) ErrorChain Unit :=
  Action.change fun world =>
    { world with store.canonical := world.store.canonical.insert contract.name contract }

/-- The store as a registry that deploys through a node. -/
def registry (node : Node σ) : Registry (Workshop σ) where
  deployed := deployed node
  instanceAt := instanceAt node
  deploy := deploy node
  setAsDeployed := setAsDeployed

end Workshop

end ContractHarness
