import ContractHarness.Artifact.Store
import ContractHarness.Proofs.Except

/-!
# The operations of a store in stages

A lookup and a deployment of a store first do what the store can do alone, then ask the node one
thing, and then make a handle of its answer. While the node is asked others may have their turns, so
the stages are told apart here: `candidate` and `creation` come before the question, `confirmedBy`
and `createdBy` after the answer. `lookUp_eq` and `deploy_eq` say that a store does nothing else.

What a store can do alone depends on two things that it holds of a name: the artifact, or why it
cannot be read, and the canonical instance. No operation changes the first one for any name, because
an artifact that was read is remembered as it was read.
-/

set_option autoImplicit false

namespace ContractHarness

variable {σ : Type}

/-- The answer of a lookup when the node has told the code at the address of the handle. -/
def Contract.confirmedBy (c : Contract) : Except ErrorChain Bytes → Except LookupError Contract
  | .error e => .error <| .opaqueError <|
    e.context s!"Failed to get the code at {c.address.checksummed}"
  | .ok code => if code.isEmpty then .error (.noCode c.name c.address) else .ok c

/-- A contract that is to be created. -/
structure Creation where
  name : ArtifactName
  interface : Interface
  code : Bytes

/-- The transaction that creates the contract. -/
def Creation.transaction (c : Creation) (account : Address) : Transaction :=
  ⟨account, none, c.code⟩

/-- The answer of a deployment when the node has executed the transaction. -/
def Creation.createdBy (c : Creation) : Except ErrorChain Receipt → Except ErrorChain Contract
  | .error e => .error e
  | .ok receipt =>
    match receipt.contract with
    | none => .error (.ofText s!"The deployment of {c.name} did not create a contract")
    | some address => .ok ⟨c.name, address, c.interface, some receipt.transaction⟩

/-! ## What a store holds of a name -/

namespace ArtifactStore

variable {store : ArtifactStore} {files : Entry} {name other : ArtifactName}

/-- The artifact of a name that is not remembered, or why it cannot be read. -/
def find (store : ArtifactStore) (files : Entry) (name : ArtifactName) :
    Except ErrorChain Artifact :=
  match store.paths.get? name with
  | none => .error (.ofText s!"Could not find artifacts for {name}")
  | some path => store.readFile files path

/-- The artifact of a name, or why it cannot be read. -/
def holds (store : ArtifactStore) (files : Entry) (name : ArtifactName) :
    Except ErrorChain Artifact :=
  match store.loaded.get? name with
  | some artifact => .ok artifact
  | none => store.find files name

/-- The store when the artifact of a name was asked for. -/
def asked (store : ArtifactStore) (files : Entry) (name : ArtifactName) : ArtifactStore :=
  match store.loaded.get? name, store.find files name with
  | none, .ok artifact => { store with loaded := store.loaded.insert name artifact }
  | _, _ => store

/-- To load an artifact gives what the store holds, and the store remembers that it was asked. -/
theorem load_eq :
    store.load files name = (store.holds files name).map fun a => (a, store.asked files name) := by
  unfold load holds asked
  cases store.loaded.get? name with
  | some artifact => rfl
  | none =>
    unfold find
    cases store.paths.get? name with
    | none => rfl
    | some path =>
      dsimp only
      cases store.readFile files path <;> rfl

/-- A store that cannot read an artifact stays as it was. -/
theorem asked_of_error {e : ErrorChain} (h : store.holds files name = .error e) :
    store.asked files name = store := by
  unfold holds at h
  unfold asked
  split at h
  · cases h
  · next hloaded => rw [hloaded, h]

/-- Asking for an artifact changes nothing but what is remembered. -/
theorem exists_asked_eq : ∃ loaded, store.asked files name = { store with loaded } := by
  unfold asked
  split <;> exact ⟨_, rfl⟩

/-- An artifact is remembered as it was read, so that it is what the store held before. -/
@[simp] theorem holds_asked :
    (store.asked files name).holds files other = store.holds files other := by
  unfold asked
  split
  · next artifact hloaded hfind =>
    have hother : ∀ loaded, ({ store with loaded } : ArtifactStore).find files other =
        store.find files other := fun _ => rfl
    unfold holds
    rw [hother, OrderedMap.get?_insert]
    by_cases hname : name = other
    · subst hname
      simp [hloaded, hfind]
    · simp [hname]
  · rfl

/-- To ask for an artifact again changes nothing. -/
@[simp] theorem asked_asked :
    (store.asked files name).asked files name = store.asked files name := by
  cases h : store.holds files name with
  | error e => rw [asked_of_error h, asked_of_error h]
  | ok artifact =>
    have hloaded : ∃ known, (store.asked files name).loaded.get? name = some known := by
      unfold asked
      split
      · exact ⟨_, OrderedMap.get?_insert_self _ _ _⟩
      · next hnone =>
        unfold holds at h
        split at h
        · next known hknown => exact ⟨known, hknown⟩
        · next hloaded => exact absurd h (hnone artifact hloaded)
    obtain ⟨known, hknown⟩ := hloaded
    generalize store.asked files name = store' at hknown
    unfold asked
    rw [hknown]

end ArtifactStore

namespace Workshop

variable {name other : ArtifactName} {key : AddressKey} {args : List AbiValue}
  {world : Workshop σ} {node : Node σ}

/-- The artifact of a name, or why it cannot be read. -/
def holds (world : Workshop σ) (name : ArtifactName) : Except ErrorChain Artifact :=
  world.store.holds world.files name

/-- The canonical instance of a name. -/
def canonical (world : Workshop σ) (name : ArtifactName) : Option Contract :=
  world.store.canonical.get? name

/-- The workshop when the artifact of a name was asked for. -/
def asked (world : Workshop σ) (name : ArtifactName) : Workshop σ :=
  { world with store := world.store.asked world.files name }

/-- To ask for an artifact gives what the workshop holds, and nothing is told. -/
theorem run_artifact : (artifact name).run world = ⟨world.holds name, world.asked name, []⟩ := by
  unfold artifact Action.run asked holds
  dsimp only
  rw [ArtifactStore.load_eq]
  cases h : world.store.holds world.files name with
  | error e =>
    rw [ArtifactStore.asked_of_error h]
    rfl
  | ok artifact => rfl

/-- To ask for an artifact changes nothing about what the workshop holds. -/
@[simp] theorem holds_asked : (world.asked name).holds other = world.holds other :=
  ArtifactStore.holds_asked

/-- To ask for an artifact changes no canonical instance in the store. -/
theorem store_asked_canonical : (world.asked name).store.canonical = world.store.canonical := by
  obtain ⟨loaded, h⟩ := @ArtifactStore.exists_asked_eq world.store world.files name
  unfold asked
  rw [h]

/-- To ask for an artifact changes no canonical instance. -/
@[simp] theorem canonical_asked : (world.asked name).canonical other = world.canonical other := by
  unfold canonical
  rw [store_asked_canonical]

/-- To ask a workshop for an artifact again changes nothing. -/
@[simp] theorem asked_asked : (world.asked name).asked name = world.asked name := by
  unfold asked
  dsimp only
  rw [ArtifactStore.asked_asked]

/-! ## Lookups -/

/-- The handle that a lookup answers with if there is code at its address. -/
def sought (world : Workshop σ) (name : ArtifactName) (key : AddressKey) :
    Except LookupError Contract :=
  match world.holds name with
  | .error e => .error (.opaqueError e)
  | .ok artifact =>
    match key with
    | .at address => .ok ⟨name, address, artifact.interface, none⟩
    | .canonical =>
      match world.canonical name with
      | none => .error (.notDeployed name)
      | some c => .ok ⟨name, c.address, artifact.interface, c.transaction⟩

/-- What a lookup does before it asks the node. -/
def candidate (name : ArtifactName) (key : AddressKey) : Action (Workshop σ) LookupError Contract :=
  fun world => ⟨world.sought name key, world.asked name, []⟩

/-- What a lookup does from when it asks the node. -/
def confirm (node : Node σ) (c : Contract) : Action (Workshop σ) LookupError Contract := do
  let code ← (onChain (node.codeAt c.address)).attempt
  .ofExcept (c.confirmedBy code)

/-- A lookup starts with the handle that it seeks, and asks for the artifact only. -/
theorem run_candidate :
    (candidate name key).run world = ⟨world.sought name key, world.asked name, []⟩ := rfl

/-- A lookup ends with the answer of the node about the code at the address of the handle. -/
theorem run_confirm (c : Contract) :
    (confirm node c).run world =
      ⟨c.confirmedBy ((onChain (node.codeAt c.address)).run world).result,
        ((onChain (node.codeAt c.address)).run world).world,
        ((onChain (node.codeAt c.address)).run world).notices⟩ := by
  unfold confirm
  simp [Action.run_bind]

/-- A lookup at an address seeks the handle and then asks the node. -/
theorem run_instanceAt (address : Address) :
    (instanceAt node name address).run world =
      (candidate name (.at address) >>= confirm node).run world := by
  unfold instanceAt
  simp only [Action.run_bind, Action.run_mapError, run_artifact, run_candidate, sought]
  cases world.holds name with
  | error e => rfl
  | ok artifact =>
    simp only [Except.mapError_ok, Action.run_context, run_confirm]
    cases ((onChain (node.codeAt address)).run (world.asked name)).result with
    | error e => rfl
    | ok code =>
      simp only [Except.mapError_ok, Contract.confirmedBy]
      cases code.isEmpty <;> simp [Action.run_bind, -bind_pure_comp]

/-- A lookup of a canonical instance seeks the handle and then asks the node. -/
theorem run_deployed :
    (deployed node name).run world = (candidate name .canonical >>= confirm node).run world := by
  unfold deployed
  simp only [Action.run_bind, Action.run_mapError, run_artifact, run_candidate, sought]
  cases hheld : world.holds name with
  | error e => rfl
  | ok artifact =>
    have hcanonical : (world.asked name).store.canonical.get? name = world.canonical name :=
      canonical_asked
    simp only [Except.mapError_ok, Action.run_look, hcanonical]
    cases world.canonical name with
    | none => rfl
    | some c =>
      -- the artifact is asked for again, and is what was remembered
      simp only [Action.run_bind, run_instanceAt, run_candidate, sought, holds_asked, asked_asked,
        hheld, run_confirm]
      cases ((onChain (node.codeAt c.address)).run (world.asked name)).result with
      | error e => rfl
      | ok code =>
        simp only [Contract.confirmedBy]
        cases code.isEmpty <;> simp

/-- A lookup finds out the handle, asks for the code at its address, and answers with both. -/
theorem lookUp_eq : (registry node).lookUp name key = candidate name key >>= confirm node := by
  funext world
  cases key with
  | «at» address => exact run_instanceAt address
  | canonical => exact run_deployed

/-! ## Deployments -/

/-- The contract that a deployment creates. -/
def planned (world : Workshop σ) (name : ArtifactName) (args : List AbiValue) :
    Except ErrorChain Creation :=
  match world.holds name with
  | .error e => .error e
  | .ok artifact =>
    (creationCode name artifact args).map fun code => ⟨name, artifact.interface, code⟩

/-- What a deployment does before it sends the transaction. -/
def creation (name : ArtifactName) (args : List AbiValue) :
    Action (Workshop σ) ErrorChain Creation :=
  fun world => ⟨world.planned name args, world.asked name, []⟩

/-- What a deployment does from when it sends the transaction. -/
def create (node : Node σ) (c : Creation) : Action (Workshop σ) ErrorChain Contract := do
  let contract ← .ofExcept (c.createdBy (← (submit node c.code).attempt))
  .tell (.info "Deployed the contract")
  return contract

/-- A deployment ends with what the node answers to the transaction. -/
theorem run_create (c : Creation) :
    ((create node c).run world).result = c.createdBy ((submit node c.code).run world).result ∧
      ((create node c).run world).world = ((submit node c.code).run world).world := by
  unfold create
  simp only [Action.run_bind, Action.run_attempt, Action.run_ofExcept]
  cases c.createdBy ((submit node c.code).run world).result with
  | error e => exact ⟨rfl, rfl⟩
  | ok contract => exact ⟨rfl, rfl⟩

/-- A deployment finds out the creation code, sends the transaction, and answers with its
receipt. -/
theorem deploy_eq :
    (registry node).deploy name args = creation name args >>= create node := by
  funext world
  show (deploy node name args).run world = (creation name args >>= create node).run world
  have hcreation : (creation name args).run world =
      ⟨world.planned name args, world.asked name, []⟩ := rfl
  unfold deploy
  simp only [Action.run_bind, run_artifact, hcreation, planned]
  cases world.holds name with
  | error e => rfl
  | ok artifact =>
    simp only [Action.run_ofExcept]
    cases creationCode name artifact args with
    | error e => rfl
    | ok code =>
      unfold create
      simp only [Except.map, Action.run_bind, Action.run_attempt]
      rcases (submit node code).run (world.asked name) with ⟨e | receipt, world', notices⟩
      · simp [Creation.createdBy]
      · simp only [Creation.createdBy]
        cases receipt.contract <;> simp [Action.run_bind, -bind_pure_comp]

/-- The node is sent the transaction once, whether it fails or not. -/
theorem run_submit (code : Bytes) :
    let sent := (onChain (node.execute ⟨node.defaultAccount, none, code⟩)).run world
    ((submit node code).run world).result = sent.result ∧
      ((submit node code).run world).world = sent.world := by
  intro sent
  unfold submit
  simp only [tryCatch, tryCatchThe, MonadExceptOf.tryCatch, Action.tryCatch, Action.run]
  rcases hsent : sent with ⟨e | receipt, world', notices⟩
  · rw [show onChain _ world = sent from rfl, hsent]
    exact ⟨rfl, rfl⟩
  · rw [show onChain _ world = sent from rfl, hsent]
    exact ⟨rfl, rfl⟩

/-- A deployment that is not planned fails after it asked for the artifact. -/
theorem run_deploy_of_error {e : ErrorChain} (h : world.planned name args = .error e) :
    (deploy node name args).run world = ⟨.error e, world.asked name, []⟩ := by
  have hdeploy : deploy node name args = creation name args >>= create node := deploy_eq
  have hcreation : (creation name args).run world =
      ⟨world.planned name args, world.asked name, []⟩ := rfl
  rw [hdeploy, Action.run_bind, hcreation, h]

/-- A deployment that is planned is carried out by one transaction, and its answer is made of the
receipt. -/
theorem run_deploy_of_planned {c : Creation} (h : world.planned name args = .ok c) :
    let sent := (node.execute (c.transaction node.defaultAccount)).run world.chain
    ((deploy node name args).run world).result = c.createdBy sent.result ∧
      ((deploy node name args).run world).world =
        { world.asked name with chain := sent.world } := by
  have hdeploy : deploy node name args = creation name args >>= create node := deploy_eq
  have hcreation : (creation name args).run world =
      ⟨world.planned name args, world.asked name, []⟩ := rfl
  intro sent
  rw [hdeploy, Action.run_bind, hcreation, h]
  dsimp only
  rw [(run_create c).1, (run_create c).2, (run_submit c.code).1, (run_submit c.code).2]
  exact ⟨rfl, rfl⟩

/-! ## The canonical instances -/

/-- To set a contract as deployed always succeeds and changes the canonical instances only. -/
theorem run_setAsDeployed (c : Contract) :
    (setAsDeployed c).run world =
      ⟨.ok (), { world with store.canonical := world.store.canonical.insert c.name c }, []⟩ := rfl

/-- A contract that is set as deployed is the canonical instance of its own name, and no other name
changes. -/
theorem canonical_setAsDeployed (c : Contract) :
    ((setAsDeployed c).run world).world.canonical name =
      if c.name = name then some c else world.canonical name := by
  rw [run_setAsDeployed]
  exact OrderedMap.get?_insert _ _ _ _

end Workshop

end ContractHarness
