import ContractHarness.Proofs.Abi.Arguments
import ContractHarness.Proofs.Artifact.History
import ContractHarness.Proofs.Node.Requests

/-!
# What a deployment asks of the node

A deployment sends its transaction when three conditions hold, and they are looked at in this order:
the artifact can be read, it has code, and the arguments are for its constructor. What is sent is
the code with the encoding of the arguments behind it, and a contract has been deployed when the
receipt tells its address. Whatever happens, no canonical instance changes.
-/

set_option autoImplicit false

namespace ContractHarness

variable {σ : Type}

/-! ## Code in files -/

namespace Artifact

/-- The digits of the code in a file: they are given as they are, or as the object of a description
of the code. -/
def codeDigits? (content : String) : Option String := do
  let bytecode ← (← Json.readOutlined? outline content).uniqueMember? "bytecode"
  match bytecode with
  | .object members => (← (Json.object members).uniqueMember? "object").string?
  | json => json.string?

/-- Code that is given as a text is read from its digits, marked or not. -/
theorem readBytes?_of_string? {json : Json} {digits : String} (h : json.string? = some digits) :
    readBytes? json = Hex.toBytes? (Hex.dropAnyMark digits.toList) := by
  cases json with
  | string text =>
    cases h
    rfl
  | _ => cases h

/-- The code of an artifact is what the digits in its file denote, behind a mark or without one. -/
theorem bytecode_of_codeDigits? {content digits : String} {artifact : Artifact}
    (hread : read? content = some artifact) (hdigits : codeDigits? content = some digits) :
    Hex.toBytes? (Hex.dropAnyMark digits.toList) = some artifact.bytecode := by
  unfold codeDigits? at hdigits
  simp only [Option.bind_eq_bind, Option.bind_eq_some_iff] at hdigits
  obtain ⟨json, houtlined, bytecode, hmember, hdigits⟩ := hdigits
  have hcode : readBytecode? bytecode = Hex.toBytes? (Hex.dropAnyMark digits.toList) := by
    cases bytecode with
    | object members =>
      obtain ⟨described, hdescribed, hdigits⟩ := Option.bind_eq_some_iff.mp hdigits
      unfold readBytecode?
      dsimp only
      rw [hdescribed, Option.bind_some, readBytes?_of_string? hdigits]
    | _ => exact readBytes?_of_string? hdigits
  unfold read? at hread
  rw [houtlined, Option.bind_some] at hread
  unfold ofJson? at hread
  split at hread
  · -- a list has no members
    cases hmember
  · obtain ⟨abi, -, hread⟩ := Option.bind_eq_some_iff.mp hread
    rw [hmember, Option.bind_eq_bind, Option.bind_some] at hread
    unfold ofParts? at hread
    obtain ⟨interface, -, hread⟩ := Option.bind_eq_some_iff.mp hread
    rw [hcode] at hread
    obtain ⟨code, hbytes, hread⟩ := Option.bind_eq_some_iff.mp hread
    cases hread
    exact hbytes

end Artifact

/-- A contract was created exactly when the receipt tells its address, and it has the hash of the
receipt. -/
theorem Creation.createdBy_ok_iff {c : Creation} {result : Except ErrorChain Receipt}
    {contract : Contract} : c.createdBy result = .ok contract ↔
      ∃ receipt address, result = .ok receipt ∧ receipt.contract = some address ∧
        contract = ⟨c.name, address, c.interface, some receipt.transaction⟩ := by
  unfold createdBy
  cases result with
  | error e => simp
  | ok receipt =>
    dsimp only
    cases hcontract : receipt.contract with
    | none => simp [hcontract]
    | some address => simp [hcontract, eq_comm]

namespace Workshop

variable {node : Node σ} {world : Workshop σ} {name : ArtifactName} {args : List AbiValue}
  {requests : List Node.Request} {a : Artifact} {c : Creation} {e : ErrorChain}

/-! ## Creation code -/

/-- There is creation code exactly when the artifact has code and the arguments are for its
constructor, and then it is the code with the encoded arguments behind it. -/
theorem creationCode_ok_iff {code : Bytes} : creationCode name a args = .ok code ↔
    a.bytecode ≠ [] ∧ a.interface.Constructs args ∧
      code = a.bytecode ++ AbiValue.encodeSequence args := by
  unfold creationCode Interface.Constructs
  cases hempty : a.bytecode.isEmpty with
  | true =>
    rw [List.isEmpty_iff] at hempty
    simp [hempty]
  | false =>
    have hcode : a.bytecode ≠ [] := by simpa using hempty
    rw [if_neg Bool.false_ne_true]
    cases a.interface.constructor? with
    | none =>
      cases args with
      | nil =>
        have hnothing : AbiValue.encodeSequence [] = [] := rfl
        simp [hcode, hnothing, eq_comm]
      | cons value values => simp
    | some inputs =>
      dsimp only
      cases hencoded : Param.encodeAll inputs args with
      | ok encoded =>
        obtain ⟨hadmits, rfl⟩ := Param.encodeAll_ok_iff.mp hencoded
        simp [hcode, hadmits, eq_comm]
      | error e =>
        refine iff_of_false nofun ?_
        rintro ⟨-, hadmits, -⟩
        cases hencoded.symm.trans (Param.encodeAll_ok_iff.mpr ⟨hadmits, rfl⟩)

/-- A deployment of the artifact with the arguments can be sent. -/
structure Ready (world : Workshop σ) (name : ArtifactName) (args : List AbiValue) (a : Artifact) :
    Prop where
  loads : ((artifact name).run world).result = .ok a
  code : a.bytecode ≠ []
  arguments : a.interface.Constructs args

/-- A creation is planned exactly when the deployment can be sent, with the code and the arguments
behind it. -/
theorem planned_ok_iff : world.planned name args = .ok c ↔
    ∃ a, world.Ready name args a ∧
      c = ⟨name, a.interface, a.bytecode ++ AbiValue.encodeSequence args⟩ := by
  unfold planned
  cases hheld : world.holds name with
  | error e =>
    refine iff_of_false nofun ?_
    rintro ⟨a, ⟨hloads, -, -⟩, -⟩
    rw [run_artifact, hheld] at hloads
    cases hloads
  | ok a =>
    have hloads : ((artifact name).run world).result = .ok a := by rw [run_artifact, hheld]
    dsimp only
    rw [Except.map_ok_iff]
    constructor
    · rintro ⟨code, hcode, rfl⟩
      obtain ⟨hnonempty, harguments, rfl⟩ := creationCode_ok_iff.mp hcode
      exact ⟨a, ⟨hloads, hnonempty, harguments⟩, rfl⟩
    · rintro ⟨other, ⟨hother, hnonempty, harguments⟩, rfl⟩
      obtain rfl := Except.ok.inj (hloads.symm.trans hother)
      exact ⟨_, creationCode_ok_iff.mpr ⟨hnonempty, harguments, rfl⟩, rfl⟩

/-- A deployment that can be sent is planned with its code and arguments. -/
theorem Ready.planned (h : world.Ready name args a) : world.planned name args =
    .ok ⟨name, a.interface, a.bytecode ++ AbiValue.encodeSequence args⟩ :=
  planned_ok_iff.mpr ⟨a, h, rfl⟩

/-- A deployment that cannot be sent is not planned. -/
theorem exists_planned_error (h : ¬ ∃ a, world.Ready name args a) :
    ∃ e, world.planned name args = .error e := by
  cases hplanned : world.planned name args with
  | error e => exact ⟨e, rfl⟩
  | ok c =>
    obtain ⟨a, hready, -⟩ := planned_ok_iff.mp hplanned
    exact absurd ⟨a, hready⟩ h

/-! ## What the node learns -/

/-- The workshop on a chain beside which requests are recorded. -/
def recorded (world : Workshop σ) (requests : List Node.Request) :
    Workshop (σ × List Node.Request) :=
  ⟨world.files, world.store, (world.chain, requests)⟩

/-- A deployment that can be sent asks the node for one execution, from its own account and without
a recipient, and creates what the receipt tells. -/
theorem run_deploy_of_ready (h : world.Ready name args a) :
    let code := a.bytecode ++ AbiValue.encodeSequence args
    let o := (deploy node.recorded name args).run (world.recorded requests)
    o.result = Creation.createdBy ⟨name, a.interface, code⟩
        ((node.execute ⟨node.defaultAccount, none, code⟩).run world.chain).result ∧
      o.world.chain.2 = requests ++ [.execution ⟨node.defaultAccount, none, code⟩] ∧
      o.world.store.canonical = world.store.canonical := by
  intro code o
  have hplanned : (world.recorded requests).planned name args = .ok ⟨name, a.interface, code⟩ :=
    h.planned
  obtain ⟨hresult, hworld⟩ : o.result = _ ∧ o.world = _ := run_deploy_of_planned hplanned
  refine ⟨hresult, ?_, ?_⟩
  · exact congrArg (fun after => after.chain.2) hworld
  · refine (congrArg (fun after => after.store.canonical) hworld).trans ?_
    exact store_asked_canonical

/-- A deployment that cannot be sent fails before the node is asked anything. -/
theorem run_deploy_of_not_ready (h : ¬ ∃ a, world.Ready name args a) :
    let o := (deploy node.recorded name args).run (world.recorded requests)
    (∃ e, o.result = .error e) ∧ o.world.chain = (world.chain, requests) ∧
      o.world.store.canonical = world.store.canonical := by
  intro o
  obtain ⟨e, he⟩ := exists_planned_error h
  have hplanned : (world.recorded requests).planned name args = .error e := he
  have hrun : o = _ := run_deploy_of_error hplanned
  rw [hrun]
  exact ⟨⟨e, rfl⟩, rfl, store_asked_canonical⟩

/-- The artifact is not remembered, and this is what its file holds. -/
structure Unread (world : Workshop σ) (name : ArtifactName) (content : String) : Prop where
  forgotten : world.store.loaded.get? name = none
  file : ∃ path, world.store.paths.get? name = some path ∧
    world.store.openFile world.files path = .ok (.file content)

/-- An artifact that is loaded and was not remembered is what its file holds. -/
theorem Unread.read? {content : String} (h : world.Unread name content)
    (hloads : ((artifact name).run world).result = .ok a) : Artifact.read? content = some a := by
  obtain ⟨path, hpath, hopen⟩ := h.file
  rw [run_artifact] at hloads
  unfold holds ArtifactStore.holds ArtifactStore.find ArtifactStore.readFile at hloads
  simp only [h.forgotten, hpath, hopen] at hloads
  cases hread : Artifact.read? content with
  | none =>
    rw [hread] at hloads
    cases hloads
  | some artifact =>
    rw [hread] at hloads
    rw [Except.ok.inj hloads]

/-- What a deployment asks of the node, and what comes of it. -/
structure Deploys (node : Node σ) (world : Workshop σ) (name : ArtifactName)
    (args : List AbiValue) (requests : List Node.Request)
    (o : Outcome (Workshop (σ × List Node.Request)) ErrorChain Contract) : Prop where
  submits : (∃ t, o.world.chain.2 = requests ++ [.execution t]) ↔ ∃ a, world.Ready name args a
  transaction : ∀ a, world.Ready name args a → o.world.chain.2 = requests ++
    [.execution ⟨node.defaultAccount, none, a.bytecode ++ AbiValue.encodeSequence args⟩]
  /-- Otherwise it fails, and the node is asked nothing. -/
  refused : (¬ ∃ a, world.Ready name args a) →
    (∃ e, o.result = .error e) ∧ o.world.chain = (world.chain, requests)
  /-- It succeeds exactly with a receipt that tells the address of the contract. -/
  succeeds : ∀ a contract, world.Ready name args a →
    (o.result = .ok contract ↔ ∃ receipt address,
      ((node.execute ⟨node.defaultAccount, none,
        a.bytecode ++ AbiValue.encodeSequence args⟩).run world.chain).result = .ok receipt ∧
      receipt.contract = some address ∧
      contract = ⟨name, address, a.interface, some receipt.transaction⟩)
  canonical : o.world.store.canonical = world.store.canonical
  /-- The code is the one that the file of the artifact gives. -/
  code : ∀ a content digits, world.Ready name args a → world.Unread name content →
    Artifact.codeDigits? content = some digits →
      Hex.toBytes? (Hex.dropAnyMark digits.toList) = some a.bytecode

/-- For every node, store, artifact and list of arguments: a transaction is sent exactly when the
artifact can be loaded, has code and takes the arguments, it is the only one and its input is the
code with the encoded arguments, the contract is the one that the receipt tells, and no canonical
instance changes. -/
theorem deploys (node : Node σ) (world : Workshop σ) (name : ArtifactName) (args : List AbiValue)
    (requests : List Node.Request) : Deploys node world name args requests
      ((deploy node.recorded name args).run (world.recorded requests)) := by
  constructor
  case submits =>
    constructor
    · rintro ⟨t, ht⟩
      refine Classical.byContradiction fun hnone => ?_
      obtain ⟨-, hchain, -⟩ := run_deploy_of_not_ready hnone
      rw [hchain] at ht
      simp at ht
    · rintro ⟨a, hready⟩
      exact ⟨_, (run_deploy_of_ready hready).2.1⟩
  case transaction => exact fun a hready => (run_deploy_of_ready hready).2.1
  case refused =>
    intro hnone
    obtain ⟨herror, hchain, -⟩ := run_deploy_of_not_ready hnone
    exact ⟨herror, hchain⟩
  case succeeds =>
    intro a contract hready
    rw [(run_deploy_of_ready hready).1]
    exact Creation.createdBy_ok_iff
  case canonical =>
    by_cases hready : ∃ a, world.Ready name args a
    · obtain ⟨a, hready⟩ := hready
      exact (run_deploy_of_ready hready).2.2
    · exact (run_deploy_of_not_ready hready).2.2
  case code =>
    intro a content digits hready hunread hdigits
    exact Artifact.bytecode_of_codeDigits? (hunread.read? hready.loads) hdigits

/-! ## The deployment of a vault -/

section Vault

/-- The file of an artifact whose constructor takes rows of small numbers. -/
def vaultFile : String :=
  "\x7b\"abi\":[\x7b\"type\":\"constructor\",\"inputs\":[\x7b\"name\":\"rows\",\"type\":\"uint8[]\"\x7d]\x7d]," ++
    "\"bytecode\":\x7b\"object\":\"0x6001\"\x7d\x7d"

/-- The folder with that file. -/
def vaults : Entry :=
  .folder [(FileName.ofText "Vault.json", .file vaultFile)]

/-- A store with one artifact that is still to be read. -/
def vaultWorkshop : Workshop Rehearsal.Chain where
  files := vaults
  store := {
    root := "."
    paths := (∅ : OrderedMap ArtifactName FilePath).insert "Vault" [FileName.ofText "Vault.json"] }
  chain := {}

/-- Two rows. -/
def vaultArgs : List AbiValue :=
  [.array [.uint 8 1, .uint 8 2]]

/-- The code in the file is given as a description of it. -/
theorem codeDigits?_vaultFile : Artifact.codeDigits? vaultFile = some "0x6001" := by
  decide +kernel

/-- The artifact is in the store and was not read yet. -/
theorem unread_vault : vaultWorkshop.Unread "Vault" vaultFile := by
  refine ⟨rfl, [FileName.ofText "Vault.json"], rfl, ?_⟩
  have hfind : vaults.find? "." = .ok vaults := ArtifactStore.find?_here _
  unfold ArtifactStore.openFile vaultWorkshop
  rw [hfind]
  rfl

/-- The artifact that the file holds is loaded. -/
theorem loads_vault (h : Artifact.read? vaultFile = some a) :
    ((artifact "Vault").run vaultWorkshop).result = .ok a := by
  obtain ⟨path, hpath, hopen⟩ := unread_vault.file
  rw [run_artifact]
  unfold holds ArtifactStore.holds ArtifactStore.find ArtifactStore.readFile
  simp only [unread_vault.forgotten, hpath, hopen, h]

/-- With the rows the deployment can be sent, and without arguments it cannot. -/
theorem ready_vault : (∃ a, vaultWorkshop.Ready "Vault" vaultArgs a) ∧
    ¬ ∃ a, vaultWorkshop.Ready "Vault" [] a := by
  have hcodes : ((Artifact.read? vaultFile).any fun a =>
      (creationCode "Vault" a vaultArgs).toBool && !(creationCode "Vault" a []).toBool) = true := by
    decide +kernel
  obtain ⟨a, hread, hcodes⟩ := (Option.any_eq_true _ _).mp hcodes
  rw [Bool.and_eq_true, Bool.not_eq_true', Except.toBool_iff] at hcodes
  obtain ⟨⟨code, hcode⟩, hnone⟩ := hcodes
  constructor
  · obtain ⟨hnonempty, harguments, -⟩ := creationCode_ok_iff.mp hcode
    exact ⟨a, loads_vault hread, hnonempty, harguments⟩
  · rintro ⟨other, hloads, hnonempty, harguments⟩
    obtain rfl := Except.ok.inj ((loads_vault hread).symm.trans hloads)
    rw [creationCode_ok_iff.mpr ⟨hnonempty, harguments, rfl⟩] at hnone
    cases hnone

/-- A deployment of the artifact with arguments, through a node beside which requests are recorded.
-/
def deployVault (args : List AbiValue) :
    Outcome (Workshop (Rehearsal.Chain × List Node.Request)) ErrorChain Contract :=
  (deploy Rehearsal.node.recorded "Vault" args).run (vaultWorkshop.recorded [])

/-- With its argument a vault is deployed, and without it nothing is sent. -/
theorem deploys_vault :
    (deployVault vaultArgs).world.chain.2 = [.execution ⟨Rehearsal.deployer, none,
        [0x60, 1] ++ AbiValue.encodeSequence vaultArgs⟩] ∧
      (∃ contract, (deployVault vaultArgs).result = .ok contract ∧
        contract.address = Address.ofNat 1) ∧
      (deployVault []).world.chain.2 = [] := by
  have hvault := deploys Rehearsal.node vaultWorkshop "Vault" vaultArgs []
  have hnothing := deploys Rehearsal.node vaultWorkshop "Vault" [] []
  obtain ⟨⟨a, hready⟩, hnone⟩ := ready_vault
  have hdigits := hvault.code a _ _ hready unread_vault codeDigits?_vaultFile
  have hcode : a.bytecode = [0x60, 1] := (Option.some.inj hdigits).symm
  refine ⟨?_, ?_, ?_⟩
  · rw [← hcode]
    exact hvault.transaction a hready
  · exact ⟨_, (hvault.succeeds a _ hready).mpr ⟨_, Address.ofNat 1, rfl, rfl, rfl⟩, rfl⟩
  · exact congrArg Prod.snd (hnothing.refused hnone).2

end Vault

end Workshop

end ContractHarness
