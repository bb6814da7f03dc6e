import ContractHarness.Proofs.Deployment.Docket
import ContractHarness.Proofs.Deployment.Lookup

/-!
# The course of a request

What becomes of a request that demands no new instance depends on three things that are fixed when
it is made: the artifact of its name, the canonical instance, and the account that deploys. The rest
is up to the node, and the ledger tells what it answered. `Resolves` relates the calls of the store,
what the node was asked, and the result; there is one case for each way that a request can end.

Whether a failed lookup is followed by a deployment is read off its error. Under an address this
takes the texts of two errors to be different: that there is no code at the address, and that there
is no canonical instance.

`AsFar` says what is in the docket of the work on such a request at each of its stages, and that a
turn keeps it is proved by cases on the turn.
-/

set_option autoImplicit false

namespace ContractHarness

open Rehearsal (RegistryCall)

variable {σ : Type}

namespace DeploymentRequest

/-- The handle whose code is asked for, if there is one. -/
def handle? (r : DeploymentRequest) (artifact : Artifact) (canonical : Option Contract) :
    Option Contract :=
  match r.key with
  | .at address => some ⟨r.name, address, artifact.interface, none⟩
  | .canonical => canonical.map fun c => ⟨r.name, c.address, artifact.interface, c.transaction⟩

/-- The lookup of the contract. -/
def lookUpCall (r : DeploymentRequest) : RegistryCall :=
  .lookUp r.name r.key

/-- The deployment of the contract, with the arguments of the request. -/
def deployCall (r : DeploymentRequest) : RegistryCall :=
  .deploy r.name r.args

/-- A contract that was deployed under no address becomes the canonical instance. -/
def adoption (r : DeploymentRequest) : Except ErrorChain Contract → List RegistryCall
  | .ok c => if r.key = .canonical then [.setAsDeployed c] else []
  | .error _ => []

end DeploymentRequest

/-- Work that is not superseded sets what its request says. -/
theorem Work.adoption_of_current {w : Work} (h : w.superseded = false)
    (answer : Except ErrorChain Contract) : w.adoption answer = w.request.adoption answer := by
  unfold Work.adoption DeploymentRequest.adoption Work.adopts
  cases answer with
  | error e => rfl
  | ok c => simp [h]

namespace Deployment

/-! ## How a request can end -/

/-- What a request for an artifact finds. -/
structure Circumstances where
  /-- The account that deploys. -/
  account : Address
  /-- The artifact, or why it cannot be read. -/
  held : Except ErrorChain Artifact
  /-- The canonical instance. -/
  canonical : Option Contract

variable (x : Circumstances) (r : DeploymentRequest)

/-- How a deployment can end, with what the node is asked for it. -/
inductive Deploys (artifact : Artifact) : List Exchange → Except ErrorChain Contract → Prop where
  | refused {e : ErrorChain} (plan : Workshop.creationCode r.name artifact r.args = .error e) :
    Deploys artifact [] (.error e)
  | failed {code : Bytes} {e : ErrorChain}
    (plan : Workshop.creationCode r.name artifact r.args = .ok code) :
    Deploys artifact [.execution ⟨x.account, none, code⟩ (.error e)] (.error e)
  | barren {code : Bytes} {receipt : Receipt}
    (plan : Workshop.creationCode r.name artifact r.args = .ok code)
    (contract : receipt.contract = none) :
    Deploys artifact [.execution ⟨x.account, none, code⟩ (.ok receipt)]
      (.error (.ofText s!"The deployment of {r.name} did not create a contract"))
  | created {code : Bytes} {receipt : Receipt} {address : Address}
    (plan : Workshop.creationCode r.name artifact r.args = .ok code)
    (contract : receipt.contract = some address) :
    Deploys artifact [.execution ⟨x.account, none, code⟩ (.ok receipt)]
      (.ok ⟨r.name, address, artifact.interface, some receipt.transaction⟩)

/-- There is no contract: no canonical instance, or no code at the address that is looked up. -/
inductive Lacks (artifact : Artifact) : List Exchange → Prop where
  | absent (handle : r.handle? artifact x.canonical = none) : Lacks artifact []
  | empty {c : Contract} {code : Bytes} (handle : r.handle? artifact x.canonical = some c)
    (isEmpty : code.isEmpty = true) : Lacks artifact [.code c.address (.ok code)]

/-- How a request can end, with the calls of the store and what the node is asked. -/
inductive Resolves : List RegistryCall → List Exchange → Except ErrorChain Contract → Prop where
  /-- The artifact is missing or cannot be read. -/
  | unreadable {e : ErrorChain} (held : x.held = .error e) :
    Resolves [r.lookUpCall] [] (.error (e.context s!"Failed to look up {r.name}"))
  /-- The node does not tell the code. -/
  | unreported {artifact : Artifact} {c : Contract} {e : ErrorChain} (held : x.held = .ok artifact)
    (handle : r.handle? artifact x.canonical = some c) :
    Resolves [r.lookUpCall] [.code c.address (.error e)]
      (.error ((e.context s!"Failed to get the code at {c.address.checksummed}").context
        s!"Failed to look up {r.name}"))
  /-- There is code at the address. -/
  | found {artifact : Artifact} {c : Contract} {code : Bytes} (held : x.held = .ok artifact)
    (handle : r.handle? artifact x.canonical = some c) (isEmpty : code.isEmpty = false) :
    Resolves [r.lookUpCall] [.code c.address (.ok code)] (.ok c)
  /-- There is no contract, so that one is deployed. -/
  | deployed {artifact : Artifact} {before after : List Exchange}
    {result : Except ErrorChain Contract} (held : x.held = .ok artifact)
    (lacks : Lacks x r artifact before) (deploys : Deploys x r artifact after result) :
    Resolves (r.lookUpCall :: r.deployCall :: r.adoption result) (before ++ after) result

/-! ## What a lookup is answered with -/

/-- How a lookup is answered, with what the node is asked for it. -/
inductive LooksUp : List Exchange → Except LookupError Contract → Prop where
  | unreadable {e : ErrorChain} (held : x.held = .error e) : LooksUp [] (.error (.opaqueError e))
  | absent {artifact : Artifact} (held : x.held = .ok artifact)
    (handle : r.handle? artifact x.canonical = none) : LooksUp [] (.error (.notDeployed r.name))
  | code {artifact : Artifact} {c : Contract} (held : x.held = .ok artifact)
    (handle : r.handle? artifact x.canonical = some c) (answer : Except ErrorChain Bytes) :
    LooksUp [.code c.address answer] (c.confirmedBy answer)

variable {x r}
variable {artifact : Artifact} {c : Contract} {exchanges : List Exchange}

/-- Only under no address there can be no handle to ask about. -/
theorem key_of_handle? (h : r.handle? artifact x.canonical = none) : r.key = .canonical := by
  unfold DeploymentRequest.handle? at h
  split at h
  · cases h
  · next hkey => exact hkey

/-- An answered lookup settles the request as it is to end, or there is no contract. -/
theorem LooksUp.settles {answer : Except LookupError Contract} (h : LooksUp x r exchanges answer) :
    (∃ y, r.settledBy answer = some y ∧ Resolves x r [r.lookUpCall] exchanges y) ∨
      (r.settledBy answer = none ∧ ∃ artifact, x.held = .ok artifact ∧
        Lacks x r artifact exchanges) := by
  cases h with
  | unreadable held => exact .inl ⟨_, rfl, .unreadable held⟩
  | @absent artifact held handle =>
    right
    refine ⟨?_, artifact, held, .absent handle⟩
    unfold DeploymentRequest.settledBy LookupError.notDeployed
    simp [key_of_handle? handle]
  | @code artifact c held handle answer =>
    cases answer with
    | error e => exact .inl ⟨_, rfl, .unreported held handle⟩
    | ok code =>
      unfold Contract.confirmedBy
      dsimp only
      cases hcode : code.isEmpty with
      | false => exact .inl ⟨_, rfl, .found held handle hcode⟩
      | true =>
        right
        refine ⟨?_, artifact, held, .empty handle hcode⟩
        have hother := LookupError.isNotDeployed_noCode c.name r.name c.address
        unfold DeploymentRequest.settledBy
        unfold LookupError.noCode at hother ⊢
        simp [hother]

/-! ## How far the work is -/

/-- What is in the docket of the work on a request, at each of its stages. -/
inductive AsFar (x : Circumstances) (r : DeploymentRequest) : Docket → Prop where
  | fresh {w : Work} (request : w.request = r) (stage : w.stage = .fresh) :
    AsFar x r ⟨w, none, [], []⟩
  | asks {w : Work} {artifact : Artifact} {c : Contract} (request : w.request = r)
    (stage : w.stage = .lookingUp) (held : x.held = .ok artifact)
    (handle : r.handle? artifact x.canonical = some c) :
    AsFar x r ⟨w, some (.code c), [r.lookUpCall], []⟩
  | told {w : Work} {exchanges : List Exchange} {answer : Except LookupError Contract}
    (request : w.request = r) (stage : w.stage = .lookingUp)
    (answered : LooksUp x r exchanges answer) :
    AsFar x r ⟨w, some (.found answer), [r.lookUpCall], exchanges⟩
  | sends {w : Work} {artifact : Artifact} {before : List Exchange} {code : Bytes}
    (request : w.request = r) (stage : w.stage = .deploying) (held : x.held = .ok artifact)
    (lacks : Lacks x r artifact before)
    (plan : Workshop.creationCode r.name artifact r.args = .ok code) :
    AsFar x r ⟨w, some (.receipt ⟨r.name, artifact.interface, code⟩),
      [r.lookUpCall, r.deployCall], before⟩
  | made {w : Work} {artifact : Artifact} {before after : List Exchange}
    {answer : Except ErrorChain Contract} (request : w.request = r) (stage : w.stage = .deploying)
    (held : x.held = .ok artifact) (lacks : Lacks x r artifact before)
    (deploys : Deploys x r artifact after answer) :
    AsFar x r ⟨w, some (.made answer), [r.lookUpCall, r.deployCall], before ++ after⟩
  | settled {d : Docket} {y : Except ErrorChain Contract} (request : d.work.request = r)
    (stage : d.work.stage = .settled (r.outcome y))
    (noCode : ∀ c, d.task ≠ some (.code c)) (noReceipt : ∀ c, d.task ≠ some (.receipt c))
    (resolves : Resolves x r d.calls d.exchanges y) : AsFar x r d

variable {d d' : Docket} {w : Work} {workshop : Workshop σ}

/-- The docket of a request holds work on this request. -/
theorem AsFar.request (h : AsFar x r d) : d.work.request = r := by
  cases h <;> assumption

/-- How far work is depends on its request and its stage only. -/
theorem AsFar.congr (h : AsFar x r d) (hrequest : w.request = d.work.request)
    (hstage : w.stage = d.work.stage) : AsFar x r { d with work := w } := by
  cases h with
  | fresh request stage => exact .fresh (hrequest.trans request) (hstage.trans stage)
  | asks request stage held handle =>
    exact .asks (hrequest.trans request) (hstage.trans stage) held handle
  | told request stage answered =>
    exact .told (hrequest.trans request) (hstage.trans stage) answered
  | sends request stage held lacks plan =>
    exact .sends (hrequest.trans request) (hstage.trans stage) held lacks plan
  | made request stage held lacks deploys =>
    exact .made (hrequest.trans request) (hstage.trans stage) held lacks deploys
  | settled request stage noCode noReceipt resolves =>
    exact .settled (hrequest.trans request) (hstage.trans stage) noCode noReceipt resolves

/-- A lookup asks for the code of the handle, or is answered at once. -/
theorem sought_cases (hheld : workshop.holds r.name = x.held)
    (hcanonical : r.key = .canonical → workshop.canonical r.name = x.canonical) :
    (∃ artifact c, x.held = .ok artifact ∧ r.handle? artifact x.canonical = some c ∧
        workshop.sought r.name r.key = .ok c) ∨
      ∃ e, workshop.sought r.name r.key = .error e ∧ LooksUp x r [] (.error e) := by
  unfold Workshop.sought
  rw [hheld]
  cases hx : x.held with
  | error e => exact .inr ⟨_, rfl, .unreadable hx⟩
  | ok artifact =>
    dsimp only
    cases hkey : r.key with
    | «at» address =>
      left
      refine ⟨artifact, _, rfl, ?_, rfl⟩
      unfold DeploymentRequest.handle?
      rw [hkey]
    | canonical =>
      dsimp only
      have hhandle : r.handle? artifact x.canonical = x.canonical.map fun c =>
          ⟨r.name, c.address, artifact.interface, c.transaction⟩ := by
        unfold DeploymentRequest.handle?
        rw [hkey]
      rw [hcanonical hkey]
      cases hknown : x.canonical with
      | none =>
        refine .inr ⟨_, rfl, .absent hx ?_⟩
        rw [hhandle, hknown]
        rfl
      | some c =>
        refine .inl ⟨artifact, _, rfl, ?_, rfl⟩
        rw [← hknown, hhandle, hknown]
        rfl

/-- A deployment sends a transaction, or is answered at once. -/
theorem planned_cases (hheld : workshop.holds r.name = .ok artifact) :
    (∃ code, Workshop.creationCode r.name artifact r.args = .ok code ∧
        workshop.planned r.name r.args = .ok ⟨r.name, artifact.interface, code⟩) ∨
      ∃ e, workshop.planned r.name r.args = .error e ∧ Deploys x r artifact [] (.error e) := by
  unfold Workshop.planned
  rw [hheld]
  dsimp only
  cases hcode : Workshop.creationCode r.name artifact r.args with
  | ok code => exact .inl ⟨code, rfl, rfl⟩
  | error e => exact .inr ⟨e, rfl, .refused hcode⟩

/-- A deployment whose transaction was executed is answered. -/
theorem Deploys.of_receipt {code : Bytes}
    (hcode : Workshop.creationCode r.name artifact r.args = .ok code)
    (answer : Except ErrorChain Receipt) :
    Deploys x r artifact [.execution ⟨x.account, none, code⟩ answer]
      (Creation.createdBy ⟨r.name, artifact.interface, code⟩ answer) := by
  cases answer with
  | error e => exact .failed hcode
  | ok receipt =>
    unfold Creation.createdBy
    dsimp only
    cases hcontract : receipt.contract with
    | none => exact .barren hcode hcontract
    | some address => exact .created hcode hcontract

/-- Work that is begun makes its lookup. -/
theorem AsFar.begins (hrequest : w.request = r) (hstage : w.stage = .fresh)
    (hr : r.redeploy = false) (hheld : workshop.holds r.name = x.held)
    (hcanonical : r.key = .canonical → workshop.canonical r.name = x.canonical) :
    AsFar x r (Docket.goOn ⟨w, none, [], []⟩ workshop w.begin) := by
  subst hrequest
  have hbegin : w.begin = { w with stage := .lookingUp } := by
    unfold Work.begin
    rw [hstage]
    simp [hr]
  rw [hbegin]
  unfold Docket.goOn Work.task?
  rcases sought_cases hheld hcanonical with ⟨artifact, c, held, handle, h⟩ | ⟨e, h, answered⟩
  · dsimp only
    rw [h]
    exact .asks rfl rfl held handle
  · dsimp only
    rw [h]
    exact .told rfl rfl answered

/-- Work that is told what was found is settled, or makes its deployment. -/
theorem AsFar.lookedUp {answer : Except LookupError Contract} (hrequest : w.request = r)
    (hstage : w.stage = .lookingUp) (answered : LooksUp x r exchanges answer)
    (hheld : workshop.holds r.name = x.held) :
    AsFar x r (Docket.goOn ⟨w, some (.found answer), [r.lookUpCall], exchanges⟩ workshop
      (w.lookedUp answer)) := by
  subst hrequest
  rcases answered.settles with ⟨y, hsettled, resolves⟩ | ⟨hnone, artifact, held, lacks⟩
  · have hw : w.lookedUp answer = w.settle y := by
      unfold Work.lookedUp
      rw [hstage]
      dsimp only
      rw [hsettled]
    rw [hw]
    exact .settled rfl rfl nofun nofun resolves
  · have hw : w.lookedUp answer = { w with stage := .deploying } := by
      unfold Work.lookedUp
      rw [hstage]
      dsimp only
      rw [hnone]
    rw [hw]
    unfold Docket.goOn Work.task?
    rcases @planned_cases _ x w.request artifact workshop (hheld.trans held) with
      ⟨code, plan, h⟩ | ⟨e, h, deploys⟩
    · dsimp only
      rw [h]
      exact .sends rfl rfl held lacks plan
    · dsimp only
      rw [h]
      have hmade := AsFar.made (w := { w with stage := .deploying }) rfl rfl held lacks deploys
      rw [List.append_nil] at hmade
      exact hmade

/-- Work that is told what was deployed is settled, and sets the contract as deployed if it is
to. -/
theorem AsFar.deployed {answer : Except ErrorChain Contract} {before after : List Exchange}
    (hrequest : w.request = r) (hcurrent : w.superseded = false) (held : x.held = .ok artifact)
    (lacks : Lacks x r artifact before) (deploys : Deploys x r artifact after answer) :
    AsFar x r (Docket.deployed ⟨w, some (.made answer), [r.lookUpCall, r.deployCall],
      before ++ after⟩ answer) := by
  subst hrequest
  unfold Docket.deployed
  dsimp only
  rw [Work.adoption_of_current hcurrent]
  exact .settled rfl rfl nofun nofun (.deployed held lacks deploys)

/-- A turn leaves work on its course, as long as what is held of the artifact stays, and the
canonical instance stays until the work is begun. -/
theorem AsFar.turn (h : AsFar x r d) (turn : Turn x.account workshop d d')
    (hr : r.redeploy = false) (hcurrent : d.work.superseded = false)
    (hheld : workshop.holds r.name = x.held)
    (hcanonical : d.calls = [] → r.key = .canonical →
      workshop.canonical r.name = x.canonical) : AsFar x r d' := by
  cases turn with
  | stays request stage mark => exact h.congr request stage
  | begins stage =>
    cases h with
    | fresh request => exact .begins request stage hr hheld (hcanonical rfl)
    | asks _ stage' | told _ stage' | sends _ stage' | made _ stage' | settled _ stage' =>
      rw [stage'] at stage
      cases stage
  | lookedUp stage told =>
    cases h with
    | told request _ answered =>
      obtain rfl := Task.found.inj (Option.some.inj told)
      exact .lookedUp request stage answered hheld
    | fresh _ _ | asks _ _ => cases told
    | sends _ stage' | made _ stage' | settled _ stage' =>
      rw [stage'] at stage
      cases stage
  | deployed stage told =>
    cases h with
    | made request _ held lacks deploys =>
      obtain rfl := Task.made.inj (Option.some.inj told)
      exact .deployed request hcurrent held lacks deploys
    | fresh _ _ | sends _ _ => cases told
    | asks _ stage' | told _ stage' | settled _ stage' =>
      rw [stage'] at stage
      cases stage
  | code asks answer =>
    cases h with
    | asks request stage held handle =>
      obtain rfl := Task.code.inj (Option.some.inj asks)
      exact .told request stage (.code held handle answer)
    | fresh _ _ | told _ _ | sends _ _ | made _ _ => cases asks
    | settled _ _ noCode => exact absurd asks (noCode _)
  | receipt asks answer =>
    cases h with
    | sends request stage held lacks plan =>
      obtain rfl := Task.receipt.inj (Option.some.inj asks)
      exact .made request stage held lacks (.of_receipt plan answer)
    | fresh _ _ | asks _ _ | told _ _ | made _ _ => cases asks
    | settled _ _ _ noReceipt => exact absurd asks (noReceipt _)

end Deployment

end ContractHarness
