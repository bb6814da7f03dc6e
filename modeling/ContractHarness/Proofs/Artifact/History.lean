import ContractHarness.Proofs.Artifact.Index
import ContractHarness.Proofs.Artifact.Stages
import ContractHarness.Proofs.Deployment.Lookup
import ContractHarness.Rehearsal.Node

/-!
# Lookups after a history

What a store answers about a name depends on three things only: whether the artifact can be read,
which contract of that name was last set as deployed, and what the node reports of the code at its
address. `Answers` goes through the answers with these conditions. A history is any sequence of
operations of the store, between which others may change the files and the chain; it leaves behind
the contract that was last set for each name, because no other operation touches a canonical
instance.
-/

set_option autoImplicit false

namespace ContractHarness.Workshop

variable {σ : Type}

/-! ## What an answer depends on -/

/-- What the node reports of the code at an address. -/
def reports (node : Node σ) (world : Workshop σ) (address : Address) : Except ErrorChain Bytes :=
  ((node.codeAt address).run world.chain).result

/-- The artifact of a name can be read. -/
def Loads (world : Workshop σ) (name : ArtifactName) : Prop :=
  ∃ a, ((artifact name).run world).result = .ok a

/-- What `deployed` answers about a name for which a contract was last set, if one was set. -/
structure Answers (node : Node σ) (world : Workshop σ) (name : ArtifactName)
    (last : Option Contract) : Prop where
  /-- The error is known as that of a missing instance if there is no instance of the artifact. -/
  notDeployed : (∃ e, ((deployed node name).run world).result = .error e ∧
    e.isNotDeployed name = true) ↔ world.Loads name ∧ last = none
  /-- The error tells nothing if the artifact or the code cannot be had. -/
  opaqueError : (∃ e, ((deployed node name).run world).result = .error (.opaqueError e)) ↔
    ¬ world.Loads name ∨ ∃ c e, last = some c ∧ world.reports node c.address = .error e
  /-- The error names an address if the node reports that there is no code at it. -/
  noCode : ∀ address, ((deployed node name).run world).result = .error (.noCode name address) ↔
    world.Loads name ∧ ∃ c code, last = some c ∧ c.address = address ∧
      world.reports node c.address = .ok code ∧ code.isEmpty = true
  /-- Otherwise the contract that was last set is found, with the interface of the artifact. -/
  found : ∀ found, ((deployed node name).run world).result = .ok found ↔
    ∃ a c code, ((artifact name).run world).result = .ok a ∧ last = some c ∧
      world.reports node c.address = .ok code ∧ code.isEmpty = false ∧
      found = ⟨name, c.address, a.interface, c.transaction⟩

variable {node : Node σ} {world : Workshop σ} {name other : ArtifactName} {key : AddressKey}
  {address : Address}

/-- A lookup is answered with its handle and what the node reports. -/
theorem result_lookUp :
    (((registry node).lookUp name key).run world).result =
      match world.sought name key with
      | .error e => .error e
      | .ok c => c.confirmedBy (world.reports node c.address) := by
  rw [lookUp_eq, Action.run_bind, run_candidate]
  cases world.sought name key with
  | error e => rfl
  | ok c =>
    dsimp only
    rw [run_confirm]
    rfl

/-- The ways in which `deployed` can answer. -/
inductive Answered (node : Node σ) (world : Workshop σ) (name : ArtifactName) :
    Except LookupError Contract → Prop where
  | unreadable {e : ErrorChain} (held : world.holds name = .error e) :
    Answered node world name (.error (.opaqueError e))
  | missing {a : Artifact} (held : world.holds name = .ok a)
    (canonical : world.canonical name = none) :
    Answered node world name (.error (.notDeployed name))
  | unreported {a : Artifact} {c : Contract} {e : ErrorChain} (held : world.holds name = .ok a)
    (canonical : world.canonical name = some c)
    (reported : world.reports node c.address = .error e) :
    Answered node world name
      (.error (.opaqueError (e.context s!"Failed to get the code at {c.address.checksummed}")))
  | empty {a : Artifact} {c : Contract} {code : Bytes} (held : world.holds name = .ok a)
    (canonical : world.canonical name = some c)
    (reported : world.reports node c.address = .ok code) (isEmpty : code.isEmpty = true) :
    Answered node world name (.error (.noCode name c.address))
  | present {a : Artifact} {c : Contract} {code : Bytes} (held : world.holds name = .ok a)
    (canonical : world.canonical name = some c)
    (reported : world.reports node c.address = .ok code) (isEmpty : code.isEmpty = false) :
    Answered node world name (.ok ⟨name, c.address, a.interface, c.transaction⟩)

/-- In every world `deployed` answers in one of the ways, each with its condition. -/
theorem answered_deployed : Answered node world name ((deployed node name).run world).result := by
  show Answered node world name (((registry node).lookUp name .canonical).run world).result
  rw [result_lookUp, sought]
  cases hheld : world.holds name with
  | error e => exact .unreadable hheld
  | ok a =>
    dsimp only
    cases hcanonical : world.canonical name with
    | none => exact .missing hheld hcanonical
    | some c =>
      unfold Contract.confirmedBy
      dsimp only
      cases hreported : world.reports node c.address with
      | error e => exact .unreported hheld hcanonical hreported
      | ok code =>
        dsimp only
        cases hempty : code.isEmpty with
        | true => exact .empty hheld hcanonical hreported hempty
        | false => exact .present hheld hcanonical hreported hempty

/-- An artifact can be read exactly when the store holds it. -/
theorem loads_iff : world.Loads name ↔ ∃ a, world.holds name = .ok a := by
  unfold Loads
  rw [run_artifact]

/-- The node reports one code for the canonical instance. -/
theorem code_eq {c c' : Contract} {code code' : Bytes} (canonical : world.canonical name = some c)
    (reported : world.reports node c.address = .ok code)
    (canonical' : world.canonical name = some c')
    (reported' : world.reports node c'.address = .ok code') : code' = code := by
  obtain rfl := Option.some.inj (canonical.symm.trans canonical')
  exact Except.ok.inj (reported'.symm.trans reported)

namespace Answered

variable {answer : Except LookupError Contract}

/-- The answer is that nothing is deployed exactly when the artifact can be read and has no
canonical instance. -/
theorem notDeployed_iff (h : Answered node world name answer) :
    (∃ e, answer = .error e ∧ e.isNotDeployed name = true) ↔
      world.Loads name ∧ world.canonical name = none := by
  rw [loads_iff]
  cases h with
  | unreadable held => simp [held]
  | missing held canonical => simp [held, canonical]
  | unreported held canonical reported => simp [canonical]
  | empty held canonical reported isEmpty => simp [canonical]
  | present held canonical reported isEmpty => simp [canonical]

/-- The answer is any other error exactly when the artifact cannot be read or the node does not
report the code of the canonical instance. -/
theorem opaqueError_iff (h : Answered node world name answer) :
    (∃ e, answer = .error (.opaqueError e)) ↔ ¬ world.Loads name ∨
      ∃ c e, world.canonical name = some c ∧ world.reports node c.address = .error e := by
  rw [loads_iff]
  cases h with
  | unreadable held => simp [held]
  | missing held canonical => simp [held, canonical, LookupError.notDeployed]
  | unreported held canonical reported => simp [canonical, reported]
  | empty held canonical reported isEmpty =>
    simp [held, canonical, reported, LookupError.noCode]
  | present held canonical reported isEmpty => simp [held, canonical, reported]

/-- The answer is that there is no code exactly when the node reports none at the address of the
canonical instance. -/
theorem noCode_iff (h : Answered node world name answer) (address : Address) :
    answer = .error (.noCode name address) ↔ world.Loads name ∧
      ∃ c code, world.canonical name = some c ∧ c.address = address ∧
        world.reports node c.address = .ok code ∧ code.isEmpty = true := by
  rw [loads_iff]
  cases h with
  | unreadable held => simp [held, LookupError.noCode]
  | missing held canonical => simp [canonical, LookupError.notDeployed_ne_noCode]
  | unreported held canonical reported => simp [canonical, reported, LookupError.noCode]
  | @empty a c code held canonical reported isEmpty =>
    rw [Except.error.injEq, LookupError.noCode_inj]
    constructor
    · intro h
      exact ⟨⟨a, held⟩, c, code, canonical, h, reported, isEmpty⟩
    · rintro ⟨-, c', -, hc, h, -⟩
      rw [Option.some.inj (canonical.symm.trans hc)]
      exact h
  | present held canonical reported isEmpty =>
    refine iff_of_false nofun ?_
    rintro ⟨-, c', code', hc, -, hcode, hempty⟩
    rw [code_eq canonical reported hc hcode, isEmpty] at hempty
    cases hempty

/-- The answer is a handle exactly when the node reports code at the address of the canonical
instance, and then it is the handle at this address with its transaction and the interface of the
artifact. -/
theorem found_iff (h : Answered node world name answer) (found : Contract) :
    answer = .ok found ↔ ∃ a c code, world.holds name = .ok a ∧ world.canonical name = some c ∧
      world.reports node c.address = .ok code ∧ code.isEmpty = false ∧
      found = ⟨name, c.address, a.interface, c.transaction⟩ := by
  cases h with
  | unreadable held => simp [held]
  | missing held canonical => simp [canonical]
  | unreported held canonical reported => simp [canonical, reported]
  | empty held canonical reported isEmpty =>
    refine iff_of_false nofun ?_
    rintro ⟨a', c', code', -, hc, hcode, hempty, -⟩
    rw [code_eq canonical reported hc hcode, isEmpty] at hempty
    cases hempty
  | @present a c code held canonical reported isEmpty =>
    constructor
    · intro h
      exact ⟨a, c, code, held, canonical, reported, isEmpty, (Except.ok.inj h).symm⟩
    · rintro ⟨a', c', code', ha, hc, -, -, rfl⟩
      obtain rfl := Except.ok.inj (held.symm.trans ha)
      obtain rfl := Option.some.inj (canonical.symm.trans hc)
      rfl

end Answered

/-- In every world `deployed` answers by the canonical instance of the moment. -/
theorem answers_canonical : Answers node world name (world.canonical name) := by
  have answered := @answered_deployed _ node world name
  constructor
  case notDeployed => exact answered.notDeployed_iff
  case opaqueError => exact answered.opaqueError_iff
  case noCode => exact answered.noCode_iff
  case found =>
    intro found
    rw [run_artifact]
    exact answered.found_iff found

/-! ## What operations leave as it is -/

/-- What is done to the chain changes no canonical instance. -/
theorem canonical_onChain {ε α : Type} (x : Action σ ε α) :
    ((onChain x).run world).world.canonical name = world.canonical name := rfl

/-- A lookup changes no canonical instance. -/
theorem canonical_lookUp (key : AddressKey) :
    (((registry node).lookUp name key).run world).world.canonical other =
      world.canonical other := by
  rw [lookUp_eq, Action.run_bind, run_candidate]
  cases world.sought name key with
  | error e => exact canonical_asked
  | ok c =>
    dsimp only
    rw [run_confirm, canonical_onChain]
    exact canonical_asked

/-- A deployment changes no canonical instance by itself. -/
theorem canonical_deploy (args : List AbiValue) :
    (((registry node).deploy name args).run world).world.canonical other =
      world.canonical other := by
  show ((deploy node name args).run world).world.canonical other = world.canonical other
  cases hplanned : world.planned name args with
  | error e =>
    rw [run_deploy_of_error hplanned]
    exact canonical_asked
  | ok c =>
    rw [(run_deploy_of_planned hplanned).2]
    exact canonical_asked

/-- What is said of an address is never that an artifact has no canonical instance. -/
theorem isNotDeployed_instanceAt {e : LookupError}
    (h : ((instanceAt node name address).run world).result = .error e) :
    e.isNotDeployed other = false := by
  have hanswer : (((registry node).lookUp name (.at address)).run world).result = .error e := h
  rw [result_lookUp, sought] at hanswer
  cases hheld : world.holds name with
  | error cause =>
    rw [hheld] at hanswer
    obtain rfl := Except.error.inj hanswer
    exact LookupError.isNotDeployed_opaqueError cause
  | ok a =>
    rw [hheld] at hanswer
    unfold Contract.confirmedBy at hanswer
    dsimp only at hanswer
    split at hanswer
    · obtain rfl := Except.error.inj hanswer
      exact LookupError.isNotDeployed_opaqueError _
    · split at hanswer
      · obtain rfl := Except.error.inj hanswer
        exact LookupError.isNotDeployed_noCode _ _ _
      · cases hanswer

/-! ## Histories -/

/-- What happens to a store: one of its operations, or a change of the files and of the chain by
others. -/
inductive Event (σ : Type) where
  | setAsDeployed (contract : Contract)
  | deploy (name : ArtifactName) (args : List AbiValue)
  | deployed (name : ArtifactName)
  | instanceAt (name : ArtifactName) (address : Address)
  | elsewhere (files : Entry) (chain : σ)

/-- The workshop after an event. -/
def after (node : Node σ) (world : Workshop σ) : Event σ → Workshop σ
  | .setAsDeployed contract => (((registry node).setAsDeployed contract).run world).world
  | .deploy name args => (((registry node).deploy name args).run world).world
  | .deployed name => (((registry node).deployed name).run world).world
  | .instanceAt name address => (((registry node).instanceAt name address).run world).world
  | .elsewhere files chain => { world with files, chain }

/-- The workshop after a history, from the first event to the last. -/
def afterAll (node : Node σ) (world : Workshop σ) (events : List (Event σ)) : Workshop σ :=
  events.foldl (after node) world

/-- The contract that an event sets as deployed under a name. -/
def Event.sets? (name : ArtifactName) : Event σ → Option Contract
  | .setAsDeployed contract => if contract.name = name then some contract else none
  | _ => none

/-- The contract that a history has set as deployed under a name, the last one if there are more. -/
def lastSet? (name : ArtifactName) (events : List (Event σ)) : Option Contract :=
  events.reverse.findSome? (Event.sets? name)

variable {event : Event σ} {events : List (Event σ)}

/-- After an event the canonical instance of a name is the one that the event set, or the one from
before. -/
theorem canonical_after :
    (world.after node event).canonical name = (event.sets? name).or (world.canonical name) := by
  cases event with
  | setAsDeployed contract =>
    refine (canonical_setAsDeployed contract).trans ?_
    unfold Event.sets?
    dsimp only
    split <;> rfl
  | deploy other args => exact canonical_deploy args
  | deployed other => exact canonical_lookUp .canonical
  | instanceAt other address => exact canonical_lookUp (.at address)
  | elsewhere files chain => rfl

/-- An event at the start of a history counts only when nothing after it sets the name. -/
theorem lastSet?_cons :
    lastSet? name (event :: events) = (lastSet? name events).or (event.sets? name) := by
  unfold lastSet?
  rw [List.reverse_cons, List.findSome?_append]
  congr 1
  cases h : event.sets? name <;> simp [h]

/-- The canonical instance is the one that was last set, or the one from before. -/
theorem canonical_afterAll :
    (world.afterAll node events).canonical name =
      (lastSet? name events).or (world.canonical name) := by
  induction events generalizing world with
  | nil => rfl
  | cons event events ih =>
    have hrest := @ih (world.after node event)
    rw [canonical_after, ← Option.or_assoc, ← lastSet?_cons] at hrest
    exact hrest

/-- No contract is set as deployed in a store that was just opened. -/
theorem canonical_of_create {files : Entry} {root : String} {store : ArtifactStore}
    (opened : (ArtifactStore.create files root).1 = .ok store) (chain : σ) :
    canonical ⟨files, store, chain⟩ name = none := by
  unfold ArtifactStore.create at opened
  dsimp only at opened
  split at opened
  · split at opened
    · rw [← Except.ok.inj opened]
      rfl
    · cases opened
  · cases opened

/-- How a store serves its callers, when these are the contracts that were last set. -/
structure Serves (node : Node σ) (world : Workshop σ) (last : ArtifactName → Option Contract) :
    Prop where
  answers : ∀ name, Answers node world name (last name)
  /-- Nothing but to set a contract of the name changes a canonical instance. -/
  keeps : ∀ event name, (∀ c, event = .setAsDeployed c → c.name ≠ name) →
    (world.after node event).canonical name = world.canonical name
  sets : ∀ c, (world.after node (.setAsDeployed c)).canonical c.name = some c
  /-- No error about an address is known as that of a missing instance, of whatever artifact. -/
  instanceAt : ∀ name address e other,
    ((instanceAt node name address).run world).result = .error e → e.isNotDeployed other = false

/-- After every history of a store that was opened on some files, what it answers is determined by
the contracts that were last set in the history. -/
theorem serves_of_history {files : Entry} {root : String} {store : ArtifactStore}
    (opened : (ArtifactStore.create files root).1 = .ok store) (node : Node σ) (chain : σ)
    (events : List (Event σ)) :
    Serves node (afterAll node ⟨files, store, chain⟩ events) fun name => lastSet? name events := by
  constructor
  case answers =>
    intro name
    have hlast : (afterAll node ⟨files, store, chain⟩ events).canonical name =
        lastSet? name events := by
      rw [canonical_afterAll, canonical_of_create opened, Option.or_none]
    rw [← hlast]
    exact answers_canonical
  case keeps =>
    intro event name hother
    have hnone : event.sets? name = none := by
      unfold Event.sets?
      split
      · next c => exact if_neg (hother c rfl)
      · rfl
    rw [canonical_after, hnone, Option.none_or]
  case sets =>
    intro c
    rw [canonical_after]
    simp [Event.sets?]
  case instanceAt =>
    intro name address e other h
    exact isNotDeployed_instanceAt h

/-! ## The history of a token -/

section Tokens

open ArtifactStore (tokens tokenFile)

/-- The handle of a token at an address. -/
def tokenAt (interface : Interface) (address : Nat) : Contract :=
  ⟨"Token", Address.ofNat address, interface, some 3⟩

/-- A chain on which there is code at one address. -/
def tokenChain : Rehearsal.Chain where
  code := (∅ : OrderedMap Address Bytes).insert (Address.ofNat 7) [1]

/-- A token is set as deployed twice, at an address without code and at one with code. -/
def tokenEvents : List (Event Rehearsal.Chain) :=
  [.setAsDeployed (tokenAt .empty 5), .setAsDeployed (tokenAt .empty 7)]

/-- The store that is opened on the tokens. -/
def tokenStore : ArtifactStore where
  root := "."
  paths := (ArtifactIndex.ofPaths tokens.artifacts).paths

/-- The token can be read, whatever was set as deployed. -/
theorem loads_tokens (canonical : OrderedMap ArtifactName Contract) :
    ∃ a, ({ tokenStore with canonical } : ArtifactStore).holds tokens "Token" = .ok a := by
  have hread : (Artifact.read? tokenFile).isSome = true := by decide +kernel
  obtain ⟨a, ha⟩ := Option.isSome_iff_exists.mp hread
  have hpath : tokenStore.paths.get? "Token" = some [FileName.ofText "Token.json"] :=
    ArtifactStore.get?_tokens (ArtifactStore.indexes_ofPaths ArtifactStore.proper_tokens)
  have hfind : tokens.find? "." = .ok tokens := ArtifactStore.find?_here _
  have hopen : ({ tokenStore with canonical } : ArtifactStore).openFile tokens
      [FileName.ofText "Token.json"] = .ok (.file tokenFile) := by
    unfold ArtifactStore.openFile tokenStore
    rw [hfind]
    rfl
  have hloaded : tokenStore.loaded.get? "Token" = none := rfl
  refine ⟨a, ?_⟩
  unfold ArtifactStore.holds ArtifactStore.find ArtifactStore.readFile
  simp only [hloaded, hpath, hopen, ha]

/-- A store that was opened just now has no token deployed, and after the events it answers with the
one at the address with code. -/
theorem serves_tokens : (ArtifactStore.create tokens ".").1 = .ok tokenStore ∧
    (∃ e, ((deployed Rehearsal.node "Token").run ⟨tokens, tokenStore, tokenChain⟩).result =
        .error e ∧ e.isNotDeployed "Token" = true) ∧
      ∃ interface, ((deployed Rehearsal.node "Token").run
        (afterAll Rehearsal.node ⟨tokens, tokenStore, tokenChain⟩ tokenEvents)).result =
          .ok (tokenAt interface 7) := by
  have hfind : tokens.find? "." = .ok tokens := ArtifactStore.find?_here _
  have opened : (ArtifactStore.create tokens ".").1 = .ok tokenStore :=
    congrArg Prod.fst (ArtifactStore.create_of_folder hfind rfl)
  have hbefore := serves_of_history opened Rehearsal.node tokenChain []
  have hafter := serves_of_history opened Rehearsal.node tokenChain tokenEvents
  refine ⟨opened, ?_, ?_⟩
  · have hloads : Loads ⟨tokens, tokenStore, tokenChain⟩ "Token" := loads_iff.mpr (loads_tokens ∅)
    exact (hbefore.answers "Token").notDeployed.mpr ⟨hloads, rfl⟩
  · obtain ⟨a, ha⟩ := loads_tokens ((∅ : OrderedMap ArtifactName Contract).insert "Token"
      (tokenAt .empty 5) |>.insert "Token" (tokenAt .empty 7))
    refine ⟨a.interface, ((hafter.answers "Token").found _).mpr
      ⟨a, tokenAt .empty 7, [1], ?_, rfl, rfl, rfl, rfl⟩⟩
    rw [run_artifact]
    exact ha

end Tokens

end ContractHarness.Workshop
