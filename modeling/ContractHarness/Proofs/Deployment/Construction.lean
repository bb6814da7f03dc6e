import ContractHarness.Proofs.Deployment.Canonical
import ContractHarness.Proofs.Deployment.Docket
import ContractHarness.Proofs.Event.Transaction
import ContractHarness.Rehearsal.Decoder
import ContractHarness.Rehearsal.Node

/-!
# The transactions that created contracts

A lookup knows nothing about the transaction that created a contract; it has the hash from the
canonical instance that it looked up. So a handle of a canonical instance has the right hash as long
as all canonical instances had it before, which were set by the same caches. Under an address a
handle has no hash, unless the contract was deployed for the request, and such handles never become
canonical instances.

`Sound` is the invariant: what is canonical, or on its way to become so or to be answered under no
address, was created by the transaction that its handle has, as the ledger tells.
-/

set_option autoImplicit false

namespace ContractHarness

variable {σ : Type}

namespace Deployment

open Rehearsal (RegistryCall WorkKey)

/-- The contract that a task has come upon. -/
def Task.offer? : Task → Option Contract
  | .code c | .found (.ok c) | .made (.ok c) => some c
  | .found (.error _) | .receipt _ | .made (.error _) => none

/-- A lookup that has begun has come upon the handle that it seeks. -/
theorem Task.offer?_ofSought (x : Except LookupError Contract) :
    (Task.ofSought x).offer? = x.toOption := by
  cases x <;> rfl

/-- A deployment that has begun has come upon no contract yet. -/
theorem Task.offer?_ofPlanned (x : Except ErrorChain Creation) :
    (Task.ofPlanned x).offer? = none := by
  cases x <;> rfl

/-- The contract may be answered under no address, or become a canonical instance. -/
structure Docket.Offers (d : Docket) (c : Contract) : Prop where
  key : d.work.request.key = .canonical
  offer : d.task.bind Task.offer? = some c ∨ d.work.stage = .settled (.ok c)

variable {d d' : Docket} {w : Work} {c : Contract} {workshop : Workshop σ} {account : Address}

/-- Work that goes on offers what is looked up for it, what it is settled with, or what it offered
before. -/
theorem Docket.offers_goOn (hrequest : w.request = d.work.request)
    (h : (d.goOn workshop w).Offers c) :
    workshop.sought w.request.name .canonical = .ok c ∨ w.stage = .settled (.ok c) ∨
      d.Offers c := by
  obtain ⟨hkey, htask | hstage⟩ := h
  · dsimp only [Docket.goOn] at hkey htask
    unfold Work.task? at htask
    split at htask
    · left
      rw [hkey] at htask
      dsimp only [Option.or, Option.bind] at htask
      rw [Task.offer?_ofSought] at htask
      cases hsought : workshop.sought w.request.name .canonical with
      | error e => simp [hsought, Except.toOption] at htask
      | ok found => simpa [hsought, Except.toOption] using htask
    · dsimp only [Option.or, Option.bind] at htask
      rw [Task.offer?_ofPlanned] at htask
      cases htask
    · exact .inr (.inr ⟨hrequest ▸ hkey, .inl htask⟩)
    · exact .inr (.inr ⟨hrequest ▸ hkey, .inl htask⟩)
  · exact .inr (.inl hstage)

/-- What a docket offers after a turn was offered before, was looked up, or was just created. -/
theorem Turn.offers (h : Turn account workshop d d') (hoffers : d'.Offers c) :
    d.Offers c ∨ workshop.sought d.work.request.name .canonical = .ok c ∨
      ∃ creation answer, creation.createdBy answer = .ok c ∧
        .execution (Creation.transaction creation account) answer ∈ d'.exchanges := by
  cases h with
  | @stays w request stage mark =>
    obtain ⟨hkey, hoffer⟩ := hoffers
    dsimp only at hkey hoffer
    rw [stage] at hoffer
    exact .inl ⟨request ▸ hkey, hoffer⟩
  | begins stage =>
    rcases Docket.offers_goOn (request_begin _) hoffers with h | h | h
    · rw [request_begin] at h
      exact .inr (.inl h)
    · unfold Work.begin at h
      rw [stage] at h
      dsimp only at h
      split at h <;> cases h
    · exact .inl h
  | @lookedUp answer stage told =>
    rcases Docket.offers_goOn (request_lookedUp _ _) hoffers with h | h | h
    · rw [request_lookedUp] at h
      exact .inr (.inl h)
    · -- the contract that the work is settled with was found for it
      obtain rfl := eq_of_lookedUp stage h
      have hkey := hoffers.key
      dsimp only [Docket.goOn] at hkey
      rw [request_lookedUp] at hkey
      exact .inl ⟨hkey, .inl (by rw [told]; rfl)⟩
    · exact .inl h
  | @deployed answer stage told =>
    obtain ⟨hkey, hoffer | hoffer⟩ := hoffers
    · exact .inl ⟨hkey, .inl hoffer⟩
    · obtain rfl := ok_of_outcome (Stage.settled.inj hoffer)
      exact .inl ⟨hkey, .inl (by rw [told]; rfl)⟩
  | @code found asks answer =>
    obtain ⟨hkey, hoffer | hoffer⟩ := hoffers
    · left
      refine ⟨hkey, .inl ?_⟩
      rw [asks]
      dsimp only [Docket.answered, Option.bind] at hoffer ⊢
      unfold Contract.confirmedBy at hoffer
      split at hoffer
      · cases hoffer
      · split at hoffer
        · cases hoffer
        · exact hoffer
    · exact .inl ⟨hkey, .inr hoffer⟩
  | @receipt creation asks answer =>
    obtain ⟨hkey, hoffer | hoffer⟩ := hoffers
    · right
      right
      refine ⟨creation, answer, ?_, List.mem_append_right _ List.mem_cons_self⟩
      dsimp only [Docket.answered, Option.bind] at hoffer
      cases hmade : creation.createdBy answer with
      | error e => simp [hmade, Task.offer?] at hoffer
      | ok made => simpa [hmade, Task.offer?] using hoffer
    · exact .inl ⟨hkey, .inr hoffer⟩

namespace Site

variable {node : Node σ} {thresholds : Report.Thresholds}
variable {s s' u : Site σ} {e : Event σ} {k i id : Nat} {key : WorkKey} {name : ArtifactName}

/-- The contract was created by the transaction that its handle has. -/
def Created (s : Site σ) (c : Contract) : Prop :=
  ∃ key t receipt, (key, .execution t (.ok receipt)) ∈ s.ledger ∧ t.recipient = none ∧
    receipt.contract = some c.address ∧ c.transaction = some receipt.transaction

/-- The ledger is only added to. -/
theorem Step.ledger (step : Step node thresholds s e s') :
    ∃ more, s'.ledger = s.ledger ++ more := by
  cases step with
  | move made told =>
    refine ⟨[], ?_⟩
    unfold moved
    split
    · exact (List.append_nil _).symm
    · exact ledger_serve.trans (List.append_nil _).symm
  | code waits => exact ⟨_, rfl⟩
  | receipt waits => exact ⟨_, rfl⟩
  | elsewhere held canonical => exact ⟨[], (List.append_nil _).symm⟩

/-- A contract that was created stays so. -/
theorem Step.created (step : Step node thresholds s e s') (h : Created s c) : Created s' c := by
  obtain ⟨key, t, receipt, hmem, h⟩ := h
  obtain ⟨more, hledger⟩ := step.ledger
  refine ⟨key, t, receipt, ?_, h⟩
  rw [hledger]
  exact List.mem_append_left more hmem

/-- What the node was asked for a piece of work is in the ledger. -/
theorem mem_ledger_of_exchangesOf {exchange : Exchange} (h : exchange ∈ s.exchangesOf key) :
    (key, exchange) ∈ s.ledger := by
  unfold exchangesOf at h
  rw [List.mem_map] at h
  obtain ⟨⟨other, exchange'⟩, hmem, rfl⟩ := h
  rw [List.mem_filter] at hmem
  obtain ⟨hmem, hkey⟩ := hmem
  rw [← of_decide_eq_true hkey]
  exact hmem

/-- A contract that a receipt is about was created by its transaction. -/
theorem created_of_createdBy {creation : Creation} {answer : Except ErrorChain Receipt}
    (hmem : .execution (creation.transaction account) answer ∈ s.exchangesOf key)
    (h : creation.createdBy answer = .ok c) : Created s c := by
  unfold Creation.createdBy at h
  split at h
  · cases h
  · next receipt =>
    split at h
    · cases h
    · next address haddress =>
      obtain rfl := Except.ok.inj h
      exact ⟨key, _, receipt, mem_ledger_of_exchangesOf hmem, rfl, haddress, rfl⟩

/-- Every contract that is canonical or may become so or be answered under no address was created by
the transaction that its handle has. -/
structure Sound (s : Site σ) : Prop where
  canonical : ∀ name c, s.workshop.canonical name = some c → Created s c
  offered : ∀ key d c, s.docket? key = some d → d.Offers c → Created s c

/-- A handle that is looked up has the hash of the canonical instance. -/
theorem created_of_sought (h : Sound s) (hsought : s.workshop.sought name .canonical = .ok c) :
    Created s c := by
  unfold Workshop.sought at hsought
  split at hsought
  · cases hsought
  · dsimp only at hsought
    split at hsought
    · cases hsought
    · next known hknown =>
      obtain rfl := Except.ok.inj hsought
      exact h.canonical name known hknown

/-- A step keeps what is canonical and what is offered sound. -/
theorem Step.sound (step : Step node thresholds s e s') (htidy : Tidy s) (h : Sound s) :
    Sound s' := by
  constructor
  · intro name c hc
    rcases step.canonical with ⟨hsame, -⟩ | ⟨k, id, w, made, -, hw, -, hadopts, htask, -, -, hset⟩
    · rw [hsame] at hc
      exact step.created (h.canonical name c hc)
    · rw [hset] at hc
      split at hc
      · obtain rfl := Option.some.inj hc
        have hd : s.docket? (k, id) = some ⟨w, _, _, _⟩ :=
          docket?_eq_some_iff.mpr ⟨hw, htask, rfl, rfl⟩
        exact step.created (h.offered _ _ _ hd ⟨(adopts_iff.mp hadopts).1, .inl rfl⟩)
      · exact step.created (h.canonical name c hc)
  · intro key d' c hd' hoffers
    cases hd : s.docket? key with
    | none =>
      obtain ⟨i, r, -, -, -, -, hwork, htask, -⟩ := step.opened htidy hd hd'
      obtain ⟨-, hoffer | hoffer⟩ := hoffers
      · rw [htask] at hoffer
        cases hoffer
      · rw [hwork] at hoffer
        cases hoffer
    | some d =>
      obtain ⟨d'', hd'', hturn⟩ := step.docket hd
      obtain rfl := Option.some.inj (hd'.symm.trans hd'')
      rcases hturn.offers hoffers with h' | h' | ⟨creation, answer, hmade, hmem⟩
      · exact step.created (h.offered key d c hd h')
      · exact step.created (created_of_sought h h')
      · obtain ⟨-, -, -, hexchanges⟩ := docket?_eq_some_iff.mp hd'
        rw [← hexchanges] at hmem
        exact created_of_createdBy hmem hmade

/-- Where only the caches set canonical instances, all that is offered is sound. -/
theorem Reaches.sound (hstart : ∀ name, workshop.canonical name = none)
    (h : Reaches node thresholds (start workshop) s) : Sound s := by
  have hsound : Tidy s ∧ Sound s := by
    apply h.keeps (P := fun s => Tidy s ∧ Sound s)
    · rintro s e s' step ⟨htidy, hsound⟩
      exact ⟨step.tidy htidy, step.sound htidy hsound⟩
    · refine ⟨fun _ _ => ⟨rfl, rfl⟩, ?_, ?_⟩
      · intro name c hc
        have hnone : (start workshop).workshop.canonical name = none := hstart name
        rw [hnone] at hc
        cases hc
      · intro key d c hd
        cases hd
  exact hsound.2

/-- A contract that a caller under no address is answered with was created by the transaction that
its handle has. -/
theorem created_of_answered (hstart : ∀ name, workshop.canonical name = none)
    (before : Reaches node thresholds (start workshop) u) (after : Reaches node thresholds u s)
    {p : Progress} (hasks : (u.state k).callers[i]? = some p)
    (hslot : p.slot? = some (name, .canonical))
    (hanswered : (s.state k).callers[i]? = some (.answered id (.ok c))) : Created s c := by
  obtain ⟨past, run⟩ := before.run k
  obtain ⟨later, run, hu⟩ := after.extends run
  -- the work that the caller was answered with is on the key that it asked for
  obtain ⟨w, hw, hwslot⟩ := run.own_key hu hasks hslot hanswered rfl
  have houtcome := run.served.answered i id _ hanswered
  obtain ⟨w', hw', hstage⟩ := DeploymentCache.outcome?_eq_some_iff.mp houtcome
  obtain rfl := Option.some.inj (hw.symm.trans hw')
  have hd : s.docket? (k, id) = some ⟨w, _, _, _⟩ :=
    docket?_eq_some_iff.mpr ⟨hw, rfl, rfl, rfl⟩
  have hkey : w.request.key = .canonical := congrArg Prod.snd hwslot
  exact ((before.trans after).sound hstart).offered _ _ c hd ⟨hkey, .inr hstage⟩

/-- In every run of any number of caches over one store, in which no canonical instance was set
but by them, a caller that asked under no address and is answered with a contract has the hash of
the transaction that created it. No assertion about the events of that transaction is told that it
is unknown. -/
theorem constructed_of_reaches (hstart : ∀ name, workshop.canonical name = none)
    (before : Reaches node thresholds (start workshop) u) (after : Reaches node thresholds u s)
    {p : Progress} (hasks : (u.state k).callers[i]? = some p)
    (hslot : p.slot? = some (name, .canonical))
    (hanswered : (s.state k).callers[i]? = some (.answered id (.ok c))) :
    Created s c ∧ ∃ hash, c.transaction = some hash ∧
      ∀ (τ : Type) (node : Node τ) (decoder : Decoder) (event : String)
          (expected : Option EventArgs),
        expectEventInConstruction node decoder c event expected =
            expectEventInTransaction node decoder c.interface hash event expected ∧
          expectNoEventInConstruction node decoder c event expected =
            expectNoEventInTransaction node decoder c.interface hash event expected ∧
          ∀ world e, ((expectEventInConstruction node decoder c event expected).run world).result =
                .error (.error e) ∨
              ((expectNoEventInConstruction node decoder c event expected).run world).result =
                .error (.error e) →
            ¬e.TellsUnknownConstruction := by
  have hcreated := created_of_answered hstart before after hasks hslot hanswered
  obtain ⟨hash, htransaction⟩ : ∃ hash, c.transaction = some hash := by
    obtain ⟨-, -, receipt, -, -, -, htransaction⟩ := hcreated
    exact ⟨_, htransaction⟩
  exact ⟨hcreated, hash, htransaction, fun τ node =>
    expectInConstruction_of_known htransaction node⟩

/-! ## A token that is found again -/

section Token

open Rehearsal (Chain)

/-- A store that has read the artifact of a token. -/
def tokenWorkshop : Workshop Chain where
  files := .folder []
  store := { root := "", paths := ∅, loaded := OrderedMap.insert ∅ "Token" ⟨.empty, [0]⟩ }
  chain := {}

/-- A new token is asked for. -/
def tokenAnew : DeploymentRequest := { name := "Token", key := .canonical, redeploy := true }

/-- The first cache has begun to deploy a token. -/
def tokenBegun : Site Chain where
  workshop := tokenWorkshop
  desks
    | 0 => {
        cache := {
          works := [{ request := tokenAnew, stage := .deploying }]
          entries := OrderedMap.insert ∅ ("Token", .canonical) 0 }
        callers := [.holding 0]
        record := [(0, .deploy "Token" [])] }
    | _ => {}
  tasks := OrderedMap.insert ∅ (0, 0) (.receipt ⟨"Token", .empty, [0]⟩)

/-- The site in which a token is being deployed is reached from the start. -/
theorem reaches_tokenBegun : Reaches Rehearsal.node .default (start tokenWorkshop) tokenBegun := by
  have run : Reaches Rehearsal.node .default (start tokenWorkshop) _ := .refl _
  have run := run.step (@Step.move _ _ _ _ 0 _ _ (.come _ tokenAnew false) trivial)
  have run := run.step
    (@Step.move _ _ _ _ 0 _ _ (@Deployment.Step.obtain _ _ _ _ 0 tokenAnew rfl) trivial)
  have run := run.step (@Step.move _ _ _ _ 0 _ _
    (@Deployment.Step.begin _ _ _ _ 0 { request := tokenAnew } rfl rfl) trivial)
  refine run.congr rfl ?_ rfl rfl
  intro k
  cases k <;> rfl

/-- A token is deployed through one cache, and another one is asked for it. -/
theorem token_run : ∃ u s c, Reaches Rehearsal.node .default (start tokenWorkshop) u ∧
    Reaches Rehearsal.node .default u s ∧
    (u.state 1).callers[0]? = some (.obtaining { name := "Token", key := .canonical }) ∧
    (s.state 1).callers[0]? = some (.answered 0 (.ok c)) := by
  let r : DeploymentRequest := { name := "Token", key := .canonical }
  let c : Contract := ⟨"Token", Address.ofNat 1, .empty, some (BitVec.ofNat 256 1)⟩
  have run := reaches_tokenBegun
  have run := run.step (@Step.receipt _ _ _ _ (0, 0) ⟨"Token", .empty, [0]⟩ rfl)
  have run := run.step (@Step.move _ _ _ _ 0 _ _
    (@Deployment.Step.deployed _ _ _ _ 0 { request := tokenAnew, stage := .deploying } (.ok c)
      rfl rfl)
    rfl)
  have run := run.step (@Step.move _ _ _ _ 1 _ _ (.come _ r false) trivial)
  have later := run.here
  have later := later.step
    (@Step.move _ _ _ _ 1 _ _ (@Deployment.Step.obtain _ _ _ _ 0 r rfl) trivial)
  have later := later.step (@Step.move _ _ _ _ 1 _ _
    (@Deployment.Step.begin _ _ _ _ 0 { request := r } rfl rfl) trivial)
  have later := later.step (@Step.code _ _ _ _ (1, 0) c rfl)
  have later := later.step (@Step.move _ _ _ _ 1 _ _
    (@Deployment.Step.lookedUp _ _ _ _ 0 { request := r, stage := .lookingUp } (.ok c) rfl rfl) rfl)
  have later := later.step
    (@Step.move _ _ _ _ 1 _ _ (@Deployment.Step.receive _ _ _ _ 0 0 (.ok c) rfl rfl) trivial)
  exact ⟨_, _, c, run, later, rfl, rfl⟩

/-- The handle that is found has the hash of the transaction that the other cache had sent. -/
theorem constructed_of_token_run : ∃ (s : Site Chain) (c : Contract) (hash : Hash),
    (s.state 1).callers[0]? = some (.answered 0 (.ok c)) ∧ Created s c ∧
      c.transaction = some hash ∧
      expectEventInConstruction Rehearsal.node Rehearsal.decoder c "Minted" none =
        expectEventInTransaction Rehearsal.node Rehearsal.decoder c.interface hash "Minted"
          none := by
  obtain ⟨u, s, c, before, after, hasks, hanswered⟩ := token_run
  obtain ⟨hcreated, hash, htransaction, hevents⟩ :=
    constructed_of_reaches (fun _ => rfl) before after hasks rfl hanswered
  exact ⟨s, c, hash, hanswered, hcreated, htransaction, (hevents Chain Rehearsal.node _ _ _).1⟩

end Token

end Site

end Deployment

end ContractHarness
