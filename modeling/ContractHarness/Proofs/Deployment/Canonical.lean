import ContractHarness.Proofs.Deployment.Record

/-!
# The canonical instance

A cache and the registry behind it agree: when the entry of an artifact's canonical instance is
settled with a contract, that contract is the canonical instance in the registry. The contract of an
entry was either looked up or deployed. A contract that was looked up stays the canonical instance,
because only work that is not superseded sets another one, and there is no other such work on the
key. A contract that was deployed is set in the move in which its work is settled.

What is asked of the registry is stated by `SetsCanonical`, `RegistryLaw` and `DeploysNamed`, and
only for this agreement. A lookup may be answered with the canonical instance of any moment between
the call and the answer.
-/

set_option autoImplicit false

namespace ContractHarness.Deployment

variable {σ : Type} (set : Contract → Action σ ErrorChain Unit)
  (canonical : σ → ArtifactName → Option Contract)

/-- Setting a contract as deployed makes it the canonical instance of its artifact, unless it fails,
and is about no other artifact. -/
structure SetsCanonical : Prop where
  own : ∀ contract world, ((set contract).run world).result = .ok () →
    canonical ((set contract).run world).world contract.name = some contract
  other : ∀ contract world name, name ≠ contract.name →
    canonical ((set contract).run world).world name = canonical world name

/-- How a registry may move. A canonical instance is found only if it was the canonical instance at
some moment since it was asked for, and the canonical instances do not change by themselves. -/
def RegistryLaw : List (State σ) → Move σ → Prop
  | trace, .lookedUp id (.ok contract) =>
    ∃ u ∈ trace, ∃ w, u.cache.work? id = some w ∧ w.stage = .lookingUp ∧
      (w.request.key = .canonical → canonical u.world w.request.name = some contract)
  | s :: _, .elsewhere world => ∀ name, canonical world name = canonical s.world name
  | _, _ => True

/-- A deployed contract is an instance of the artifact that it was asked for. -/
def DeploysNamed : List (State σ) → Move σ → Prop
  | s :: _, .deployed id (.ok contract) =>
    ∀ w, s.cache.work? id = some w → contract.name = w.request.name
  | _, _ => True

/-- A contract of work that is current is the canonical instance, and so it stays while work is
looking for it. -/
def Agrees (s : State σ) (past : List (State σ)) : Prop :=
  ∀ id w, s.cache.work? id = some w → w.superseded = false → w.request.key = .canonical →
    (w.stage = .lookingUp → ∀ u ∈ s :: past, ∀ v, u.cache.work? id = some v →
      v.stage = .lookingUp → canonical u.world w.request.name = canonical s.world w.request.name) ∧
    ∀ contract, w.stage = .settled (.ok contract) →
      canonical s.world w.request.name = some contract

variable {set canonical} {thresholds : Report.Thresholds} {law : List (State σ) → Move σ → Prop}
variable {s s' u : State σ} {past : List (State σ)} {m : Move σ} {id j : Nat} {v w w' : Work}
  {contract : Contract} {answer : Except ErrorChain Contract}

/-- Work that was begun is never fresh again. -/
theorem Evolves.begun (h : Evolves set s id m w w') (hw : w.stage ≠ .fresh) :
    w'.stage ≠ .fresh := by
  cases h with
  | stays _ stage => rw [stage]; exact hw
  | begins stage => exact absurd stage hw
  | lookedUp answer stage =>
    unfold Work.lookedUp
    rw [stage]
    dsimp only
    split <;> simp [Work.settle]
  | deployed answer stage => simp [Work.settle]

/-- Work that was not begun has not been looking for a contract before. -/
theorem Run.not_begun (run : Run set thresholds law (s :: past)) (hw : s.cache.work? id = some w)
    (hstage : w.stage = .fresh) (hu : u ∈ s :: past) (hv : u.cache.work? id = some v) :
    v.stage = .fresh := by
  apply Classical.byContradiction
  intro hne
  obtain ⟨w', hw', hstage'⟩ := run.keeps
    (P := fun s => ∃ w, s.cache.work? id = some w ∧ w.stage ≠ .fresh)
    (by
      rintro s m s' step ⟨w, hw, hstage⟩
      obtain ⟨w', hw', hevolves⟩ := step.evolves hw
      exact ⟨w', hw', hevolves.begun hstage⟩)
    hu ⟨v, hv, hne⟩
  rw [hw, Option.some.injEq] at hw'
  exact hstage' (hw' ▸ hstage)

/-- A key has one piece of work that is current. -/
theorem current_unique (hc : s.cache.Coherent) (hw : s.cache.work? id = some w)
    (hv : s.cache.work? j = some v) (hslot : v.request.slot = w.request.slot)
    (hwcurrent : w.superseded = false) (hvcurrent : v.superseded = false) : j = id := by
  have hid := (hc.current_iff w.request.slot id).mpr ⟨w, hw, rfl, hwcurrent⟩
  have hj := (hc.current_iff w.request.slot j).mpr ⟨v, hv, hslot, hvcurrent⟩
  rw [hid, Option.some.injEq] at hj
  exact hj.symm

/-- The contract of work becomes canonical when the work is on a canonical instance and is not
superseded. -/
theorem adopts_iff : w.adopts = true ↔ w.request.key = .canonical ∧ w.superseded = false := by
  simp [Work.adopts]

/-- While current work does not wait for its deployment, the canonical instance of its artifact
stays. -/
theorem Step.canonical_eq (hset : SetsCanonical set canonical)
    (step : Step set thresholds s m s') (lawful : RegistryLaw canonical (s :: past) m)
    (named : DeploysNamed (s :: past) m) (hc : s.cache.Coherent) (hw : s.cache.work? id = some w)
    (hcurrent : w.superseded = false) (hkey : w.request.key = .canonical)
    (hstage : w.stage ≠ .deploying) :
    canonical s'.world w.request.name = canonical s.world w.request.name := by
  cases step with
  | come r evicts => rfl
  | evict waits => rfl
  | obtain waits => rfl
  | receive waits settled => rfl
  | leave i => rfl
  | begin found stage => rfl
  | lookedUp answer found stage => rfl
  | @deployed j v answer found stage =>
    rw [State.world_receiveDeployment stage, State.world_proceed]
    unfold State.afterDeployment
    split
    · next contract =>
      split
      · next hadopts =>
        obtain ⟨hvkey, hvcurrent⟩ := adopts_iff.mp hadopts
        apply hset.other
        -- work that adopts a contract of this name would be current on the same key
        intro hname
        have hslot : v.request.slot = w.request.slot := by
          unfold DeploymentRequest.slot
          rw [hkey, hvkey, hname, named v found]
        obtain rfl := current_unique hc hw found hslot hcurrent hvcurrent
        rw [hw, Option.some.injEq] at found
        exact hstage (found ▸ stage)
      · rfl
    · rfl
  | elsewhere world => exact lawful _

/-- An outcome with a contract is that of a result with this contract. -/
theorem ok_of_outcome {r : DeploymentRequest} {x : Except ErrorChain Contract}
    (h : r.outcome x = .ok contract) : x = .ok contract := by
  unfold DeploymentRequest.outcome at h
  cases x with
  | ok c => exact h
  | error e => cases h

/-- The contract that current work is settled with when its deployment is answered is the canonical
instance from then on. -/
theorem canonical_deployed (hset : SetsCanonical set canonical)
    (hname : ∀ contract : Contract, answer = .ok contract → contract.name = w.request.name)
    (hcurrent : w.superseded = false) (hkey : w.request.key = .canonical)
    (hsettled : (w.settle (s.deploymentResult set w answer)).stage = .settled (.ok contract)) :
    canonical (s.afterDeployment set id w answer).world w.request.name = some contract := by
  have hadopts : w.adopts = true := adopts_iff.mpr ⟨hkey, hcurrent⟩
  have hresult : s.deploymentResult set w answer = .ok contract :=
    ok_of_outcome (Stage.settled.inj hsettled)
  unfold State.deploymentResult at hresult
  unfold State.afterDeployment
  split at hresult
  · next deployed =>
    rw [if_pos hadopts] at hresult
    rw [if_pos hadopts, ← hname deployed rfl]
    unfold Work.adopted at hresult
    split at hresult
    · next hset' =>
      rw [hset.own deployed s.world hset']
      exact congrArg some (Except.ok.inj hresult)
    · cases hresult
  · cases hresult

/-- The contract that current work is settled with when its lookup is answered is the one that was
found. -/
theorem eq_of_lookedUp {answer : Except LookupError Contract} (hstage : w.stage = .lookingUp)
    (hsettled : (w.lookedUp answer).stage = .settled (.ok contract)) : answer = .ok contract := by
  unfold Work.lookedUp at hsettled
  rw [hstage] at hsettled
  dsimp only at hsettled
  split at hsettled
  · next x hx =>
    have hok := ok_of_outcome (Stage.settled.inj hsettled)
    subst hok
    unfold DeploymentRequest.settledBy at hx
    split at hx
    · cases hx
      rfl
    · cases hx
    · split at hx <;> cases hx
  · cases hsettled

/-- Work whose lookup is answered is not looking for a contract any more. -/
theorem stage_lookedUp_ne (hstage : w.stage = .lookingUp) (answer : Except LookupError Contract) :
    (w.lookedUp answer).stage ≠ .lookingUp := by
  unfold Work.lookedUp
  rw [hstage]
  dsimp only
  split <;> simp [Work.settle]

/-- A move that keeps to the laws keeps registry and cache in agreement. -/
theorem Step.agrees (hset : SetsCanonical set canonical) (run : Run set thresholds law (s :: past))
    (step : Step set thresholds s m s') (lawful : RegistryLaw canonical (s :: past) m)
    (named : DeploysNamed (s :: past) m) (hagrees : Agrees canonical s past) :
    Agrees canonical s' (s :: past) := by
  intro id w' hw' hcurrent' hkey'
  cases hw : s.cache.work? id with
  | none =>
    obtain ⟨i, r, -, -, -, rfl, -⟩ := step.installed hw hw'
    constructor
    · intro h
      cases h
    · intro contract h
      cases h
  | some w =>
    have hevolves := step.evolves_to hw hw'
    have hrequest := hevolves.request
    have hkey : w.request.key = .canonical := hrequest ▸ hkey'
    have hcurrent : w.superseded = false := by
      cases h : w.superseded with
      | false => rfl
      | true => rw [hevolves.superseded h] at hcurrent'; cases hcurrent'
    obtain ⟨hlooking, hsettled⟩ := hagrees id w hw hcurrent hkey
    have hstays : w.stage ≠ .deploying →
        canonical s'.world w.request.name = canonical s.world w.request.name :=
      step.canonical_eq hset lawful named run.coherent hw hcurrent hkey
    rw [hrequest]
    cases hevolves with
    | stays _ stage mark =>
      rw [stage]
      refine ⟨fun h u hu v hv hvstage => ?_, fun contract h => ?_⟩
      · rcases List.mem_cons.mp hu with rfl | hu
        · rfl
        · rw [hstays (by simp [h])]
          exact hlooking h u hu v hv hvstage
      · rw [hstays (by simp [h])]
        exact hsettled contract h
    | begins stage =>
      refine ⟨fun h u hu v hv hvstage => ?_, fun contract h => ?_⟩
      · rcases List.mem_cons.mp hu with rfl | hu
        · rfl
        · rw [run.not_begun hw stage hu hv] at hvstage
          cases hvstage
      · unfold Work.begin at h
        rw [stage] at h
        dsimp only at h
        split at h <;> cases h
    | lookedUp answer stage =>
      refine ⟨fun h => absurd h (stage_lookedUp_ne stage answer), fun contract h => ?_⟩
      obtain rfl := eq_of_lookedUp stage h
      -- what was canonical when it was found has stayed so while the work was looking
      obtain ⟨u, hu, v, hv, hvstage, hfound⟩ := lawful
      obtain ⟨v', hv', hvrequest, -⟩ := run.work hu hv
      obtain rfl : w = v' := Option.some.inj (hw.symm.trans hv')
      rw [hstays (by simp [stage]), ← hlooking stage u hu v hv hvstage, hvrequest]
      exact hfound (hvrequest ▸ hkey)
    | deployed answer stage =>
      refine ⟨fun h => (by cases h), fun contract h => ?_⟩
      cases step with
      | @deployed j v answer found stage' =>
        obtain rfl : w = v := Option.some.inj (hw.symm.trans found)
        rw [State.world_receiveDeployment stage', State.world_proceed]
        apply canonical_deployed hset _ hcurrent hkey h
        rintro contract rfl
        exact named w hw

/-- Registry and cache agree in every run that keeps to the laws. -/
theorem Run.agrees (hset : SetsCanonical set canonical)
    (hlawful : ∀ trace m, law trace m → RegistryLaw canonical trace m)
    (hnamed : ∀ trace m, law trace m → DeploysNamed trace m)
    (run : Run set thresholds law (s :: past)) : Agrees canonical s past := by
  generalize htrace : s :: past = trace at run
  induction run generalizing s past with
  | start world =>
    obtain ⟨rfl, rfl⟩ := List.cons.inj htrace
    intro id w hw
    simp [DeploymentCache.work?, DeploymentCache.empty] at hw
  | step before made lawful ih =>
    obtain ⟨rfl, rfl⟩ := List.cons.inj htrace
    exact made.agrees hset before (hlawful _ _ lawful) (hnamed _ _ lawful) (ih rfl)

/-- In every run and for every artifact, one piece of work at most on its canonical instance is not
superseded, and it is the entry of the cache. Work that is superseded before its deployment was
asked for and answered never sets a contract as deployed. So much holds whatever the registry
answers. With a registry that keeps to the law, sets what it is told to set and deploys what it is
asked for, an entry that is settled with a contract has the canonical instance. -/
theorem canonical_of_run (run : Run set thresholds law (s :: past)) (name : ArtifactName) :
    (∀ id j, s.cache.IsCurrent (name, .canonical) id → s.cache.IsCurrent (name, .canonical) j →
        id = j) ∧
      (∀ id, s.cache.IsCurrent (name, .canonical) id ↔
        s.cache.entries.get? (name, .canonical) = some id) ∧
      (∀ u ∈ s :: past, ∀ id w, u.cache.work? id = some w → w.superseded = true →
        (w.stage.outcome? = none ∨
          (id, .deploy w.request.name w.request.args) ∉ u.record) →
        ∀ contract, (id, .setAsDeployed contract) ∉ s.record) ∧
      (SetsCanonical set canonical → (∀ trace m, law trace m → RegistryLaw canonical trace m) →
        (∀ trace m, law trace m → DeploysNamed trace m) →
        ∀ id contract, s.cache.entries.get? (name, .canonical) = some id →
          s.cache.outcome? id = some (.ok contract) → canonical s.world name = some contract) := by
  have hc := run.coherent
  refine ⟨?_, fun id => (hc.current_iff _ id).symm, ?_, ?_⟩
  · rintro id j ⟨w, hw, hslot, hcurrent⟩ ⟨v, hv, hvslot, hvcurrent⟩
    exact (current_unique hc hw hv (hvslot.trans hslot.symm) hcurrent hvcurrent).symm
  · intro u hu id w hw hmark hunanswered contract
    obtain ⟨before, hbefore⟩ := run.mem hu
    have hmade := hbefore.recorded id
    rw [hw] at hmade
    rw [← mem_callsOf]
    apply run.setAsDeployed_notMem hu hw hmark
    apply hmade.setAsDeployed_notMem
    rwa [mem_callsOf]
  · intro hset hlawful hnamed id contract hentry houtcome
    obtain ⟨w, hw, hslot, hcurrent⟩ := (hc.current_iff _ id).mp hentry
    obtain ⟨hname, hkey⟩ := Prod.mk.inj hslot
    rw [← hname]
    apply (run.agrees hset hlawful hnamed id w hw hcurrent hkey).2
    obtain ⟨w', hw', hstage⟩ := DeploymentCache.outcome?_eq_some_iff.mp houtcome
    rw [Option.some.inj (hw.symm.trans hw'), hstage]

/-! ## A deployment that is answered late -/

section Late

open Rehearsal (Directory)

/-- A rehearsed registry sets what it is told to set. -/
theorem setsCanonical_directory :
    SetsCanonical Directory.setAsDeployed fun d name => d.canonical.get? name := by
  constructor
  · intro contract d h
    unfold Directory.setAsDeployed Action.run at h ⊢
    dsimp only at h ⊢
    split at h
    · cases h
    · exact OrderedMap.get?_insert_self _ _ _
  · intro contract d name hname
    unfold Directory.setAsDeployed Action.run
    dsimp only
    split
    · rfl
    · exact (OrderedMap.get?_insert _ _ _ _).trans (if_neg (Ne.symm hname))

/-- An instance of a token. -/
def tokenAt (number : Nat) : Contract :=
  ⟨"Token", Address.ofNat number, .empty, some (BitVec.ofNat 256 number)⟩

/-- A directory keeps to the law and deploys what it is asked for. -/
def DirectoryLaw (trace : List (State Directory)) (m : Move Directory) : Prop :=
  RegistryLaw (fun d name => d.canonical.get? name) trace m ∧ DeploysNamed trace m

/-- A token is asked for and then demanded anew, and the second deployment is answered before the
first. -/
theorem late_run : ∃ s past,
    Run Directory.setAsDeployed .default DirectoryLaw (s :: past) ∧
      s.cache.entries.get? ("Token", .canonical) = some 1 ∧
      s.cache.outcome? 0 = some (.ok (tokenAt 1)) ∧
      s.cache.outcome? 1 = some (.ok (tokenAt 2)) := by
  let r : DeploymentRequest := { name := "Token", key := .canonical }
  have run : Run Directory.setAsDeployed .default DirectoryLaw [{ world := {} }] := .start _
  have run := run.step (.come _ r false) ⟨trivial, trivial⟩
  have run := run.step (.obtain (i := 0) rfl) ⟨trivial, trivial⟩
  have run := run.step (@Step.begin _ _ _ _ 0 _ rfl rfl) ⟨trivial, trivial⟩
  have run := run.step (@Step.lookedUp _ _ _ _ 0 _ (.error (.notDeployed "Token")) rfl rfl)
    ⟨trivial, trivial⟩
  have run := run.step (.come _ r true) ⟨trivial, trivial⟩
  have run := run.step (.evict (i := 1) rfl) ⟨trivial, trivial⟩
  have run := run.step (.obtain (i := 1) rfl) ⟨trivial, trivial⟩
  have run := run.step (@Step.begin _ _ _ _ 1 _ rfl rfl) ⟨trivial, trivial⟩
  have run := run.step (@Step.deployed _ _ _ _ 1 _ (.ok (tokenAt 2)) rfl rfl)
    ⟨trivial, fun w h => by cases h; rfl⟩
  have run := run.step (@Step.deployed _ _ _ _ 0 _ (.ok (tokenAt 1)) rfl rfl)
    ⟨trivial, fun w h => by cases h; rfl⟩
  exact ⟨_, _, run, rfl, rfl, rfl⟩

/-- The second token is canonical although the first one was deployed after it. -/
theorem canonical_of_late_run : ∃ s past,
    Run Directory.setAsDeployed .default DirectoryLaw (s :: past) ∧
      s.cache.outcome? 0 = some (.ok (tokenAt 1)) ∧
      s.world.canonical.get? "Token" = some (tokenAt 2) := by
  obtain ⟨s, past, run, hentry, hfirst, hsecond⟩ := late_run
  obtain ⟨-, -, -, hagrees⟩ := canonical_of_run run "Token"
  have hcanonical := hagrees setsCanonical_directory (fun _ _ h => h.1) (fun _ _ h => h.2) 1
    (tokenAt 2) hentry hsecond
  exact ⟨s, past, run, hfirst, hcanonical⟩

end Late

end ContractHarness.Deployment
