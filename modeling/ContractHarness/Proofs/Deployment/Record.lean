import ContractHarness.Proofs.Deployment.Interleaving

/-!
# The calls that a piece of work makes

Each piece of work makes its calls of the registry in a fixed order: a lookup, unless a new instance
was demanded, then a deployment, then at most one contract is set as deployed. How many of these it
has made can be told from its stage alone. This holds in every run, whatever the registry answers.
-/

set_option autoImplicit false

namespace ContractHarness

open Rehearsal (RegistryCall)

variable {σ : Type} {set : Contract → Action σ ErrorChain Unit} {thresholds : Report.Thresholds}

namespace Rehearsal.RegistryCall

/-- A call that looks a contract up. -/
def isLookUp : RegistryCall → Bool
  | .deployed _ | .instanceAt _ _ => true
  | .deploy _ _ | .setAsDeployed _ => false

/-- A call that has a contract deployed. -/
def isDeploy : RegistryCall → Bool
  | .deploy _ _ => true
  | .deployed _ | .instanceAt _ _ | .setAsDeployed _ => false

end Rehearsal.RegistryCall

namespace Work

/-- The lookup of a piece of work, unless a new instance is demanded. -/
def lookUps (w : Work) : List RegistryCall :=
  if w.request.redeploy then [] else [.lookUp w.request.name w.request.key]

/-- The calls of a piece of work that waits for its deployment. -/
def asked (w : Work) : List RegistryCall :=
  w.lookUps ++ [.deploy w.request.name w.request.args]

/-- The calls that have been made for a piece of work, at the stage that it is at. -/
def HasMade (w : Work) (calls : List RegistryCall) : Prop :=
  match w.stage with
  | .fresh => calls = []
  | .lookingUp => w.request.redeploy = false ∧ calls = w.lookUps
  | .deploying => calls = w.asked
  | .settled _ =>
    (w.request.redeploy = false ∧ calls = w.lookUps) ∨ calls = w.asked ∨
      (w.request.key = .canonical ∧ ∃ contract, calls = w.asked ++ [.setAsDeployed contract])

/-- What is made for work depends on its request and its stage only. -/
theorem HasMade.congr {w w' : Work} {calls : List RegistryCall} (h : w.HasMade calls)
    (hrequest : w'.request = w.request) (hstage : w'.stage = w.stage) : w'.HasMade calls := by
  unfold HasMade asked lookUps at h ⊢
  rw [hrequest, hstage]
  exact h

/-- Work that is begun makes its first call. -/
theorem HasMade.begin {w : Work} {calls : List RegistryCall} (h : w.HasMade calls)
    (hstage : w.stage = .fresh) :
    w.begin.HasMade (calls ++ (RegistryCall.awaitedBy? w.begin).toList) := by
  unfold HasMade at h
  rw [hstage] at h
  subst h
  unfold Work.begin
  rw [hstage]
  dsimp only
  cases h : w.request.redeploy with
  | true => simp [HasMade, RegistryCall.awaitedBy?, asked, lookUps, h]
  | false => simp [HasMade, RegistryCall.awaitedBy?, lookUps, h]

/-- Work whose lookup is answered asks for a deployment, or makes no call any more. -/
theorem HasMade.lookedUp {w : Work} {calls : List RegistryCall} (h : w.HasMade calls)
    (hstage : w.stage = .lookingUp) (answer : Except LookupError Contract) :
    (w.lookedUp answer).HasMade
      (calls ++ (RegistryCall.awaitedBy? (w.lookedUp answer)).toList) := by
  unfold HasMade at h
  rw [hstage] at h
  obtain ⟨hredeploy, rfl⟩ := h
  unfold Work.lookedUp
  rw [hstage]
  dsimp only
  cases w.request.settledBy answer with
  | some x => exact .inl ⟨hredeploy, List.append_nil _⟩
  | none => rfl

/-- Work that is settled without its contract being set as deployed makes no call any more. -/
theorem HasMade.settle {w : Work} {calls : List RegistryCall} (h : w.HasMade calls)
    (hstage : w.stage = .deploying) (x : Except ErrorChain Contract) :
    (w.settle x).HasMade (calls ++ (RegistryCall.awaitedBy? (w.settle x)).toList) := by
  unfold HasMade at h
  rw [hstage] at h
  subst h
  exact .inr (.inl (List.append_nil _))

/-- Work whose contract was set as deployed makes no call any more. -/
theorem HasMade.adopt {w : Work} {calls : List RegistryCall} (h : w.HasMade calls)
    (hstage : w.stage = .deploying) (hadopts : w.adopts = true) (contract : Contract)
    (x : Except ErrorChain Contract) :
    (w.settle x).HasMade
      (calls ++ [.setAsDeployed contract] ++ (RegistryCall.awaitedBy? (w.settle x)).toList) := by
  unfold HasMade at h
  rw [hstage] at h
  subst h
  have hkey : w.request.key = .canonical := by
    unfold adopts at hadopts
    simp only [Bool.and_eq_true, decide_eq_true_eq] at hadopts
    exact hadopts.1
  exact .inr (.inr ⟨hkey, contract, List.append_nil _⟩)

/-- Work has made some of its calls up to the deployment, or is settled and has made them all. -/
theorem HasMade.cases {w : Work} {calls : List RegistryCall} (h : w.HasMade calls) :
    calls <+: w.asked ∨
      w.stage.outcome? ≠ none ∧ ∃ contract, calls = w.asked ++ [.setAsDeployed contract] := by
  unfold HasMade at h
  split at h
  · exact .inl (h ▸ List.nil_prefix)
  · exact .inl (h.2 ▸ List.prefix_append _ _)
  · exact .inl (h ▸ List.prefix_refl _)
  · next outcome hstage =>
    rcases h with ⟨-, h⟩ | h | ⟨-, contract, h⟩
    · exact .inl (h ▸ List.prefix_append _ _)
    · exact .inl (h ▸ List.prefix_refl _)
    · rw [hstage]
      exact .inr ⟨Option.some_ne_none _, contract, h⟩

/-- Work makes one lookup at most, and none when a new instance is demanded. -/
theorem HasMade.countP_isLookUp {w : Work} {calls : List RegistryCall} (h : w.HasMade calls) :
    calls.countP RegistryCall.isLookUp ≤ if w.request.redeploy then 0 else 1 := by
  have hasked : w.asked.countP RegistryCall.isLookUp ≤ if w.request.redeploy then 0 else 1 := by
    unfold asked lookUps
    rw [List.countP_append]
    split
    · exact Nat.le_refl 0
    · cases w.request.key <;> exact Nat.le_refl 1
  rcases h.cases with hpart | ⟨-, contract, rfl⟩
  · exact Nat.le_trans hpart.sublist.countP_le hasked
  · rw [List.countP_append]
    exact hasked

/-- Work asks for one deployment at most. -/
theorem HasMade.countP_isDeploy {w : Work} {calls : List RegistryCall} (h : w.HasMade calls) :
    calls.countP RegistryCall.isDeploy ≤ 1 := by
  have hasked : w.asked.countP RegistryCall.isDeploy = 1 := by
    unfold asked lookUps
    rw [List.countP_append]
    split
    · rfl
    · cases w.request.key <;> rfl
  rcases h.cases with hpart | ⟨-, contract, rfl⟩
  · exact Nat.le_trans hpart.sublist.countP_le (Nat.le_of_eq hasked)
  · rw [List.countP_append, hasked]
    exact Nat.le_refl 1

/-- To set a contract as deployed is none of the calls that work waits for. -/
theorem setAsDeployed_notMem_asked (w : Work) (contract : Contract) :
    .setAsDeployed contract ∉ w.asked := by
  unfold asked lookUps
  split
  · simp
  · cases w.request.key <;> simp [RegistryCall.lookUp]

/-- Work has set no contract as deployed before its deployment was asked for and answered. -/
theorem HasMade.setAsDeployed_notMem {w : Work} {calls : List RegistryCall} (h : w.HasMade calls)
    (hunanswered : w.stage.outcome? = none ∨ .deploy w.request.name w.request.args ∉ calls)
    (contract : Contract) : .setAsDeployed contract ∉ calls := by
  rcases h.cases with hpart | ⟨hsettled, other, rfl⟩
  · exact fun hmem => w.setAsDeployed_notMem_asked contract (hpart.mem hmem)
  · rcases hunanswered with hnone | hdeploy
    · exact absurd hnone hsettled
    · exact absurd (by simp [asked]) hdeploy

end Work

namespace Deployment

variable {s s' u t : State σ} {m : Move σ} {id j : Nat} {v v' w : Work}
  {law : List (State σ) → Move σ → Prop} {past : List (State σ)}

/-- The record holds for each piece of work the calls that it has made, and no others. -/
def Recorded (s : State σ) : Prop :=
  ∀ id, match s.cache.work? id with
    | some w => w.HasMade (s.callsOf id)
    | none => s.callsOf id = []

/-- The calls of a piece of work are those that are on record for it. -/
@[simp] theorem mem_callsOf {call : RegistryCall} :
    call ∈ s.callsOf id ↔ (id, call) ∈ s.record := by
  simp [State.callsOf]

/-- A deployed contract is set as deployed for its work, or nothing is called. -/
theorem callsOf_afterDeployment (answer : Except ErrorChain Contract) :
    (s.afterDeployment set j w answer).callsOf id = s.callsOf id ∨
      (id = j ∧ w.adopts = true ∧ ∃ contract, answer = .ok contract ∧
        (s.afterDeployment set j w answer).callsOf id =
          s.callsOf id ++ [.setAsDeployed contract]) := by
  unfold State.afterDeployment State.callsOf
  split
  · next contract =>
    split
    · next hadopts =>
      rw [List.filter_append, List.map_append]
      by_cases hid : j = id
      · subst hid
        exact .inr ⟨rfl, hadopts, contract, rfl, by simp⟩
      · left
        simp [hid]
    · exact .inl rfl
  · exact .inl rfl

/-- A record stays right when work is marked, and when new work is installed. -/
theorem Recorded.mark (hr : Recorded s) (hcalls : ∀ id, s'.callsOf id = s.callsOf id)
    (hwork : ∀ id w', s'.cache.work? id = some w' →
      (s.cache.work? id = none ∧ w'.stage = .fresh) ∨
        ∃ w, s.cache.work? id = some w ∧ w'.request = w.request ∧ w'.stage = w.stage)
    (hkept : ∀ id, s'.cache.work? id = none → s.cache.work? id = none) : Recorded s' := by
  intro id
  have hid := hr id
  rw [hcalls]
  cases h : s'.cache.work? id with
  | none =>
    rw [hkept id h] at hid
    exact hid
  | some w' =>
    rcases hwork id w' h with ⟨hnone, hstage⟩ | ⟨w, hw, hrequest, hstage⟩
    · rw [hnone] at hid
      show w'.HasMade (s.callsOf id)
      unfold Work.HasMade
      rw [hstage]
      exact hid
    · rw [hw] at hid
      exact hid.congr hrequest hstage

/-- A record stays right when work goes on, if it is right for that work. -/
theorem Recorded.proceed (hr : Recorded s) (hcache : t.cache = s.cache)
    (hother : ∀ id, id ≠ j → t.callsOf id = s.callsOf id) (hv : s.cache.work? j = some v)
    (hmade : v'.HasMade (t.callsOf j ++ (RegistryCall.awaitedBy? v').toList)) :
    Recorded (t.proceed j v') := by
  intro id
  rw [State.cache_proceed, DeploymentCache.work?_update, hcache, State.callsOf_proceed]
  by_cases h : j = id
  · subst h
    rw [if_pos rfl, if_pos rfl, hv]
    exact hmade
  · rw [if_neg h, if_neg h, List.append_nil, hother id (Ne.symm h)]
    exact hr id

/-- What a move adds to the record is what the work calls for. -/
theorem Step.recorded (step : Step set thresholds s m s') (hr : Recorded s) : Recorded s' := by
  have hmark : ∀ slot id w', (s.cache.supersedeEntry slot).work? id = some w' →
      ∃ w, s.cache.work? id = some w ∧ w'.request = w.request ∧ w'.stage = w.stage := by
    intro slot id w' h
    obtain ⟨w, hw, hrequest, hstage, -⟩ := DeploymentCache.exists_of_supersedeEntry h
    exact ⟨w, hw, hrequest, hstage⟩
  have hnone : ∀ slot id, (s.cache.supersedeEntry slot).work? id = none →
      s.cache.work? id = none := by
    intro slot id h
    rw [DeploymentCache.work?_supersedeEntry, Option.map_eq_none_iff] at h
    exact h
  cases step with
  | come r evicts => exact hr
  | @evict i r waits =>
    exact hr.mark (fun _ => rfl) (fun id w' h => .inr (hmark r.slot id w' h)) (hnone r.slot)
  | @obtain i r waits =>
    rcases DeploymentCache.obtain_cases s.cache r with ⟨j, -, -, h⟩ | ⟨-, h⟩
    · rw [h]
      exact hr
    · rw [h]
      refine hr.mark (fun _ => rfl) ?_ ?_
      · intro id w' hw'
        simp only [DeploymentCache.work?_install] at hw'
        split at hw'
        · next hid =>
          left
          rw [← Option.some.inj hw', hid]
          exact ⟨List.getElem?_eq_none (Nat.le_refl _), rfl⟩
        · exact .inr (hmark r.slot id w' hw')
      · intro id h
        simp only [DeploymentCache.work?_install] at h
        split at h
        · cases h
        · exact hnone r.slot id h
  | receive waits settled => exact hr
  | leave i => exact hr
  | @begin id w found stage =>
    have hid := hr id
    rw [found] at hid
    exact hr.proceed rfl (fun _ _ => rfl) found (Work.HasMade.begin hid stage)
  | @lookedUp id w answer found stage =>
    have hid := hr id
    rw [found] at hid
    exact hr.proceed rfl (fun _ _ => rfl) found (Work.HasMade.lookedUp hid stage answer)
  | @deployed id w answer found stage =>
    have hid := hr id
    rw [found] at hid
    rw [State.world_receiveDeployment stage]
    apply hr.proceed (State.cache_afterDeployment answer) _ found
    · rcases @callsOf_afterDeployment _ set s id id w answer with h | ⟨-, hadopts, contract, -, h⟩
      · rw [h]
        exact hid.settle stage _
      · rw [h]
        exact hid.adopt stage hadopts contract _
    · intro k hk
      rcases @callsOf_afterDeployment _ set s k id w answer with h | ⟨h, -⟩
      · exact h
      · exact absurd h hk
  | elsewhere world => exact hr

/-- The record is always right. -/
theorem Run.recorded (run : Run set thresholds law (s :: past)) : Recorded s :=
  run.always (fun _ _ => rfl) Step.recorded

/-- A move adds to the calls that were made. -/
theorem Step.record (step : Step set thresholds s m t) : ∃ more, t.record = s.record ++ more := by
  have hsame : ∃ more, s.record = s.record ++ more := ⟨[], (List.append_nil _).symm⟩
  cases step with
  | come r evicts => exact hsame
  | evict waits => exact hsame
  | obtain waits => exact hsame
  | receive waits settled => exact hsame
  | leave i => exact hsame
  | begin found stage => exact ⟨_, rfl⟩
  | lookedUp answer found stage => exact ⟨_, rfl⟩
  | @deployed id w answer found stage =>
    rw [State.world_receiveDeployment stage]
    have hafter : ∃ more, (s.afterDeployment set id w answer).record = s.record ++ more := by
      unfold State.afterDeployment
      split
      · split
        · exact ⟨_, rfl⟩
        · exact hsame
      · exact hsame
    obtain ⟨more, hmore⟩ := hafter
    unfold State.proceed
    dsimp only
    rw [hmore, List.append_assoc]
    exact ⟨_, rfl⟩
  | elsewhere world => exact hsame

/-- No contract is set as deployed by going on with work that is not told what was deployed. -/
theorem mem_record_of_proceed {contract : Contract}
    (h : (id, .setAsDeployed contract) ∈ (s.proceed j w).record) :
    (id, .setAsDeployed contract) ∈ s.record := by
  unfold State.proceed at h
  rw [List.mem_append] at h
  refine h.resolve_right ?_
  unfold RegistryCall.awaitedBy?
  split
  · cases w.request.key <;> simp [RegistryCall.lookUp]
  · simp
  · simp

/-- A contract is set as deployed when the deployment of work that is still current returns, and
at no other time. -/
theorem Step.setAsDeployed (step : Step set thresholds s m s') {contract : Contract}
    (hcall : .setAsDeployed contract ∈ s'.callsOf id) (hw : s.cache.work? id = some w) :
    .setAsDeployed contract ∈ s.callsOf id ∨
      (m = .deployed id (.ok contract) ∧ w.stage = .deploying ∧ w.adopts = true) := by
  rw [mem_callsOf] at hcall ⊢
  cases step with
  | come r evicts => exact .inl hcall
  | evict waits => exact .inl hcall
  | obtain waits => exact .inl hcall
  | receive waits settled => exact .inl hcall
  | leave i => exact .inl hcall
  | begin found stage => exact .inl (mem_record_of_proceed hcall)
  | lookedUp answer found stage => exact .inl (mem_record_of_proceed hcall)
  | @deployed j v answer found stage =>
    rw [State.world_receiveDeployment stage] at hcall
    have hcall := mem_record_of_proceed hcall
    rw [← mem_callsOf] at hcall ⊢
    rcases @callsOf_afterDeployment _ set s id j v answer with h | ⟨rfl, hadopts, other, rfl, h⟩
    · exact .inl (h ▸ hcall)
    · rw [h, List.mem_append] at hcall
      refine hcall.imp_right fun hnew => ?_
      obtain rfl : contract = other := by simpa using hnew
      rw [found] at hw
      exact ⟨rfl, Option.some.inj hw ▸ stage, Option.some.inj hw ▸ hadopts⟩
  | elsewhere world => exact .inl hcall

/-- Superseded work sets no contract as deployed that it has not set before. -/
theorem Run.setAsDeployed_notMem (run : Run set thresholds law (s :: past)) (hu : u ∈ s :: past)
    (hw : u.cache.work? id = some w) (hmark : w.superseded = true) {contract : Contract}
    (hcall : .setAsDeployed contract ∉ u.callsOf id) : .setAsDeployed contract ∉ s.callsOf id := by
  apply (run.keeps (P := fun s => (∃ w, s.cache.work? id = some w ∧ w.superseded = true) ∧
    .setAsDeployed contract ∉ s.callsOf id) _ hu ⟨⟨w, hw, hmark⟩, hcall⟩).2
  rintro s m s' step ⟨⟨v, hv, hmark⟩, hcall⟩
  obtain ⟨v', hv', hevolves⟩ := step.evolves hv
  refine ⟨⟨v', hv', hevolves.superseded hmark⟩, fun h => ?_⟩
  rcases step.setAsDeployed h hv with h | ⟨-, -, hadopts⟩
  · exact hcall h
  · simp [Work.adopts, hmark] at hadopts

end Deployment

end ContractHarness
