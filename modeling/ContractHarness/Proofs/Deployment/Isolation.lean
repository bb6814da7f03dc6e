import ContractHarness.Proofs.Deployment.Sharing

/-!
# Keys do not interfere

Every locked section of a call and every turn of a piece of work is made for one key. It leaves
alone what the cache holds under all other keys: the entry, and of all work that was ever installed
there the request, the stage and the mark. The calls of the registry that are made for a piece of
work name its artifact only. A contract is set as deployed once for a piece of work at most, in the
move in which the deployment of that work returns it, and never for work under an address, so that
such work leaves the registry as it is.
-/

set_option autoImplicit false

namespace ContractHarness

open Rehearsal (RegistryCall)

/-! ## What a cache holds under a key -/

namespace DeploymentCache

variable {cache cache' cache'' : DeploymentCache} {slot other : CacheKey} {id : Nat}
  {r : DeploymentRequest} {w w' : Work}

/-- Two caches hold the same under a key: the entry, and all work that was installed for it. -/
structure SameOn (slot : CacheKey) (cache cache' : DeploymentCache) : Prop where
  entry : cache'.entries.get? slot = cache.entries.get? slot
  works : ∀ id w, w.request.slot = slot → (cache'.work? id = some w ↔ cache.work? id = some w)

/-- A cache holds the same as itself. -/
theorem SameOn.refl (slot : CacheKey) (cache : DeploymentCache) : SameOn slot cache cache :=
  ⟨rfl, fun _ _ _ => Iff.rfl⟩

/-- To hold the same under a key is transitive. -/
theorem SameOn.trans (h : SameOn slot cache cache') (h' : SameOn slot cache' cache'') :
    SameOn slot cache cache'' := by
  constructor
  · rw [h'.entry, h.entry]
  · intro id w hslot
    rw [h'.works id w hslot, h.works id w hslot]

/-- Work that goes on under its own key is not seen under another one. -/
theorem SameOn.update (hw : cache.work? id = some w) (hrequest : w'.request = w.request)
    (hne : w.request.slot ≠ slot) : SameOn slot cache (cache.update id fun _ => w') := by
  refine ⟨rfl, ?_⟩
  intro j v hslot
  rw [work?_update]
  split
  · next e =>
    subst e
    rw [hw]
    have hold : w ≠ v := by
      rintro rfl
      exact hne hslot
    have hnew : w' ≠ v := by
      rintro rfl
      rw [hrequest] at hslot
      exact hne hslot
    simp [hold, hnew]
  · rfl

/-- The entry of a key is work on that key, so that no other work is marked with it. -/
theorem SameOn.supersedeEntry (hc : cache.Coherent) (hne : other ≠ slot) :
    SameOn slot cache (cache.supersedeEntry other) := by
  refine ⟨by simp, ?_⟩
  intro j v hslot
  rw [work?_supersedeEntry]
  split
  · next hentry =>
    obtain ⟨w, hw, hother, -⟩ := (hc.current_iff other j).mp hentry
    have hold : w ≠ v := by
      rintro rfl
      exact hne (hother.symm.trans hslot)
    have hnew : { w with superseded := true } ≠ v := by
      rintro rfl
      exact hne (hother.symm.trans hslot)
    simp [hw, hold, hnew]
  · simp

/-- To evict one key leaves the others alone. -/
theorem SameOn.evict (hc : cache.Coherent) (hne : other ≠ slot) :
    SameOn slot cache (cache.evict other) := by
  constructor
  · rw [entries_evict, OrderedMap.get?_erase, if_neg hne]
  · exact (SameOn.supersedeEntry hc hne).works

/-- To install work on one key leaves the others alone. -/
theorem SameOn.install (hc : cache.Coherent) (hne : r.slot ≠ slot) :
    SameOn slot cache (cache.install r).1 := by
  constructor
  · rw [entries_install, OrderedMap.get?_insert, if_neg hne]
  · intro j v hslot
    rw [work?_install]
    split
    · next e =>
      have hnone : cache.work? j = none := List.getElem?_eq_none (Nat.le_of_eq e.symm)
      have hnew : ({ request := r } : Work) ≠ v := by
        rintro rfl
        exact hne hslot
      simp [hnone, hnew]
    · exact (SameOn.supersedeEntry hc hne).works j v hslot

/-- To obtain work for one key leaves the others alone. -/
theorem SameOn.obtain (hc : cache.Coherent) (hne : r.slot ≠ slot) :
    SameOn slot cache (cache.obtain r).1 := by
  rcases obtain_cases cache r with ⟨id, -, -, h⟩ | ⟨-, h⟩
  · rw [h]
    exact .refl slot cache
  · rw [h]
    exact .install hc hne

end DeploymentCache

/-! ## The calls of a piece of work -/

/-- A call that may be made for a request. -/
def DeploymentRequest.Permits (r : DeploymentRequest) : RegistryCall → Prop
  | .deployed name => name = r.name ∧ r.key = .canonical
  | .instanceAt name address => name = r.name ∧ r.key = .at address
  | .deploy name args => name = r.name ∧ args = r.args
  | .setAsDeployed _ => r.key = .canonical

namespace Work

variable {w : Work} {calls : List RegistryCall} {call : RegistryCall} {contract : Contract}

/-- The calls of work that waits for its deployment may be made for its request. -/
theorem permits_of_mem_asked (h : call ∈ w.asked) : w.request.Permits call := by
  rw [asked, List.mem_append] at h
  rcases h with h | h
  · unfold lookUps at h
    split at h
    · cases h
    · obtain rfl := List.mem_singleton.mp h
      cases hkey : w.request.key with
      | canonical => exact ⟨rfl, hkey⟩
      | «at» address => exact ⟨rfl, hkey⟩
  · obtain rfl := List.mem_singleton.mp h
    exact ⟨rfl, rfl⟩

/-- A contract is set as deployed after all other calls, and for a canonical instance only. -/
theorem HasMade.eq_of_setAsDeployed (h : w.HasMade calls) (hmem : .setAsDeployed contract ∈ calls) :
    w.request.key = .canonical ∧ calls = w.asked ++ [.setAsDeployed contract] := by
  have hasked := w.setAsDeployed_notMem_asked contract
  have hlookUps : .setAsDeployed contract ∉ w.lookUps := by
    intro hmem
    exact hasked (List.mem_append_left _ hmem)
  unfold HasMade at h
  split at h
  · rw [h] at hmem
    cases hmem
  · rw [h.2] at hmem
    exact absurd hmem hlookUps
  · rw [h] at hmem
    exact absurd hmem hasked
  · rcases h with ⟨-, rfl⟩ | rfl | ⟨hkey, other, rfl⟩
    · exact absurd hmem hlookUps
    · exact absurd hmem hasked
    · obtain rfl : contract = other := by simpa [hasked] using hmem
      exact ⟨hkey, rfl⟩

/-- The calls that were made for work may be made for its request. -/
theorem HasMade.permits (h : w.HasMade calls) (hmem : call ∈ calls) : w.request.Permits call := by
  cases call with
  | setAsDeployed contract => exact (h.eq_of_setAsDeployed hmem).1
  | deployed name | instanceAt name address | deploy name args =>
    rcases h.cases with hpart | ⟨-, other, rfl⟩
    · exact permits_of_mem_asked (hpart.mem hmem)
    · rcases List.mem_append.mp hmem with hmem | hmem
      · exact permits_of_mem_asked hmem
      · simp at hmem

end Work

namespace Deployment

variable {σ : Type} {set : Contract → Action σ ErrorChain Unit} {thresholds : Report.Thresholds}
variable {s s' u : State σ} {past : List (State σ)} {m : Move σ} {slot : CacheKey} {id : Nat}
  {w : Work} {contract : Contract} {law : List (State σ) → Move σ → Prop}

/-! ## The key of a move -/

/-- The key that a move is made for. To come, to be answered and to go away is about no key. -/
def Move.slot? (s : State σ) : Move σ → Option CacheKey
  | .evict i | .obtain i => (s.callers[i]?).bind Progress.slot?
  | .begin id | .lookedUp id _ | .deployed id _ => (s.cache.work? id).map fun w => w.request.slot
  | .come _ _ | .receive _ | .leave _ | .elsewhere _ => none

/-- A move leaves alone what a cache holds under the keys that it is not made for. -/
theorem Step.sameOn (step : Step set thresholds s m s') (hc : s.cache.Coherent)
    (hne : m.slot? s ≠ some slot) : s.cache.SameOn slot s'.cache := by
  have hcaller : ∀ {i : Nat} {p : Progress} {other : CacheKey}, s.callers[i]? = some p →
      p.slot? = some other → (s.callers[i]?).bind Progress.slot? ≠ some slot → other ≠ slot := by
    intro i p other hi hp hne
    rw [hi, Option.bind_some, hp] at hne
    exact fun h => hne (congrArg some h)
  have hwork : ∀ {id : Nat} {w : Work}, s.cache.work? id = some w →
      (s.cache.work? id).map (fun w => w.request.slot) ≠ some slot → w.request.slot ≠ slot := by
    intro id w hw hne
    rw [hw, Option.map_some] at hne
    exact fun h => hne (congrArg some h)
  cases step with
  | come r evicts => exact .refl slot s.cache
  | evict waits => exact .evict hc (hcaller waits rfl hne)
  | obtain waits => exact .obtain hc (hcaller waits rfl hne)
  | receive waits settled => exact .refl slot s.cache
  | leave i => exact .refl slot s.cache
  | @begin id w found stage => exact .update found (request_begin w) (hwork found hne)
  | @lookedUp id w answer found stage =>
    exact .update found (request_lookedUp w answer) (hwork found hne)
  | deployed answer found stage =>
    rw [State.world_receiveDeployment stage, State.cache_proceed, State.cache_afterDeployment]
    exact .update found rfl (hwork found hne)
  | elsewhere world => exact .refl slot s.cache

/-- Work under an address leaves the world of the registry as it is, and so do its callers. -/
theorem Step.world_eq {name : ArtifactName} {address : Address}
    (step : Step set thresholds s m s') (hslot : m.slot? s = some (name, .at address)) :
    s'.world = s.world := by
  cases step with
  | come r evicts => rfl
  | evict waits => rfl
  | obtain waits => rfl
  | receive waits settled => rfl
  | leave i => rfl
  | begin found stage => rfl
  | lookedUp answer found stage => rfl
  | @deployed id w answer found stage =>
    have hkey : w.request.key = .at address := by
      rw [Move.slot?, found, Option.map_some, Option.some.injEq] at hslot
      exact congrArg Prod.snd hslot
    have hadopts : w.adopts = false := by simp [Work.adopts, hkey]
    rw [State.world_receiveDeployment stage, State.world_proceed]
    cases answer with
    | ok contract => simp [State.afterDeployment, hadopts]
    | error e => rfl
  | elsewhere world => cases hslot

/-! ## Whole runs -/

/-- Once a state was reached no move is made for a key. -/
def LeavesAlone (u : State σ) (slot : CacheKey) : List (State σ) → Move σ → Prop
  | s :: past, m => u ∈ s :: past → m.slot? s ≠ some slot
  | [], _ => True

/-- While all moves are made for other keys, nothing changes under a key. -/
theorem Run.sameOn (run : Run set thresholds (LeavesAlone u slot) (s :: past))
    (hu : u ∈ s :: past) : u.cache.SameOn slot s.cache := by
  generalize htrace : s :: past = trace at run hu
  induction run generalizing s past with
  | start world =>
    obtain ⟨rfl, rfl⟩ := List.cons.inj htrace
    obtain rfl := List.mem_singleton.mp hu
    exact .refl slot _
  | step before made lawful ih =>
    obtain ⟨rfl, rfl⟩ := List.cons.inj htrace
    rcases List.mem_cons.mp hu with rfl | hu
    · exact .refl slot _
    · exact (ih rfl hu).trans (made.sameOn before.coherent (lawful hu))

/-- A move makes no call for the work that it installs. -/
theorem Step.work_of_call {call : RegistryCall} (step : Step set thresholds s m s')
    (hr : Recorded s) (hcall : (id, call) ∈ s'.record) : ∃ w, s.cache.work? id = some w := by
  cases hw : s.cache.work? id with
  | some w => exact ⟨w, rfl⟩
  | none =>
    exfalso
    have hmade := step.recorded hr id
    rw [← mem_callsOf] at hcall
    cases hw' : s'.cache.work? id with
    | none =>
      simp only [hw'] at hmade
      rw [hmade] at hcall
      cases hcall
    | some w' =>
      obtain ⟨i, r, -, -, -, rfl, -⟩ := step.installed hw hw'
      simp only [hw', Work.HasMade] at hmade
      rw [hmade] at hcall
      cases hcall

/-- What is set as deployed for a piece of work was returned by the deployment of that work, and it
is set in the move in which it is returned. -/
theorem Run.deployed_of_setAsDeployed (run : Run set thresholds law (s :: past))
    (hcall : (id, .setAsDeployed contract) ∈ s.record) :
    ∃ t t' before, t' :: t :: before <:+ s :: past ∧
      Step set thresholds t (.deployed id (.ok contract)) t' ∧
      (id, .setAsDeployed contract) ∉ t.record ∧ (id, .setAsDeployed contract) ∈ t'.record := by
  generalize htrace : s :: past = trace at run
  induction run generalizing s past with
  | start world =>
    obtain ⟨rfl, rfl⟩ := List.cons.inj htrace
    cases hcall
  | @step t t' before m run made lawful ih =>
    obtain ⟨rfl, rfl⟩ := List.cons.inj htrace
    by_cases hearlier : (id, .setAsDeployed contract) ∈ t.record
    · obtain ⟨v, v', earlier, hsuffix, h⟩ := ih hearlier rfl
      exact ⟨v, v', earlier, hsuffix.trans (List.suffix_cons _ _), h⟩
    · obtain ⟨w, hw⟩ := made.work_of_call run.recorded hcall
      rw [← mem_callsOf] at hcall hearlier
      rcases made.setAsDeployed hcall hw with h | ⟨rfl, -, -⟩
      · exact absurd h hearlier
      · rw [mem_callsOf] at hcall hearlier
        exact ⟨t, _, before, List.suffix_refl _, made, hearlier, hcall⟩

/-! ## What keys can rely on -/

/-- How far the keys of a cache are kept apart in the last state of a run. -/
structure Isolates (set : Contract → Action σ ErrorChain Unit) (thresholds : Report.Thresholds)
    (s : State σ) (past : List (State σ)) : Prop where
  /-- A move leaves the keys alone that it is not made for. -/
  others : ∀ m s' slot, Step set thresholds s m s' → m.slot? s ≠ some slot →
    s.cache.SameOn slot s'.cache
  /-- Nothing changes under a key from here on while all moves are made for other keys. -/
  undisturbed : ∀ s' later slot, Run set thresholds (LeavesAlone s slot) (s' :: later) →
    s ∈ s' :: later → s.cache.SameOn slot s'.cache
  /-- A call that asks for a key obtains work on that key, and its moves until then are for it. -/
  ownKey : ∀ u ∈ s :: past, ∀ (i : Nat) (p p' : Progress) slot, u.callers[i]? = some p →
    p.slot? = some slot → s.callers[i]? = some p' →
      p'.slot? = some slot ∨ p' = .gone ∨
        ∃ id w, p'.work? = some id ∧ s.cache.work? id = some w ∧ w.request.slot = slot
  /-- Calls are made for work, and only those that its request permits. -/
  calls : ∀ id call, (id, call) ∈ s.record →
    ∃ w, s.cache.work? id = some w ∧ w.request.Permits call
  /-- A contract is set as deployed once, after the other calls, for a canonical instance. -/
  sets : ∀ id contract w, (id, .setAsDeployed contract) ∈ s.record → s.cache.work? id = some w →
    w.request.key = .canonical ∧ s.callsOf id = w.asked ++ [.setAsDeployed contract]
  /-- It is the contract that the deployment of the work has returned. -/
  returned : ∀ id contract, (id, .setAsDeployed contract) ∈ s.record →
    ∃ t t' before, t' :: t :: before <:+ s :: past ∧
      Step set thresholds t (.deployed id (.ok contract)) t' ∧
      (id, .setAsDeployed contract) ∉ t.record ∧ (id, .setAsDeployed contract) ∈ t'.record
  /-- A move that is made for an address changes no canonical instance. -/
  canonical : ∀ m s' name address, Step set thresholds s m s' →
    m.slot? s = some (name, .at address) →
      ∀ canonical : σ → ArtifactName → Option Contract, canonical s'.world = canonical s.world

/-- In every run, with any callers, any answers and any order of moves, the keys of a cache do not
interfere. -/
theorem isolates_of_run (run : AnyRun set thresholds (s :: past)) :
    Isolates set thresholds s past where
  others m s' slot step := step.sameOn run.coherent
  undisturbed s' later slot hlater hs := hlater.sameOn hs
  ownKey u hu i p p' slot hp hslot hp' := by
    obtain ⟨before, hbefore⟩ := run.mem hu
    obtain ⟨-, q, hq, h⟩ := run.keeps (P := fun s => s.cache.Coherent ∧ OnKey i slot s)
      (fun step h => ⟨step.coherent h.1, step.onKey h.1 h.2⟩) hu
      ⟨hbefore.coherent, p, hp, .inl hslot⟩
    obtain rfl := Option.some.inj (hp'.symm.trans hq)
    exact h
  calls id call hcall := by
    have hmade := run.recorded id
    rw [← mem_callsOf] at hcall
    cases hw : s.cache.work? id with
    | none =>
      rw [hw] at hmade
      rw [hmade] at hcall
      cases hcall
    | some w =>
      rw [hw] at hmade
      exact ⟨w, rfl, hmade.permits hcall⟩
  sets id contract w hcall hw := by
    have hmade := run.recorded id
    rw [hw] at hmade
    exact hmade.eq_of_setAsDeployed (mem_callsOf.mpr hcall)
  returned id contract hcall := run.deployed_of_setAsDeployed hcall
  canonical m s' name address step hslot canonical := by rw [step.world_eq hslot]

/-! ## A deployment under an address -/

section Address

open Rehearsal (Directory)

/-- A token is asked for under an address, where there is none, and under no address. -/
theorem address_run : ∃ (s : State Directory) (past : List (State Directory)),
    AnyRun Directory.setAsDeployed .default (s :: past) ∧
      s.cache.work? 0 = some
        { request := ⟨"Token", .at .zero, false, []⟩, superseded := false, stage := .deploying } ∧
      s.cache.entries.get? ("Token", .canonical) = some 1 := by
  have run : AnyRun Directory.setAsDeployed .default [{ world := {} }] := .start _
  have run := run.step (.come _ { name := "Token", key := .at .zero } false) trivial
  have run := run.step (.come _ { name := "Token", key := .canonical } false) trivial
  have run := run.step (.obtain (i := 0) rfl) trivial
  have run := run.step (.obtain (i := 1) rfl) trivial
  have run := run.step (@Step.begin _ _ _ _ 0 _ rfl rfl) trivial
  have run := run.step
    (@Step.lookedUp _ _ _ _ 0 _ (.error (.message "no code at address zero")) rfl rfl) trivial
  exact ⟨_, _, run, rfl, rfl⟩

/-- When the token is deployed under the address, the other entry and the canonical instance stay as
they are. -/
theorem isolates_of_address_run : ∃ (s s' : State Directory) (contract : Contract),
    Step Directory.setAsDeployed .default s (.deployed 0 (.ok contract)) s' ∧
      s.cache.entries.get? ("Token", .canonical) = some 1 ∧
      s'.cache.entries.get? ("Token", .canonical) = some 1 ∧
      s'.world.canonical.get? "Token" = s.world.canonical.get? "Token" := by
  obtain ⟨s, past, run, hw, hentry⟩ := address_run
  have isolates := isolates_of_run run
  let contract : Contract := ⟨"Token", Address.ofNat 1, .empty, none⟩
  have step : Step Directory.setAsDeployed .default s (.deployed 0 (.ok contract)) _ :=
    .deployed (.ok contract) hw rfl
  have hslot : Move.slot? s (.deployed 0 (.ok contract)) = some ("Token", .at .zero) := by
    rw [Move.slot?, hw]
    rfl
  have hne : Move.slot? s (.deployed 0 (.ok contract)) ≠ some ("Token", .canonical) := by
    rw [hslot]
    simp
  have hsame := isolates.others _ _ _ step hne
  have hworld := isolates.canonical _ _ _ _ step hslot fun d name => d.canonical.get? name
  exact ⟨s, _, contract, step, hentry, hsame.entry.trans hentry, congrFun hworld "Token"⟩

end Address

end Deployment

end ContractHarness
